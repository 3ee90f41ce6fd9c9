/-
# Arguments of a command line

Arguments are read from left to right, and what has been read is kept in a value that grows.  An
argument that starts with two dashes is the long name of an option, perhaps with a value behind an
equals sign; one that starts with a single dash holds short names, of which the last may have a
value right behind it.  Else the value is the next argument, which must then not start with a dash
unless it is one.  Two dashes alone end the options.  Whatever else stands among the arguments is
an operand.
-/

namespace TokenLaunch
namespace Arguments

/-- Why a command line is not obeyed. -/
inductive Stop
  /-- It is wrong. -/
  | usage
  /-- It asks how to use the program. -/
  | help
  /-- It asks for the version of the program. -/
  | version
deriving DecidableEq

/-- What an option does to what has been read.  Nothing comes out if it is refused. -/
inductive Effect (σ : Type)
  | switch (set : σ → Option σ)
  | value (set : String → σ → Option σ)
  | stop (s : Stop)

/-- An option that a command knows. -/
structure Parameter (σ : Type) where
  long : String
  short : Option Char := none
  effect : Effect σ

/-- What a command knows. -/
structure Grammar (σ : Type) where
  parameters : List (Parameter σ)
  /-- What an operand does to what has been read.  If there is none, the first operand is the name
  of another command, which the remaining arguments belong to. -/
  operand : Option (String → σ → Option σ)

variable {σ τ α : Type}

/-! ## Options -/

/-- An option with a value that may be given once. -/
def once (get : σ → Option α) (put : α → σ → σ) (read : String → Option α) : Effect σ :=
  .value fun text s =>
    match get s with
    | some _ => none
    | none => (read text).map fun a => put a s

/-- An option without a value that may be given once. -/
def onceOn (get : σ → Bool) (put : σ → σ) : Effect σ :=
  .switch fun s => if get s then none else some (put s)

/-- The effect on a part is an effect on the whole. -/
def Effect.within (get : τ → σ) (put : σ → τ → τ) : Effect σ → Effect τ
  | switch set => .switch fun t => (set (get t)).map fun s => put s t
  | value set => .value fun text t => (set text (get t)).map fun s => put s t
  | stop s => .stop s

/-- An option of a part is an option of the whole. -/
def Parameter.within (get : τ → σ) (put : σ → τ → τ) (p : Parameter σ) : Parameter τ where
  long := p.long
  short := p.short
  effect := p.effect.within get put

/-- The option that asks how to use the program; every command knows it. -/
def help : Parameter σ where
  long := "help"
  short := some 'h'
  effect := .stop .help

/-! ## Reading -/

/-- What comes of an argument that starts with a dash. -/
inductive Reading (σ : Type)
  | done (s : σ)
  /-- The next argument is a value. -/
  | awaiting (set : String → Option σ)

/-- What was obeyed, or a complaint. -/
def obeyed : Option σ → Except Stop (Reading σ)
  | some s => .ok (.done s)
  | none => .error .usage

/-- What comes of a long name, perhaps with a value. -/
def readLong (ps : List (Parameter σ)) (cs : List Char) (s : σ) : Except Stop (Reading σ) :=
  let name := String.ofList (cs.takeWhile fun c => c != '=')
  let attached := (cs.dropWhile fun c => c != '=').tail?
  match (ps.find? fun p => p.long == name).map Parameter.effect, attached with
  | some (.switch set), none => obeyed (set s)
  | some (.value set), some text => obeyed (set (String.ofList text) s)
  | some (.value set), none => .ok (.awaiting fun text => set text s)
  | some (.stop reason), none => .error reason
  | _, _ => .error .usage

/-- What comes of short names in a row. -/
def readShort (ps : List (Parameter σ)) : List Char → σ → Except Stop (Reading σ)
  | [], s => .ok (.done s)
  | c :: rest, s =>
    match (ps.find? fun p => p.short == some c).map Parameter.effect, rest with
    | some (.switch set), _ =>
      match set s with
      | some s => readShort ps rest s
      | none => .error .usage
    | some (.value set), [] => .ok (.awaiting fun text => set text s)
    | some (.value set), '=' :: text => obeyed (set (String.ofList text) s)
    | some (.value set), text => obeyed (set (String.ofList text) s)
    | some (.stop reason), _ => .error reason
    | none, _ => .error .usage

/-- Whether an argument can be the value of the option before it. -/
def canBeValue (arg : String) : Bool :=
  arg.toList.head? != some '-' || arg == "-"

/-- Operands up to the end. -/
def readOperands (take : String → σ → Option σ) : List String → σ → Except Stop σ
  | [], s => .ok s
  | arg :: rest, s =>
    match take arg s with
    | some s => readOperands take rest s
    | none => .error .usage

/-- Read arguments.  The answer is what has been read, and the arguments from the name of another
command on. -/
def read (g : Grammar σ) : List String → σ → Except Stop (σ × List String)
  | [], s => .ok (s, [])
  | arg :: rest, s =>
    match arg.toList with
    | ['-', '-'] =>
      match g.operand with
      | some take => (readOperands take rest s).map fun s => (s, [])
      | none => if rest.isEmpty then .ok (s, []) else .error .usage
    | '-' :: c :: cs =>
      match if c == '-' then readLong g.parameters cs s else readShort g.parameters (c :: cs) s with
      | .error reason => .error reason
      | .ok (.done s) => read g rest s
      | .ok (.awaiting set) =>
        match rest with
        | [] => .error .usage
        | text :: rest =>
          match if canBeValue text then set text else none with
          | some s => read g rest s
          | none => .error .usage
    | _ =>
      match g.operand with
      | none => .ok (s, arg :: rest)
      | some take =>
        match take arg s with
        | some s => read g rest s
        | none => .error .usage

end Arguments
end TokenLaunch
