/-
# The command line

The grammar of the program: options that concern it as a whole, and then one of its commands with
what belongs to it.  Some options take their value from the environment if the command line does
not give one; such a value must be in order only then.
-/
import TokenLaunch.Command.Arguments
import TokenLaunch.Command.Request

namespace TokenLaunch

/-- The environment: what stands under a name, if anything. -/
abbrev Environment := String → Option String

namespace CommandLine

open Arguments

/-! ## Values of options -/

/-- Any text. -/
def anyText (s : String) : Option String := some s

/-- Any path, also the empty one. -/
def anyPath (s : String) : Option Path := some ⟨s⟩

/-- A path that is not empty. -/
def properPath? (s : String) : Option Path :=
  if s.isEmpty then none else some ⟨s⟩

/-- A number of at least zero; a plus sign may stand in front. -/
def natural? (cs : List Char) : Option Nat :=
  let ds := match cs with
    | '+' :: ds => ds
    | ds => ds
  if ds.isEmpty || !ds.all Char.isDigit then none else some (Digits.value ds)

/-- A number of sixty-four bits. -/
def word? (s : String) : Option UInt64 :=
  (natural? s.toList).bind fun n => if n < UInt64.size then some (UInt64.ofNat n) else none

/-- A number of eight bits.  Zero may have a minus sign. -/
def byte? (s : String) : Option UInt8 :=
  match s.toList with
  | '-' :: ds => if !ds.isEmpty && ds.all fun c => c == '0' then some 0 else none
  | cs => (natural? cs).bind fun n => if n < UInt8.size then some (UInt8.ofNat n) else none

/-- The feature of a name. -/
def feature? (s : String) : Option Feature :=
  [("mintable", .mintable), ("burnable", .burnable), ("pausable", .pausable),
    ("permit", .permit), ("votes", .votes), ("flash-mint", .flashMint),
    ("snapshots", .snapshots)].lookup s

/-- The access model of a name. -/
def access? (s : String) : Option Access :=
  [("owner", .owner), ("roles", .roles), ("none", .unguarded)].lookup s

/-! ## Options of a spec -/

/-- The options about single fields of a spec. -/
def overrideParameters : List (Parameter Overrides) :=
  [{ long := "standard"
     effect := once Overrides.standard (fun a o => { o with standard := some a }) anyText },
    { long := "name"
      effect := once Overrides.name (fun a o => { o with name := some a }) anyText },
    { long := "symbol"
      effect := once Overrides.symbol (fun a o => { o with symbol := some a }) anyText },
    { long := "decimals"
      effect := once Overrides.decimals (fun a o => { o with decimals := some a }) byte? },
    { long := "supply"
      effect := once Overrides.initialSupply (fun a o => { o with initialSupply := some a })
        anyText },
    { long := "max-supply"
      effect := once Overrides.maxSupply (fun a o => { o with maxSupply := some a }) anyText },
    { long := "base-uri"
      effect := once Overrides.baseMetadataUri (fun a o => { o with baseMetadataUri := some a })
        anyText },
    { long := "feature"
      effect := .value fun text o =>
        (feature? text).map fun f => { o with features := o.features ++ [f] } },
    { long := "access"
      effect := once Overrides.access (fun a o => { o with access := some a }) access? }]

/-- The options about the spec of a command. -/
def specParameters : List (Parameter SpecSource) :=
  { long := "file"
    short := some 'f'
    effect := once SpecSource.file (fun p s => { s with file := some p }) anyPath } ::
  overrideParameters.map fun p =>
    p.within SpecSource.overrides fun o s => { s with overrides := o }

/-- Nothing may stand among the options. -/
def noOperand {σ : Type} : String → σ → Option σ := fun _ _ => none

/-- The spec that a list of options describes. -/
def specSource (args : List String) : Except Stop SpecSource :=
  (read ⟨help :: specParameters, some noOperand⟩ args {}).map Prod.fst

/-! ## Commands -/

/-- The options of `generate`. -/
def generate (args : List String) : Except Stop Request :=
  let spec := specParameters.map fun p => p.within Prod.fst fun s t => (s, t.2)
  let out : Parameter (SpecSource × Option Path) :=
    { long := "out", effect := once Prod.snd (fun p t => (t.1, some p)) anyPath }
  (read ⟨help :: out :: spec, some noOperand⟩ args ({}, none)).map fun ((s, out), _) =>
    .generate s out

/-- The options of `deploy`.  The chain can be given in the environment. -/
def deploy (env : Environment) (args : List String) : Except Stop Request :=
  let spec := specParameters.map fun p => p.within Prod.fst fun s t => (s, t.2)
  let own : List (Parameter LaunchOptions) :=
    [{ long := "chain-id"
       effect := once LaunchOptions.chainId (fun n o => { o with chainId := some n }) word? },
      { long := "seed"
        effect := once LaunchOptions.seed (fun n o => { o with seed := some n }) word? },
      { long := "instant"
        effect := onceOn LaunchOptions.instant fun o => { o with instant := true } }]
  let parameters := own.map fun p => p.within Prod.snd fun o t => (t.1, o)
  match read ⟨help :: spec ++ parameters, some noOperand⟩ args ({}, {}) with
  | .error reason => .error reason
  | .ok ((s, o), _) =>
    match o.chainId, env "TOKENFORGE_CHAIN_ID" with
    | none, some text =>
      match word? text with
      | some n => .ok (.deploy s { o with chainId := some n })
      | none => .error .usage
    | _, _ => .ok (.deploy s o)

/-- At most one operand, and no options. -/
def optional (args : List String) : Except Stop (Option String) :=
  (read ⟨[help], some fun text s => if s.isNone then some (some text) else none⟩ args none).map
    Prod.fst

/-- Exactly one operand, and no options. -/
def single (args : List String) : Except Stop String :=
  match optional args with
  | .ok (some text) => .ok text
  | .ok none => .error .usage
  | .error reason => .error reason

/-- The options of a list of tokens. -/
def list (args : List String) : Except Stop Request :=
  let standard : Parameter (Option String) :=
    { long := "standard", short := some 's', effect := once id (fun a _ => some a) anyText }
  (read ⟨[help, standard], some noOperand⟩ args none).map fun (s, _) => .listTokens s

/-- No option and no operand. -/
def nothing (args : List String) : Except Stop Unit :=
  (read ⟨[help], some noOperand⟩ args ()).map Prod.fst

/-- Ask how to use a command, by the names that lead to it. -/
def helpOn (tree : List (String × List String)) : List String → Stop
  | [] => .help
  | [name] => if name == "help" || (tree.lookup name).isSome then .help else .usage
  | [name, sub] =>
    if ((tree.lookup name).getD []).contains sub then .help else .usage
  | _ => .usage

/-- The commands on tokens. -/
def tokenCommands : List String := ["list", "show", "remove", "verify", "unverify", "help"]

/-- A command on tokens. -/
def tokens (args : List String) : Except Stop Request :=
  match read (σ := Unit) ⟨[help], none⟩ args () with
  | .error reason => .error reason
  | .ok (_, []) => .error .usage
  | .ok (_, name :: rest) =>
    match name with
    | "list" => list rest
    | "show" => (single rest).map .showToken
    | "remove" => (single rest).map .removeToken
    | "verify" => (single rest).map fun address => .markToken address true
    | "unverify" => (single rest).map fun address => .markToken address false
    | "help" => .error (helpOn (tokenCommands.map fun name => (name, [])) rest)
    | _ => .error .usage

/-- The commands, each with the commands that belong to it. -/
def commands : List (String × List String) :=
  [("generate", []), ("gen", []), ("inspect", []), ("features", []), ("deploy", []),
    ("tokens", tokenCommands), ("rpc", []), ("config", [])]

/-- The standard whose features are listed if none is given. -/
def usualStandard : String := "ERC20"

/-- A command by its name. -/
def request (env : Environment) (name : String) (rest : List String) : Except Stop Request :=
  match name with
  | "generate" | "gen" => generate rest
  | "inspect" => (specSource rest).map .inspect
  | "features" => (optional rest).map fun s => .features (s.getD usualStandard)
  | "deploy" => deploy env rest
  | "tokens" => tokens rest
  | "rpc" => (optional rest).map .endpoint
  | "config" => (nothing rest).map fun _ => .showSettings
  | "help" => .error (helpOn commands rest)
  | _ => .error .usage

/-! ## The whole line -/

/-- The options that concern the program as a whole. -/
structure General where
  settings : Option Path := none
  dashboard : Option Path := none
  format : Option OutputFormat := none
  /-- Whether to log in detail. -/
  verbose : Bool := false

/-- The options before the command. -/
def generalParameters : List (Parameter General) :=
  [help,
    { long := "version", short := some 'V', effect := .stop .version },
    { long := "config"
      short := some 'c'
      effect := once General.settings (fun p g => { g with settings := some p }) anyPath },
    { long := "state"
      effect := once General.dashboard (fun p g => { g with dashboard := some p }) properPath? },
    { long := "output"
      short := some 'o'
      effect := once General.format (fun f g => { g with format := some f })
        OutputFormat.ofName? },
    { long := "verbose"
      short := some 'v'
      effect := onceOn General.verbose fun g => { g with verbose := true } }]

/-- What a command line asks for. -/
def parse (env : Environment) (args : List String) : Except Stop Invocation :=
  match read ⟨generalParameters, none⟩ args {} with
  | .error reason => .error reason
  | .ok (_, []) => .error .usage
  | .ok (g, name :: rest) =>
    match request env name rest with
    | .error reason => .error reason
    | .ok r =>
      let settings := g.settings.or ((env "TOKENFORGE_CONFIG").bind anyPath)
      match g.dashboard, env "TOKENFORGE_STATE" with
      | none, some text =>
        match properPath? text with
        | some p => .ok ⟨settings, some p, g.format.getD .table, r⟩
        | none => .error .usage
      | dashboard, _ => .ok ⟨settings, dashboard, g.format.getD .table, r⟩

end CommandLine
end TokenLaunch
