/-
# Reading declarations off tokens

A reader looks for a key token and reads what it can from the tokens that follow, at every place
where the key stands (`occurrences`).  The readers here find the contracts, the functions, the
constructors and the constants that a source declares, and the calls of a name.

What is read in a list of tokens may depend on what follows it.  Where it does not, `Reads` says
what is read, and lists of that kind can be read one by one (`Reads.append`, `reads_flatMap`), which
is how the tokens of a whole file are read: part by part.
-/
import TokenLaunch.Proofs.Source.Token

namespace TokenLaunch
namespace Solidity

/-- What is read right after each key token. -/
def occurrences {α : Type} (key : Token) (read : List Token → Option α) : List Token → List α
  | [] => []
  | t :: ts => (if t = key then (read ts).toList else []) ++ occurrences key read ts

/-- A function or a constructor as it stands in a source. -/
structure Declaration where
  /-- The name; `constructor` for a constructor. -/
  name : String
  /-- The tokens from the parameters up to the body. -/
  header : List Token
  /-- The tokens of the body. -/
  body : List Token
deriving DecidableEq

namespace Reader

/-- The tokens up to the first given one. -/
def upTo (stop : Token) (ts : List Token) : List Token :=
  ts.takeWhile (· ≠ stop)

/-- The tokens after the first given one. -/
def past (stop : Token) (ts : List Token) : List Token :=
  (ts.dropWhile (· ≠ stop)).drop 1

/-- Header and body: the body is what stands between the first braces. -/
def routine (name : String) (ts : List Token) : Declaration :=
  ⟨name, upTo (.mark '{') ts, upTo (.mark '}') (past (.mark '{') ts)⟩

/-- A name and a routine. -/
def function? : List Token → Option Declaration
  | .word name :: ts => some (routine name ts)
  | _ => none

/-- Arguments in round brackets, which hold no round brackets themselves. -/
def arguments? : List Token → Option (List Token)
  | .mark '(' :: ts => some (upTo (.mark ')') ts)
  | _ => none

/-- A name that a value is given to. -/
def constant? : List Token → Option String
  | .word name :: .mark '=' :: _ => some name
  | _ => none

/-- A name and what stands in the inheritance clause. -/
def contract? : List Token → Option (String × List Token)
  | .word name :: .word is :: ts => if is = "is" then some (name, upTo (.mark '{') ts) else none
  | _ => none

end Reader

/-- The functions that a source declares. -/
def functions : List Token → List Declaration :=
  occurrences (.word "function") Reader.function?

/-- The constructors that a source declares. -/
def constructors : List Token → List Declaration :=
  occurrences (.word "constructor") fun ts => some (Reader.routine "constructor" ts)

/-- The constants that a source declares. -/
def constants : List Token → List String :=
  occurrences (.word "constant") Reader.constant?

/-- The contracts that a source declares, each with its inheritance clause. -/
def contracts : List Token → List (String × List Token) :=
  occurrences (.word "contract") Reader.contract?

/-- The arguments of the calls of a name. -/
def calls (name : String) : List Token → List (List Token) :=
  occurrences (.word name) Reader.arguments?

/-- Names with commas between them. -/
def listing (names : List String) : List Token :=
  (names.map Token.word).intersperse (.mark ',')

/-! ## What is read in a list -/

section Reads

variable {α β : Type} {key : Token} {read : List Token → Option α} {ts us : List Token}
  {xs ys : List α}

@[simp] lemma occurrences_nil : occurrences key read [] = [] := rfl

lemma occurrences_cons (t : Token) (ts : List Token) :
    occurrences key read (t :: ts) =
      (if t = key then (read ts).toList else []) ++ occurrences key read ts := rfl

/-- What is read in a list, whatever follows it. -/
def Reads (key : Token) (read : List Token → Option α) (ts : List Token) (xs : List α) : Prop :=
  ∀ rest, occurrences key read (ts ++ rest) = xs ++ occurrences key read rest

lemma Reads.occurrences_eq (h : Reads key read ts xs) : occurrences key read ts = xs := by
  have hnil := h []
  rwa [List.append_nil, occurrences_nil, List.append_nil] at hnil

lemma Reads.self (h : Reads key read ts xs) : Reads key read ts (occurrences key read ts) := by
  rw [h.occurrences_eq]
  exact h

/-- Without the key nothing is read. -/
lemma reads_of_not_mem (h : key ∉ ts) : Reads key read ts [] := by
  intro rest
  induction ts with
  | nil => rfl
  | cons t ts ih =>
    have ht : t ≠ key := (List.ne_of_not_mem_cons h).symm
    rw [List.cons_append, occurrences_cons, if_neg ht, List.nil_append]
    exact ih (List.not_mem_of_not_mem_cons h)

lemma occurrences_of_not_mem (h : key ∉ ts) : occurrences key read ts = [] :=
  (reads_of_not_mem h).occurrences_eq

lemma reads_nil : Reads key read [] [] :=
  reads_of_not_mem List.not_mem_nil

lemma Reads.append (hts : Reads key read ts xs) (hus : Reads key read us ys) :
    Reads key read (ts ++ us) (xs ++ ys) := by
  intro rest
  rw [List.append_assoc, hts, hus, List.append_assoc]

/-- Parts are read one by one. -/
lemma reads_flatMap {zs : List β} {f : β → List Token} {g : β → List α}
    (h : ∀ z ∈ zs, Reads key read (f z) (g z)) : Reads key read (zs.flatMap f) (zs.flatMap g) := by
  induction zs with
  | nil => exact reads_nil
  | cons z zs ih =>
    obtain ⟨hz, hzs⟩ := List.forall_mem_cons.mp h
    rw [List.flatMap_cons, List.flatMap_cons]
    exact hz.append (ih hzs)

/-- A key, and behind it all that is read. -/
lemma reads_key_cons {x : Option α} (h : key ∉ ts) (hread : ∀ rest, read (ts ++ rest) = x) :
    Reads key read (key :: ts) x.toList := by
  intro rest
  rw [List.cons_append, occurrences_cons, if_pos rfl, hread, reads_of_not_mem h, List.nil_append]

end Reads

/-! ## What the readers read -/

namespace Reader

lemma decide_ne_of_not_mem {stop : Token} {ts : List Token} (h : stop ∉ ts) :
    ∀ t ∈ ts, decide (t ≠ stop) = true := by
  intro t ht
  have hne : t ≠ stop := fun heq => h (heq ▸ ht)
  exact decide_eq_true hne

lemma upTo_append {stop : Token} {ts : List Token} (h : stop ∉ ts) (rest : List Token) :
    upTo stop (ts ++ stop :: rest) = ts := by
  rw [upTo, List.takeWhile_append_of_pos (decide_ne_of_not_mem h), List.takeWhile_cons]
  simp

lemma past_append {stop : Token} {ts : List Token} (h : stop ∉ ts) (rest : List Token) :
    past stop (ts ++ stop :: rest) = rest := by
  rw [past, List.dropWhile_append_of_pos (decide_ne_of_not_mem h), List.dropWhile_cons]
  simp

lemma routine_append (name : String) {header body : List Token} (hheader : .mark '{' ∉ header)
    (hbody : .mark '}' ∉ body) (rest : List Token) :
    routine name (header ++ .mark '{' :: (body ++ .mark '}' :: rest)) = ⟨name, header, body⟩ := by
  rw [routine, upTo_append hheader, past_append hheader, upTo_append hbody]

lemma arguments?_append {args : List Token} (h : .mark ')' ∉ args) (rest : List Token) :
    arguments? (.mark '(' :: (args ++ .mark ')' :: rest)) = some args := by
  rw [arguments?, upTo_append h]

lemma contract?_append (name : String) {parents : List Token} (h : .mark '{' ∉ parents)
    (rest : List Token) :
    contract? (.word name :: .word "is" :: (parents ++ .mark '{' :: rest)) =
      some (name, parents) := by
  rw [contract?, if_pos rfl, upTo_append h]

end Reader

section Calls

variable {name : String} {args ts : List Token}

/-- A call is read with the whole of its arguments. -/
lemma reads_call (hclose : .mark ')' ∉ args) (hargs : .word name ∉ args) (hts : .word name ∉ ts) :
    Reads (.word name) Reader.arguments?
      (.word name :: .mark '(' :: (args ++ .mark ')' :: ts)) [args] := by
  refine reads_key_cons (x := some args) (by simp [hargs, hts]) fun rest => ?_
  rw [List.cons_append, List.append_assoc, List.cons_append, Reader.arguments?_append hclose]

end Calls

end Solidity
end TokenLaunch
