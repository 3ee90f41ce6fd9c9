/-
# Fields of a record

A record is written as an object.  Its fields are found by name, unknown names are passed over,
and a field given twice, under one name or two, is refused.  A record may also be written as the
array of its fields in order; fields at its end may then be missing if they have defaults.
-/
import TokenLaunch.Json

namespace TokenLaunch
namespace Json

/-- The members of a record with the given field names, of which an array must give at least
`least`. -/
def members? (names : List String) (least : Nat) : Json → Option (List (String × Json))
  | object members => some members
  | array items =>
    if least ≤ items.length ∧ items.length ≤ names.length then some (names.zip items) else none
  | _ => none

namespace Fields

variable {v α : Type}

/-- The value of the field that goes by the given names, nothing inside if it is missing, and
nothing at all if it is given twice. -/
def lookup? (names : List String) (members : List (String × v)) : Option (Option v) :=
  match members.filter fun m => names.contains m.1 with
  | [] => some none
  | [m] => some (some m.2)
  | _ => none

/-- A field that must be there. -/
def required? (names : List String) (read : v → Option α) (members : List (String × v)) :
    Option α :=
  (lookup? names members).bind fun found => found.bind read

/-- A field with a default. -/
def optional? (names : List String) (read : v → Option α) (default : α)
    (members : List (String × v)) : Option α :=
  (lookup? names members).bind fun
    | some j => read j
    | none => some default

/-- A missing field has its default. -/
theorem optional?_of_not_mem {names : List String} {read : v → Option α} {default : α}
    {members : List (String × v)} (h : ∀ m ∈ members, m.1 ∉ names) :
    optional? names read default members = some default := by
  have : members.filter (fun m => names.contains m.1) = [] := by
    simpa [List.filter_eq_nil_iff] using fun a b hm => h (a, b) hm
  rw [optional?, lookup?, this]
  rfl

end Fields
end Json
end TokenLaunch
