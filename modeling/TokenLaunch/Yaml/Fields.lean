/-
# Specs in YAML

Fields that are texts take any scalar for its text.  The other fields must be written plain, so
that they mean a boolean or a number; or as a literal block that is tagged as one.
-/
import TokenLaunch.Spec.Fields
import TokenLaunch.Yaml.Node
import TokenLaunch.Yaml.Plain

namespace TokenLaunch
namespace Yaml

/-- The tag of a kind of scalar. -/
def scalarTag (kind : String) : String := "tag:yaml.org,2002:" ++ kind

/-- Whether a whole number fits into 64 bits, with or without a sign. -/
def isWord (n : Int) : Bool :=
  decide (Int64.minValue.toInt ≤ n) && decide (n < UInt64.size)

namespace Node

/-- The text of a scalar. -/
def text? : Node → Option String
  | scalar _ _ s => some s
  | _ => none

/-- The text of a scalar that is read as a kind of value. -/
def typedText? (kind : String) : Node → Option String
  | scalar tag style s =>
    if style = .plain ∨ style = .literal ∧ tag = some (scalarTag kind) then some s else none
  | _ => none

/-- The value of a boolean. -/
def flag? (n : Node) : Option Bool :=
  (n.typedText? "bool").bind Plain.bool?

/-- A number of eight bits. -/
def byte? (n : Node) : Option UInt8 :=
  ((n.typedText? "int").bind Plain.natural?).bind fun v =>
    if v < UInt8.size then some (UInt8.ofNat v) else none

/-- What a scalar means when nothing is known about it.  A scalar with a tag of one's own, or one
that does not fit its tag, means nothing at all. -/
def meaning? : Node → Option Plain
  | scalar tag style s =>
    match tag with
    | none => if style = .plain then some (Plain.ofText s) else some (.text s)
    | some t =>
      if t.startsWith "!" then none
      else if t = scalarTag "bool" then (Plain.bool? s).map .bool
      else if t = scalarTag "int" then (Plain.integer? s).map .integer
      else if t = scalarTag "float" then if Plain.isFloat s then some .float else none
      else if t = scalarTag "null" then if Plain.isNull s then some .null else none
      else some (.text s)
  | _ => none

/-- The value of a feature's toggle. -/
def toggle? (n : Node) : Option Bool :=
  match n.meaning? with
  | some (.bool b) => some b
  | _ => none

/-- Whether a tag can be passed over. -/
def isKeptTag (tag : Option String) : Bool :=
  tag.all fun t => !t.startsWith "!"

mutual
/-- Whether a value can be kept aside at most `depth` levels deep. -/
def isKeepable (depth : Nat) : Node → Bool
  | scalar tag style s =>
    match meaning? (scalar tag style s) with
    | some (.integer n) => isWord n
    | some _ => true
    | none => false
  | sequence tag items => isKeptTag tag && decide (0 < depth) && allKeepable (depth - 1) items
  | mapping tag members =>
    isKeptTag tag && decide (0 < depth) && membersKeepable (depth - 1) members
/-- Whether every item can be kept aside. -/
def allKeepable (depth : Nat) : List Node → Bool
  | [] => true
  | n :: rest => n.isKeepable depth && allKeepable depth rest
/-- Whether every member can be kept aside. -/
def membersKeepable (depth : Nat) : List (Node × Node) → Bool
  | [] => true
  | (k, v) :: rest => k.isKeepable depth && v.isKeepable depth && membersKeepable depth rest
end

/-- The members of a mapping whose keys are scalars. -/
def members? : List (Node × Node) → Option (List (String × Node)) :=
  List.mapM fun (k, v) => k.text?.map fun name => (name, v)

end Node

/-- How many levels deep a value under an unknown name may be. -/
def keptDepth : Nat := 127

/-- How YAML reads the values of fields. -/
def fields : FieldReader Node where
  text? := Node.text?
  flag? := Node.flag?
  byte? := Node.byte?
  toggle? := Node.toggle?
  isKeepable := Node.isKeepable keptDepth

/-- The spec that a YAML text describes.  A text without a document, or with an empty one, is the
spec that says nothing. -/
def spec? (s : String) : Option Spec := do
  match (← document? s) with
  | none | some (.scalar _ .plain "") => some {}
  | some (.mapping _ members) => do Spec.ofMembers? fields (← Node.members? members)
  | some _ => none

end Yaml
end TokenLaunch
