/-
# Token standards

A token is of one of three kinds: a fungible balance (ERC-20), unique assets (ERC-721), or many
assets with a balance each (ERC-1155).  A spec names its standard in free text; a text that names
no kind is kept as it stands, so that it can be reported.
-/
import TokenLaunch.Text.Ascii
import TokenLaunch.Text.Blank

namespace TokenLaunch

/-- A kind of token that contracts can be laid out for. -/
inductive Kind
  /-- Interchangeable balances. -/
  | fungible
  /-- Assets told apart by an identifier. -/
  | uniqueAsset
  /-- Balances of many assets in one contract. -/
  | multiAsset
deriving DecidableEq

namespace Kind

/-- Every kind. -/
def all : List Kind := [fungible, uniqueAsset, multiAsset]

theorem mem_all (k : Kind) : k ∈ all := by
  cases k <;> decide

/-- The name of the standard that defines a kind. -/
def name : Kind → String
  | fungible => "ERC20"
  | uniqueAsset => "ERC721"
  | multiAsset => "ERC1155"

/-- The spellings of a kind, in small letters. -/
def spellings : Kind → List String
  | fungible => ["erc20", "erc-20", "fungible"]
  | uniqueAsset => ["erc721", "erc-721", "unique-asset", "nft"]
  | multiAsset => ["erc1155", "erc-1155", "multi-asset"]

/-- The kind that a text spells, whatever its case and the blanks around it. -/
def read? (raw : String) : Option Kind :=
  all.find? fun k => k.spellings.contains (Text.lowerCase (Text.trim raw))

end Kind

/-- The standard of a token as its spec gives it. -/
inductive Standard
  /-- One of the three kinds. -/
  | known (kind : Kind)
  /-- A text that names none of them. -/
  | unrecognized (raw : String)
deriving DecidableEq

/-- A standard was needed that has no kind. -/
structure UnknownStandard where
  /-- The text of the standard as it was given. -/
  raw : String
deriving DecidableEq

namespace UnknownStandard

/-- The sentence that reports the error. -/
def message (e : UnknownStandard) : String :=
  "Unknown token standard: " ++ e.raw

end UnknownStandard

namespace Standard

/-- Read a standard.  Every text is one. -/
def ofText (raw : String) : Standard :=
  match Kind.read? raw with
  | some k => known k
  | none => unrecognized raw

/-- The text of a standard: the name of its kind, or the text it was read from. -/
def text : Standard → String
  | known k => k.name
  | unrecognized raw => raw

/-- The kind of a standard, where it has one. -/
def kind? : Standard → Option Kind
  | known k => some k
  | unrecognized _ => none

/-- The kind of a standard, or the report that it has none. -/
def kind : Standard → Except UnknownStandard Kind
  | known k => .ok k
  | unrecognized raw => .error ⟨raw⟩

/-- Whether a standard has a kind. -/
def isRecognized (s : Standard) : Bool := s.kind?.isSome

@[simp] theorem text_known (k : Kind) : (known k).text = k.name := rfl

@[simp] theorem text_unrecognized (raw : String) : (unrecognized raw).text = raw := rfl

@[simp] theorem kind_known (k : Kind) : (known k).kind = .ok k := rfl

@[simp] theorem kind_unrecognized (raw : String) : (unrecognized raw).kind = .error ⟨raw⟩ := rfl

@[simp] theorem isRecognized_known (k : Kind) : (known k).isRecognized = true := rfl

@[simp] theorem isRecognized_unrecognized (raw : String) :
    (unrecognized raw).isRecognized = false := rfl

theorem ofText_eq_known_iff {raw : String} {k : Kind} :
    ofText raw = known k ↔ Kind.read? raw = some k := by
  rw [ofText]
  cases Kind.read? raw <;> simp

/-- A text that is read as no kind is kept as it stands. -/
theorem ofText_eq_unrecognized_iff {raw t : String} :
    ofText raw = unrecognized t ↔ raw = t ∧ Kind.read? raw = none := by
  rw [ofText]
  cases Kind.read? raw <;> simp

/-- The name of a kind reads as that kind. -/
theorem ofText_name (k : Kind) : ofText k.name = known k := by
  cases k <;> decide

end Standard
end TokenLaunch
