/-
# Token specs

A spec is the description of a token as a user edits it.  Nothing in it is checked: a field that
has no meaning for the standard, or no sense at all, is dealt with when the spec is normalized.
Only a name and a symbol are asked for before a token is launched.
-/
import TokenLaunch.Access
import TokenLaunch.Feature

namespace TokenLaunch

/-- The description of a token. -/
structure Spec where
  standard : Standard := .known .fungible
  name : String := ""
  symbol : String := ""
  /-- Digits after the point of a fungible balance. -/
  decimals : UInt8 := 18
  /-- Whole tokens minted at construction, as a decimal number; fungible tokens only. -/
  initialSupply : String := "1000000"
  /-- Whole tokens that may ever exist, as a decimal number; fungible tokens only. -/
  maxSupply : String := ""
  /-- Where metadata is found; not for fungible tokens. -/
  baseMetadataUri : String := ""
  features : Flags := {}
  ownable : Bool := true
  roleBased : Bool := false
deriving DecidableEq

/-- Whether a spec can be launched, and what it lacks otherwise. -/
inductive Readiness
  | ready
  | missingName
  | missingSymbol
deriving DecidableEq

namespace Spec

/-- A spec with defaults in all fields but three. -/
def named (standard : Standard) (name symbol : String) : Spec :=
  { standard, name, symbol }

/-- A name is looked for first, then a symbol; blanks count as neither. -/
def readiness (spec : Spec) : Readiness :=
  if Text.isBlankText spec.name then .missingName
  else if Text.isBlankText spec.symbol then .missingSymbol
  else .ready

/-- Guard the token by its owner. -/
def useOwnable (spec : Spec) : Spec := { spec with ownable := true, roleBased := false }

/-- Guard the token by roles. -/
def useRoles (spec : Spec) : Spec := { spec with ownable := false, roleBased := true }

/-- Leave the token unguarded. -/
def useNoGuard (spec : Spec) : Spec := { spec with ownable := false, roleBased := false }

/-- The access model that the flags ask for. -/
def access (spec : Spec) : Access := Access.resolve spec.ownable spec.roleBased

end Spec
end TokenLaunch
