/-
# Specs in TOML

Every field of a spec has one type in TOML: texts are strings and nothing else.
-/
import TokenLaunch.Spec.Fields
import TokenLaunch.Toml.Reader

namespace TokenLaunch
namespace Toml

/-- How TOML reads the values of fields. -/
def fields : FieldReader Toml where
  text? := Toml.text?
  flag? := Toml.flag?
  byte? := Toml.byte?
  toggle? := Toml.flag?
  isKeepable _ := true

/-- The spec that a TOML text describes. -/
def spec? (s : String) : Option Spec := do
  Spec.ofMembers? fields (← (← parse? s).members?)

end Toml
end TokenLaunch
