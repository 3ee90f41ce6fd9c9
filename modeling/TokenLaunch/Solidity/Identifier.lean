/-
# Identifiers

A contract is named after the token's symbol.  Of the symbol only ASCII letters, digits and
underscores are kept, and an underscore goes in front where a digit would come first; a fixed
suffix follows as it is.
-/

namespace TokenLaunch
namespace Solidity
namespace Identifier

/-- The characters that a symbol passes on to an identifier. -/
def isPart (c : Char) : Bool :=
  c.isAlphanum || c == '_'

/-- Put an underscore in front of a leading digit. -/
def guardDigit : List Char → List Char
  | c :: cs => if c.isDigit then '_' :: c :: cs else c :: cs
  | [] => []

/-- The part of an identifier that comes from a symbol. -/
def stem (symbol : List Char) : List Char :=
  guardDigit (symbol.filter isPart)

/-- The identifier made of a symbol and a suffix. -/
def ofSymbol (symbol suffix : String) : String :=
  String.ofList (stem symbol.toList) ++ suffix

@[simp] theorem toList_ofSymbol (symbol suffix : String) :
    (ofSymbol symbol suffix).toList = stem symbol.toList ++ suffix.toList := by
  simp [ofSymbol]

end Identifier
end Solidity
end TokenLaunch
