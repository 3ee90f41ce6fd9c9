/-
# Written quantities

A supply is written as a non-negative decimal number: ASCII digits with at most one point, in
which `_` may separate digits and blanks may surround the whole.  On chain it is an integer
number of smallest units, `10 ^ decimals` to the unit, held in a 256-bit word.

* `Quantity.isDecimal` tells whether a text is a number;
* `Quantity.unitsOf?` scales the digits before and after the point, and fails where a word is too
  small for a part, for a power of ten or for the whole;
* `Quantity.scale` writes the units as an integer literal, or says why it cannot.
-/
import TokenLaunch.Text.Blank
import TokenLaunch.Word

namespace TokenLaunch
namespace Quantity

/-- Why a quantity has no number of smallest units. -/
inductive Error
  /-- The text is no decimal number. -/
  | notDecimal (text : String)
  /-- The number has a digit below the smallest unit. -/
  | tooPrecise (text : String) (decimals : UInt8)
  /-- The number of units, or the size of the unit, needs more than 256 bits. -/
  | overflow (text : String) (decimals : UInt8)
deriving DecidableEq

namespace Error

/-- The sentence that reports an error. -/
def message : Error → String
  | notDecimal t => "'" ++ t ++ "' is not a decimal quantity"
  | tooPrecise t d => "'" ++ t ++ "' has more than " ++ d.toNat.repr ++ " fractional digits"
  | overflow t d =>
    "'" ++ t ++ "' scaled by 10^" ++ d.toNat.repr ++ " exceeds the uint256 range"

end Error

/-! ## The parts of a number -/

/-- The characters of a quantity that count: `_` only separates digits. -/
def withoutSeparators (cs : List Char) : List Char :=
  cs.filter (· != '_')

/-- The characters before the first point. -/
def whole (cs : List Char) : List Char :=
  cs.takeWhile (· != '.')

/-- The characters after the first point. -/
def fraction (cs : List Char) : List Char :=
  (cs.dropWhile (· != '.')).drop 1

/-- Whether a text is a run of digits with at most one point and at least one digit. -/
def isDecimal (cs : List Char) : Bool :=
  (whole cs).all Char.isDigit && (fraction cs).all Char.isDigit &&
    !(whole cs ++ fraction cs).isEmpty

/-- Zeros at the end of the fraction do not count. -/
def significant (cs : List Char) : List Char :=
  Text.dropEnd (· == '0') (fraction cs)

/-! ## Scaling -/

section Scaling

variable {W : Type} (A : WordArithmetic W)

/-- The word of a run of digits; it may be empty, and zeros in front do not count. -/
def word? (digits : List Char) : Option W :=
  let kept := digits.dropWhile (· == '0')
  if kept.isEmpty then some A.zero else A.ofDigits? kept

/-- A power of ten. -/
def powTen? : Nat → Option W
  | 0 => some A.one
  | n + 1 => (powTen? n).bind fun power => A.mul? power A.ten

/-- The smallest units of a number, from its digits before and after the point. -/
def unitsOf? (whole fraction : List Char) (decimals : Nat) : Option W := do
  let wholePart ← word? A whole
  let fractionPart ← word? A fraction
  let wholeScale ← powTen? A decimals
  let fractionScale ← powTen? A (decimals - fraction.length)
  let wholeUnits ← A.mul? wholePart wholeScale
  let fractionUnits ← A.mul? fractionPart fractionScale
  A.add? wholeUnits fractionUnits

/-- The units of a quantity as an integer literal, with given words. -/
def scaleWith (text : String) (decimals : UInt8) : Except Error String :=
  let t := Text.trim text
  let cs := withoutSeparators t.toList
  if !isDecimal cs then .error (.notDecimal t)
  else if decimals.toNat < (significant cs).length then .error (.tooPrecise t decimals)
  else
    match unitsOf? A (whole cs) (significant cs) decimals.toNat with
    | none => .error (.overflow t decimals)
    | some units => .ok (A.numeral units)

end Scaling

/-- The units of a quantity as an integer literal. -/
def scale (text : String) (decimals : UInt8) : Except Error String :=
  scaleWith Word.arithmetic text decimals

end Quantity
end TokenLaunch
