/-
# Reading decimal fractions

A decimal fraction is read as the floating-point number nearest to it.  It may have a sign, a
fraction and an exponent; infinity and what is no number are written as words.
-/
import TokenLaunch.Text.Digits

namespace TokenLaunch
namespace Decimal

/-- The floating-point number that is larger than all others. -/
def infinity : Float := 1 / 0

/-- The floating-point value that is no number. -/
def notANumber : Float := 0 / 0

/-- The number of decimal digits in front of the point beyond which everything is infinite, and
behind it beyond which everything is zero. -/
def farthestDigit : Int := 400

/-- The floating-point number nearest to `mantissa * 10 ^ exponent`, with a sign. -/
def nearest (negative : Bool) (mantissa : Nat) (exponent : Int) : Float :=
  let digits : Int := (Nat.toDigits 10 mantissa).length + exponent
  let x :=
    if mantissa = 0 ∨ digits < -farthestDigit then 0
    else if farthestDigit < digits then infinity
    else if 0 ≤ exponent then Float.ofScientific mantissa false exponent.toNat
    else Float.ofScientific mantissa true (-exponent).toNat
  if negative then -x else x

/-- A sign, if there is one, and the rest: whether the sign is a minus. -/
def scanSign : List Char → Bool × List Char
  | '-' :: rest => (true, rest)
  | '+' :: rest => (false, rest)
  | rest => (false, rest)

/-- An exponent that reaches to the end of the text; no text is the exponent zero. -/
def exponent? : List Char → Option Int
  | [] => some 0
  | c :: rest =>
    if c = 'e' ∨ c = 'E' then
      let (negative, ds) := scanSign rest
      if ds ≠ [] ∧ ds.all Char.isDigit then
        some (if negative then -(Digits.value ds : Int) else Digits.value ds)
      else none
    else none

/-- The mantissa and the exponent of digits with at most one point and an optional exponent. -/
def digits? (cs : List Char) : Option (Nat × Int) :=
  let whole := cs.takeWhile Char.isDigit
  let rest := cs.dropWhile Char.isDigit
  let (part, rest) := match rest with
    | '.' :: rest => (rest.takeWhile Char.isDigit, rest.dropWhile Char.isDigit)
    | rest => ([], rest)
  if whole ++ part = [] then none
  else (exponent? rest).map fun e => (Digits.value (whole ++ part), e - part.length)

/-- The floating-point number that a text is written for. -/
def toFloat? (cs : List Char) : Option Float :=
  let (negative, rest) := scanSign cs
  let word := String.ofList (rest.map Char.toLower)
  if word = "inf" ∨ word = "infinity" then some (if negative then -infinity else infinity)
  else if word = "nan" then some notANumber
  else (digits? rest).map fun (mantissa, exponent) => nearest negative mantissa exponent

end Decimal
end TokenLaunch
