/-
# The shortest decimal text of a number

A floating-point number is written with the fewest digits that are read back as the same number,
and among those with the digits nearest to it.  All arithmetic is on whole numbers: a number
`mantissa * 2 ^ exponent` is compared with decimal fractions `digits * 10 ^ power` exactly.
-/
import TokenLaunch.Decimal.Binary
import TokenLaunch.Text.Digits

namespace TokenLaunch
namespace Decimal

/-- A decimal fraction `digits * 10 ^ power`. -/
structure Fraction where
  digits : Nat
  power : Int
deriving DecidableEq

/-- A decimal fraction compared with `mantissa * 2 ^ exponent`. -/
def Fraction.compare (f : Fraction) (mantissa : Nat) (exponent : Int) : Ordering :=
  Ord.compare (f.digits * Nat.pow 10 f.power.toNat * Nat.pow 2 (-exponent).toNat)
    (mantissa * Nat.pow 2 exponent.toNat * Nat.pow 10 (-f.power).toNat)

/-- Whether the number below `mantissa * 2 ^ exponent` is only half as far away as the one above. -/
def isNarrowBelow (mantissa : Nat) (exponent : Int) : Bool :=
  decide (mantissa = Nat.pow 2 52) && decide (-1074 < exponent)

/-- Whether a decimal fraction is read as `mantissa * 2 ^ exponent`: it lies at most half way to the
neighbours, and only if the mantissa is even may it lie half way. -/
def readsBack (mantissa : Nat) (exponent : Int) (f : Fraction) : Bool :=
  let below := if isNarrowBelow mantissa exponent then 1 else 2
  let low := f.compare (4 * mantissa - below) (exponent - 2)
  let high := f.compare (4 * mantissa + 2) (exponent - 2)
  if mantissa % 2 = 0 then low != .lt && high != .gt else low == .gt && high == .lt

/-- The power of ten that `mantissa * 2 ^ exponent` reaches but not ten times. -/
def magnitude (mantissa : Nat) (exponent : Int) : Int :=
  let length (n : Nat) : Int := (Nat.toDigits 10 n).length
  let guess := length (mantissa * Nat.pow 2 exponent.toNat) - length (Nat.pow 2 (-exponent).toNat)
  if (Fraction.mk 1 guess).compare mantissa exponent == .gt then guess - 1 else guess

/-- The decimal fraction with a number of digits that is read as `mantissa * 2 ^ exponent`.  If both
neighbours on the grid of such fractions are, the nearer one is taken, and of two at the same
distance the upper one. -/
def atLength? (mantissa : Nat) (exponent : Int) (length : Nat) : Option Fraction :=
  let power := magnitude mantissa exponent + 1 - (length : Int)
  let num := mantissa * Nat.pow 2 exponent.toNat * Nat.pow 10 (-power).toNat
  let den := Nat.pow 2 (-exponent).toNat * Nat.pow 10 power.toNat
  let lower : Fraction := ⟨num / den, power⟩
  let upper : Fraction := ⟨num / den + 1, power⟩
  match readsBack mantissa exponent lower, readsBack mantissa exponent upper with
  | true, true => some (if 2 * (num % den) < den then lower else upper)
  | true, false => some lower
  | false, true => some upper
  | false, false => none

/-- The shortest decimal fraction that is read as `mantissa * 2 ^ exponent`.  Seventeen digits are
always enough. -/
def shortest (mantissa : Nat) (exponent : Int) : Fraction :=
  ((List.range 17).findSome? fun n => atLength? mantissa exponent (n + 1)).getD ⟨0, 0⟩

/-! ## Layout -/

/-- The exponents of the leading digit from which on a number is written with a power of ten. -/
def scientificFrom : Int := 16

/-- The least exponent of the leading digit with which a number is written without a power of
ten. -/
def positionalFrom : Int := -4

/-- A decimal fraction as text.  Without a power of ten there is at least one digit on either side
of the point. -/
def Fraction.text (f : Fraction) : List Char :=
  let all := Nat.toDigits 10 f.digits
  let ds := (all.reverse.dropWhile fun c => c == '0').reverse
  let power := f.power + (all.length - ds.length : Nat)
  let leading := power + ds.length - 1
  let zeros (n : Int) : List Char := List.replicate n.toNat '0'
  if ds.isEmpty then ['0', '.', '0']
  else if leading < positionalFrom || scientificFrom ≤ leading then
    ds.take 1 ++ (if ds.length = 1 then [] else '.' :: ds.drop 1) ++
      'e' :: (if leading < 0 then ['-'] else []) ++ Nat.toDigits 10 leading.natAbs
  else if 0 ≤ power then ds ++ zeros power ++ ['.', '0']
  else if leading < 0 then '0' :: '.' :: zeros (-leading - 1) ++ ds
  else ds.take (leading + 1).toNat ++ '.' :: ds.drop (leading + 1).toNat

/-- The shortest text of a number. -/
def shortestText (x : Float) : String :=
  String.ofList <|
    match Binary.ofFloat x with
    | .nan => ['N', 'a', 'N']
    | .infinite negative => (if negative then ['-'] else []) ++ ['i', 'n', 'f']
    | .finite negative mantissa exponent =>
      (if negative then ['-'] else []) ++ (shortest mantissa exponent).text

end Decimal
end TokenLaunch
