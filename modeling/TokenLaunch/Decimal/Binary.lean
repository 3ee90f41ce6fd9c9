/-
# Floating-point numbers as fractions

A floating-point number that is finite stands for a whole number times a power of two.  What is
written of it in decimal digits depends on that fraction alone.
-/

namespace TokenLaunch

/-- What a 64-bit floating-point number stands for. -/
inductive Binary
  | nan
  | infinite (negative : Bool)
  /-- The number `mantissa * 2 ^ exponent`, with the sign also of zero. -/
  | finite (negative : Bool) (mantissa : Nat) (exponent : Int)
deriving DecidableEq

namespace Binary

/-- What a pattern of sixty-four bits stands for: a sign, eleven bits of the exponent and fifty-two
bits of the mantissa. -/
def ofBits (bits : Nat) : Binary :=
  let negative := decide (Nat.pow 2 63 ≤ bits)
  let exponent := bits / Nat.pow 2 52 % Nat.pow 2 11
  let fraction := bits % Nat.pow 2 52
  if exponent = 2047 then
    if fraction = 0 then infinite negative else nan
  else if exponent = 0 then finite negative fraction (-1074)
  else finite negative (Nat.pow 2 52 + fraction) (Int.ofNat exponent - 1075)

/-- What a floating-point number stands for. -/
def ofFloat (x : Float) : Binary := ofBits x.toBits.toNat

end Binary
end TokenLaunch
