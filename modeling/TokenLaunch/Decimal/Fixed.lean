/-
# A fixed number of decimal places

Amounts of money are written with a fixed number of decimal places.  The last place is rounded to
the nearest digit, and a tie goes to the even one.
-/
import TokenLaunch.Decimal.Binary
import TokenLaunch.Text.Digits

namespace TokenLaunch
namespace Decimal

/-- The whole number nearest to a quotient, of two the even one. -/
def roundQuotient (num den : Nat) : Nat :=
  let q := num / den
  let twice := 2 * (num % den)
  if twice < den then q
  else if den < twice then q + 1
  else q + q % 2

/-- Rounding changes a quotient by half a unit at most. -/
theorem roundQuotient_near (num den : Nat) (h : 0 < den) :
    2 * (roundQuotient num den * den) ≤ 2 * num + den ∧
      2 * num ≤ 2 * (roundQuotient num den * den) + den := by
  have hn : num = num / den * den + num % den := (Nat.div_add_mod' num den).symm
  have hr := Nat.mod_lt num h
  have heven : num / den % 2 = 0 ∨ num / den % 2 = 1 := by omega
  simp only [roundQuotient]
  generalize num / den = q at *
  generalize num % den = r at *
  subst hn
  split
  · omega
  · split
    · rw [Nat.add_mul]
      omega
    · rcases heven with h0 | h0 <;> rw [h0, Nat.add_mul] <;> omega

/-- The text of `mantissa * 2 ^ exponent` with a number of decimal places. -/
def fixed (places mantissa : Nat) (exponent : Int) : List Char :=
  let digits := Digits.atLeast (places + 1)
    (roundQuotient (mantissa * Nat.pow 2 exponent.toNat * Nat.pow 10 places)
      (Nat.pow 2 (-exponent).toNat))
  let whole := digits.length - places
  digits.take whole ++ '.' :: digits.drop whole

/-- The text of a number with a number of decimal places. -/
def ofFloat (places : Nat) (x : Float) : List Char :=
  match Binary.ofFloat x with
  | .nan => ['N', 'a', 'N']
  | .infinite negative => (if negative then ['-'] else []) ++ ['i', 'n', 'f']
  | .finite negative mantissa exponent =>
    (if negative then ['-'] else []) ++ fixed places mantissa exponent

end Decimal
end TokenLaunch
