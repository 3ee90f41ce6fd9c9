/-
# Decimal digits

Numbers in timestamps and amounts are written with at least a given number of decimal digits,
filled up with zeros from the left.
-/

namespace TokenLaunch
namespace Digits

/-- The digits of a number, at least `width` of them. -/
def atLeast (width n : Nat) : List Char :=
  List.replicate (width - (Nat.toDigits 10 n).length) '0' ++ Nat.toDigits 10 n

/-- A number in decimal digits. -/
def text (n : Nat) : String :=
  String.ofList (Nat.toDigits 10 n)

/-- The value of digits. -/
def value (ds : List Char) : Nat :=
  Nat.ofDigitChars 10 ds 0

theorem value_replicate_zero_append (k : Nat) (ds : List Char) :
    value (List.replicate k '0' ++ ds) = value ds := by
  induction k with
  | zero => rfl
  | succ k ih => simpa [List.replicate_succ, value, Nat.ofDigitChars_cons] using ih

/-- Leading zeros do not change the value. -/
@[simp] theorem value_atLeast (width n : Nat) : value (atLeast width n) = n := by
  rw [atLeast, value_replicate_zero_append, value]
  exact Nat.ofDigitChars_toDigits (by decide) (by decide)

/-- At most `limit` digits at the start of a text, but at least one, and the rest. -/
def scan? (limit : Nat) (cs : List Char) : Option (List Char × List Char) :=
  let ds := (cs.takeWhile Char.isDigit).take limit
  if ds.isEmpty then none else some (ds, cs.drop ds.length)

/-- All the digits at the start of a text, but at least one, and the rest. -/
def scanAll? (cs : List Char) : Option (List Char × List Char) :=
  scan? cs.length cs

end Digits
end TokenLaunch
