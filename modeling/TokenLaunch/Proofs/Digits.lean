/-
# Digits that are read back

A number is written without a leading zero (`head?_toDigits_ne_zero`), or in a field of fixed width
with zeros in front.  A field holds digits only, it is as wide as it has to be, and a reader that
takes as many digits as the field is wide takes the field (`scan?_width`), whatever follows it; a
reader that takes all digits takes the field where no digit follows (`scanAll?_atLeast`).
-/
import Mathlib.Tactic
import TokenLaunch.Text.Digits

namespace TokenLaunch
namespace Digits

/-! ## Runs of digits -/

section Runs

variable {ds rest : List Char}

lemma takeWhile_append (hds : ∀ c ∈ ds, c.isDigit = true)
    (hrest : ∀ c ∈ rest.head?, c.isDigit = false) :
    (ds ++ rest).takeWhile Char.isDigit = ds := by
  rw [List.takeWhile_append_of_pos hds]
  cases rest with
  | nil => simp
  | cons c rest => simp [hrest c rfl]

lemma dropWhile_append (hds : ∀ c ∈ ds, c.isDigit = true)
    (hrest : ∀ c ∈ rest.head?, c.isDigit = false) :
    (ds ++ rest).dropWhile Char.isDigit = rest := by
  rw [List.dropWhile_append_of_pos hds]
  cases rest with
  | nil => rfl
  | cons c rest => simp [hrest c rfl]

end Runs

/-! ## Numbers without leading zeros -/

/-- A number other than zero has no zero in front. -/
lemma head?_toDigits_ne_zero {n : ℕ} (h : n ≠ 0) : (Nat.toDigits 10 n).head? ≠ some '0' := by
  induction n using Nat.strong_induction_on with
  | _ n ih =>
    by_cases hlt : n < 10
    · rw [Nat.toDigits_of_lt_base hlt]
      interval_cases n <;> simp_all
    · -- the first digit is the first digit of the tenth
      rw [Nat.toDigits_of_base_le (by decide) (not_lt.mp hlt),
        List.head?_append_of_ne_nil _ (by simp)]
      exact ih (n / 10) (by omega) (by omega)

lemma isDigit_of_mem_toDigits {n : ℕ} {c : Char} (hc : c ∈ Nat.toDigits 10 n) :
    c.isDigit = true :=
  Nat.isDigit_of_mem_toDigits (by decide) (by decide) hc

/-! ## Fields of fixed width -/

variable {width n : ℕ} {rest : List Char}

lemma isDigit_of_mem_atLeast {c : Char} (hc : c ∈ atLeast width n) : c.isDigit = true := by
  rcases List.mem_append.mp hc with hc | hc
  · rw [List.eq_of_mem_replicate hc]
    decide
  · exact isDigit_of_mem_toDigits hc

lemma atLeast_ne_nil : atLeast width n ≠ [] := by
  simp [atLeast]

lemma length_atLeast (hwidth : 0 < width) (hn : n < 10 ^ width) :
    (atLeast width n).length = width := by
  have hle : (Nat.toDigits 10 n).length ≤ width :=
    (Nat.length_toDigits_le_iff (by decide) hwidth).mpr hn
  rw [atLeast, List.length_append, List.length_replicate]
  omega

/-- A field is read by a reader that takes no more digits than the field has, or that takes all
digits and finds no more of them. -/
lemma scan?_atLeast {limit : ℕ} (hlimit : (atLeast width n).length ≤ limit)
    (hrest : (atLeast width n).length = limit ∨ ∀ c ∈ rest.head?, c.isDigit = false) :
    scan? limit (atLeast width n ++ rest) = some (atLeast width n, rest) := by
  have htake : ((atLeast width n ++ rest).takeWhile Char.isDigit).take limit = atLeast width n := by
    rcases hrest with hlength | hrest
    · rw [List.takeWhile_append_of_pos fun c => isDigit_of_mem_atLeast,
        List.take_append_of_le_length hlength.ge, List.take_of_length_le hlimit]
    · rw [takeWhile_append (fun c => isDigit_of_mem_atLeast) hrest, List.take_of_length_le hlimit]
  have hempty : (atLeast width n).isEmpty = false := by simpa using atLeast_ne_nil
  simp only [scan?, htake, hempty, Bool.false_eq_true, if_false, List.drop_left]

/-- A field is read by its width. -/
lemma scan?_width (hwidth : 0 < width) (hn : n < 10 ^ width) :
    scan? width (atLeast width n ++ rest) = some (atLeast width n, rest) :=
  scan?_atLeast (length_atLeast hwidth hn).le (.inl (length_atLeast hwidth hn))

/-- A field is read up to its end. -/
lemma scanAll?_atLeast (hrest : ∀ c ∈ rest.head?, c.isDigit = false) :
    scanAll? (atLeast width n ++ rest) = some (atLeast width n, rest) :=
  scan?_atLeast (by simp) (.inr hrest)

end Digits
end TokenLaunch
