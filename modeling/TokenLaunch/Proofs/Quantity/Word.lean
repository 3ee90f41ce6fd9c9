/-
# Exact arithmetic on words

An arithmetic is exact when its words stand for the numbers below the word limit, when its
operations are those of numbers, and when they fail exactly where the result has no word.  Then
the several checks of `Quantity.unitsOf?` come down to two: that the size of the unit has a word
and that the units have one (`unitsOf?_value`).

* `WordArithmetic.Exact` says what exactness is;
* `Word.exact` proves that checked arithmetic on 256 bits is exact;
* `powTen?_value` and `unitsOf?_value` say what is computed with exact words.
-/
import Mathlib.Tactic
import TokenLaunch.Quantity

namespace TokenLaunch

/-- A number that has a word. -/
def fit? (n : ℕ) : Option ℕ :=
  if n < wordLimit then some n else none

lemma fit?_of_lt {n : ℕ} (h : n < wordLimit) : fit? n = some n := if_pos h

lemma fit?_of_le {n : ℕ} (h : wordLimit ≤ n) : fit? n = none := if_neg (not_lt.mpr h)

/-- The words of an arithmetic are numbers, and its operations fail for want of a word only. -/
structure WordArithmetic.Exact {W : Type} (A : WordArithmetic W) (value : W → ℕ) : Prop where
  zero : value A.zero = 0
  one : value A.one = 1
  ten : value A.ten = 10
  ofDigits? : ∀ digits : List Char, digits ≠ [] → (∀ c ∈ digits, c.isDigit = true) →
    (A.ofDigits? digits).map value = fit? (Nat.ofDigitChars 10 digits 0)
  mul? : ∀ a b, (A.mul? a b).map value = fit? (value a * value b)
  add? : ∀ a b, (A.add? a b).map value = fit? (value a + value b)
  numeral : ∀ a, A.numeral a = (value a).repr

/-! ## Steps that may fail -/

/-- The value of a step that may fail, given what the next step computes. -/
lemma map_bind_of_map {α β γ δ : Type} {x : Option α} {g : α → Option β} {value : α → γ}
    {value' : β → δ} {h : γ → Option δ} (hg : ∀ a, (g a).map value' = h (value a)) :
    (x.bind g).map value' = (x.map value).bind h := by
  cases x with
  | none => rfl
  | some a => exact hg a

/-- A step whose value is known, if it has one. -/
lemma map_bind_of_fit {W : Type} {value : W → ℕ} {x : Option W} {g : W → Option W} {n : ℕ}
    {r : Option ℕ} (hx : x.map value = fit? n) (hg : ∀ a, value a = n → (g a).map value = r) :
    (x.bind g).map value = if n < wordLimit then r else none := by
  cases x with
  | none =>
    have hn : ¬ n < wordLimit := by
      intro hn
      rw [fit?_of_lt hn] at hx
      exact absurd hx (by simp)
    rw [if_neg hn]
    rfl
  | some a =>
    have hn : n < wordLimit := by
      by_contra hn
      rw [fit?_of_le (not_lt.mp hn)] at hx
      exact absurd hx (by simp)
    rw [fit?_of_lt hn] at hx
    rw [if_pos hn]
    exact hg a (Option.some.inj hx)

/-- Where a step never makes a number smaller, checking its result is enough. -/
lemma fit?_bind {f : ℕ → ℕ} (hf : ∀ n, n ≤ f n) (n : ℕ) :
    ((fit? n).bind fun v => fit? (f v)) = fit? (f n) := by
  by_cases h : n < wordLimit
  · rw [fit?_of_lt h, Option.bind_some]
  · have hn : wordLimit ≤ n := not_lt.mp h
    rw [fit?_of_le hn, fit?_of_le (hn.trans (hf n)), Option.bind_none]

/-! ## Words of 256 bits -/

namespace Word

lemma ofNat?_value (n : ℕ) : (ofNat? n).map value = fit? n := by
  unfold ofNat? fit?
  split_ifs <;> rfl

lemma push?_value (w : Word) {c : Char} (hc : c.isDigit = true) :
    (w.push? c).map value = fit? (10 * w.value + (c.toNat - '0'.toNat)) := by
  have hdigit : c.toNat - '0'.toNat < wordLimit := by
    have hnine : c.toNat ≤ '9'.toNat := (Char.isDigit_iff_toNat.mp hc).2
    have hlimit : '9'.toNat < wordLimit := by decide
    omega
  have hlast : ∀ shifted : Word,
      ((ofNat? (c.toNat - '0'.toNat)).bind shifted.add?).map value =
        fit? (shifted.value + (c.toNat - '0'.toNat)) := by
    intro shifted
    rw [ofNat?, dif_pos hdigit, Option.bind_some, add?, ofNat?_value]
  have hstep : (w.push? c).map value =
      ((w.mul? ten).map value).bind fun n => fit? (n + (c.toNat - '0'.toNat)) :=
    map_bind_of_map hlast
  rw [hstep, mul?, ofNat?_value, fit?_bind fun n => Nat.le_add_right n _, mul_comm]
  rfl

/-- The number of a run of digits is never smaller than the number in front of it. -/
lemma le_ofDigitChars (digits : List Char) (n : ℕ) : n ≤ Nat.ofDigitChars 10 digits n := by
  have hpow : 1 ≤ 10 ^ digits.length := Nat.one_le_pow _ _ (by decide)
  rw [Nat.ofDigitChars_eq_ofDigitChars_zero]
  nlinarith

/-- Digits are read from left to right: the invariant is that what has been read so far has a
word, and it is lost for good as soon as it has none. -/
lemma foldlM_push?_value {digits : List Char} (h : ∀ c ∈ digits, c.isDigit = true) (w : Word) :
    (digits.foldlM push? w).map value = fit? (Nat.ofDigitChars 10 digits w.value) := by
  induction digits generalizing w with
  | nil => exact (fit?_of_lt w.value_lt).symm
  | cons c digits ih =>
    obtain ⟨hc, hdigits⟩ := List.forall_mem_cons.mp h
    have hstep : ((w.push? c).bind fun v => digits.foldlM push? v).map value =
        ((w.push? c).map value).bind fun n => fit? (Nat.ofDigitChars 10 digits n) :=
      map_bind_of_map fun v => ih hdigits v
    rw [List.foldlM_cons]
    calc ((w.push? c).bind fun v => digits.foldlM push? v).map value
        = (fit? (10 * w.value + (c.toNat - '0'.toNat))).bind
            fun n => fit? (Nat.ofDigitChars 10 digits n) := by rw [hstep, push?_value w hc]
      _ = fit? (Nat.ofDigitChars 10 (c :: digits) w.value) := by
          rw [fit?_bind (le_ofDigitChars digits), Nat.ofDigitChars_cons]

/-- **Checked arithmetic on 256 bits is exact.** -/
theorem exact : arithmetic.Exact value where
  zero := rfl
  one := rfl
  ten := rfl
  ofDigits? _ _ h := foldlM_push?_value h zero
  mul? _ _ := ofNat?_value _
  add? _ _ := ofNat?_value _
  numeral _ := rfl

end Word

namespace Quantity

/-! ## Scaling with exact words -/

/-- Zeros in front of a number do not count. -/
lemma ofDigitChars_dropWhile_zero (digits : List Char) :
    Nat.ofDigitChars 10 (digits.dropWhile (· == '0')) 0 = Nat.ofDigitChars 10 digits 0 := by
  induction digits with
  | nil => rfl
  | cons c digits ih =>
    by_cases hc : c = '0'
    · rw [List.dropWhile_cons_of_pos (by simp [hc]), ih, hc, Nat.ofDigitChars_cons]
      rfl
    · rw [List.dropWhile_cons_of_neg (by simp [hc])]

section Exact

variable {W : Type} {A : WordArithmetic W} {value : W → ℕ} (hA : A.Exact value)

include hA

lemma word?_value {digits : List Char} (h : ∀ c ∈ digits, c.isDigit = true) :
    (word? A digits).map value = fit? (Nat.ofDigitChars 10 digits 0) := by
  have hkept : ∀ c ∈ digits.dropWhile (· == '0'), c.isDigit = true :=
    fun c hc => h c (List.dropWhile_subset _ hc)
  rw [word?, ← ofDigitChars_dropWhile_zero]
  cases heq : digits.dropWhile (· == '0') with
  | nil =>
    have hlimit : 0 < wordLimit := by decide
    simp [hA.zero, fit?_of_lt hlimit]
  | cons c rest =>
    rw [heq] at hkept
    exact hA.ofDigits? _ (List.cons_ne_nil c rest) hkept

/-- A power of ten has been computed where it has a word: all smaller powers have one as well. -/
lemma powTen?_value (n : ℕ) : (powTen? A n).map value = fit? (10 ^ n) := by
  induction n with
  | zero =>
    have hlimit : 1 < wordLimit := by decide
    rw [powTen?, Option.map_some, hA.one, pow_zero, fit?_of_lt hlimit]
  | succ n ih =>
    have hmul : ∀ power, (A.mul? power A.ten).map value = fit? (value power * 10) := by
      intro power
      rw [hA.mul?, hA.ten]
    have hstep : (powTen? A (n + 1)).map value =
        ((powTen? A n).map value).bind fun m => fit? (m * 10) := map_bind_of_map hmul
    rw [hstep, ih, fit?_bind fun m => Nat.le_mul_of_pos_right m (by decide), pow_succ]

/-- **The units of a number.**  There is a word for them unless the size of the unit has none or
they have none themselves; no other check of the parts decides anything. -/
theorem unitsOf?_value {whole fraction : List Char} (hwhole : ∀ c ∈ whole, c.isDigit = true)
    (hfraction : ∀ c ∈ fraction, c.isDigit = true) (d : ℕ) :
    (unitsOf? A whole fraction d).map value =
      if 10 ^ d < wordLimit then
        fit? (Nat.ofDigitChars 10 whole 0 * 10 ^ d +
          Nat.ofDigitChars 10 fraction 0 * 10 ^ (d - fraction.length))
      else none := by
  have hsteps : (unitsOf? A whole fraction d).map value =
      if Nat.ofDigitChars 10 whole 0 < wordLimit then
        if Nat.ofDigitChars 10 fraction 0 < wordLimit then
          if 10 ^ d < wordLimit then
            if 10 ^ (d - fraction.length) < wordLimit then
              if Nat.ofDigitChars 10 whole 0 * 10 ^ d < wordLimit then
                if Nat.ofDigitChars 10 fraction 0 * 10 ^ (d - fraction.length) < wordLimit then
                  fit? (Nat.ofDigitChars 10 whole 0 * 10 ^ d +
                    Nat.ofDigitChars 10 fraction 0 * 10 ^ (d - fraction.length))
                else none
              else none
            else none
          else none
        else none
      else none := by
    refine map_bind_of_fit (word?_value hA hwhole) fun w hw => ?_
    refine map_bind_of_fit (word?_value hA hfraction) fun f hf => ?_
    refine map_bind_of_fit (powTen?_value hA d) fun p hp => ?_
    refine map_bind_of_fit (powTen?_value hA _) fun q hq => ?_
    have hwp : (A.mul? w p).map value = fit? (Nat.ofDigitChars 10 whole 0 * 10 ^ d) := by
      rw [hA.mul?, hw, hp]
    refine map_bind_of_fit hwp fun x hx => ?_
    have hfq : (A.mul? f q).map value =
        fit? (Nat.ofDigitChars 10 fraction 0 * 10 ^ (d - fraction.length)) := by
      rw [hA.mul?, hf, hq]
    refine map_bind_of_fit hfq fun y hy => ?_
    rw [hA.add?, hx, hy]
  -- scaling makes nothing smaller, so what fails for a part fails for the whole
  have hwhole_le : Nat.ofDigitChars 10 whole 0 ≤ Nat.ofDigitChars 10 whole 0 * 10 ^ d :=
    Nat.le_mul_of_pos_right _ (by positivity)
  have hfraction_le : Nat.ofDigitChars 10 fraction 0 ≤
      Nat.ofDigitChars 10 fraction 0 * 10 ^ (d - fraction.length) :=
    Nat.le_mul_of_pos_right _ (by positivity)
  have hscale_le : 10 ^ (d - fraction.length) ≤ 10 ^ d :=
    Nat.pow_le_pow_right (by decide) (Nat.sub_le _ _)
  rw [hsteps]
  unfold fit?
  generalize Nat.ofDigitChars 10 whole 0 * 10 ^ d = wholeUnits at *
  generalize Nat.ofDigitChars 10 fraction 0 * 10 ^ (d - fraction.length) = fractionUnits at *
  -- the two sides agree where all checks pass, and elsewhere a check fails on either side
  split_ifs <;> first | rfl | omega

end Exact

end Quantity
end TokenLaunch
