/-
# Scaling is exact

What the scaling of a quantity answers, for every text and every number of decimals.  A text that
is no decimal number is reported as such, then a number with too many places, then one whose units
or whose unit need more than 256 bits; in all other cases the answer is the numeral of the units.
So two spellings have one literal when they denote one number, and literals are ordered as their
numbers are.
-/
import TokenLaunch.Proofs.Digits
import TokenLaunch.Proofs.Quantity.Number
import TokenLaunch.Proofs.Quantity.Word

namespace TokenLaunch
namespace Quantity

/-- The characters of a text that count. -/
def counted (text : String) : List Char :=
  withoutSeparators (Text.trim text).toList

/-- The number of smallest units of a text. -/
def unitsOf (text : String) (d : UInt8) : ℚ :=
  number (counted text) * 10 ^ d.toNat

/-- The canonical numeral of a number: digits, of which the first is not zero unless it is the
only one. -/
structure IsNumeral (s : String) (v : ℚ) : Prop where
  ne_nil : s.toList ≠ []
  digits : ∀ c ∈ s.toList, c.isDigit = true
  leading : s.toList.head? = some '0' → s = "0"
  value : (Nat.ofDigitChars 10 s.toList 0 : ℚ) = v

/-- What the scaling of a text has to answer. -/
structure Scales (text : String) (d : UInt8) (answer : Except Error String) : Prop where
  notDecimal : answer = .error (.notDecimal (Text.trim text)) ↔ ¬ IsNumber (counted text)
  tooPrecise : answer = .error (.tooPrecise (Text.trim text) d) ↔
    IsNumber (counted text) ∧ d.toNat < places (counted text)
  overflow : answer = .error (.overflow (Text.trim text) d) ↔
    IsNumber (counted text) ∧ places (counted text) ≤ d.toNat ∧
      (78 ≤ d.toNat ∨ 2 ^ 256 ≤ unitsOf text d)
  accepted : (∃ s, answer = .ok s) ↔
    IsNumber (counted text) ∧ places (counted text) ≤ d.toNat ∧ d.toNat < 78 ∧
      unitsOf text d < 2 ^ 256
  numeral : ∀ s, answer = .ok s → IsNumeral s (unitsOf text d)

/-! ## Numerals -/

lemma isNumeral_repr (n : ℕ) : IsNumeral n.repr n where
  ne_nil := by simp
  digits c hc := by
    rw [Nat.toList_repr] at hc
    exact Nat.isDigit_of_mem_toDigits (by decide) (by decide) hc
  leading h := by
    by_cases hn : n = 0
    · rw [hn]
      rfl
    · rw [Nat.toList_repr] at h
      exact absurd h (Digits.head?_toDigits_ne_zero hn)
  value := by rw [Nat.toList_repr, Nat.ofDigitChars_ten_toDigits]

/-! ## The answer -/

/-- The size of the unit has a word up to seventy-seven decimals. -/
lemma tenPow_lt_wordLimit (d : ℕ) : 10 ^ d < wordLimit ↔ d < 78 := by
  constructor
  · intro h
    by_contra hd
    have hmono : 10 ^ 78 ≤ 10 ^ d := Nat.pow_le_pow_right (by decide) (not_lt.mp hd)
    have hlimit : wordLimit ≤ 10 ^ 78 := by decide
    omega
  · intro h
    have hmono : 10 ^ d ≤ 10 ^ 77 := Nat.pow_le_pow_right (by decide) (by omega)
    have hlimit : 10 ^ 77 < wordLimit := by decide
    omega

section Answer

variable {W : Type} {A : WordArithmetic W} {value : W → ℕ} {text : String} {d : UInt8}

/-- The checks of the scaling, one after the other. -/
lemma scaleWith_eq :
    scaleWith A text d =
      if isDecimal (counted text) = false then .error (.notDecimal (Text.trim text))
      else if d.toNat < places (counted text) then .error (.tooPrecise (Text.trim text) d)
      else (unitsOf? A (whole (counted text)) (significant (counted text)) d.toNat).elim
        (.error (.overflow (Text.trim text) d)) fun units => .ok (A.numeral units) := by
  have hcounted : withoutSeparators (Text.trim text).toList = counted text := rfl
  unfold scaleWith
  simp only [hcounted, length_significant, Bool.not_eq_true']
  cases unitsOf? A (whole (counted text)) (significant (counted text)) d.toNat <;> rfl

lemma scaleWith_of_not_number (h : ¬ IsNumber (counted text)) :
    scaleWith A text d = .error (.notDecimal (Text.trim text)) := by
  rw [← isDecimal_iff, Bool.not_eq_true] at h
  rw [scaleWith_eq, if_pos h]

lemma scaleWith_of_lt_places (h : IsNumber (counted text)) (hd : d.toNat < places (counted text)) :
    scaleWith A text d = .error (.tooPrecise (Text.trim text) d) := by
  rw [← isDecimal_iff] at h
  rw [scaleWith_eq, if_neg (by simp [h]), if_pos hd]

/-- The units of a number are an integer, and the answer is its numeral if it and the size of the
unit have words. -/
lemma scaleWith_of_places_le (hA : A.Exact value) (h : IsNumber (counted text))
    (hd : places (counted text) ≤ d.toNat) :
    ∃ n : ℕ, unitsOf text d = n ∧ scaleWith A text d =
      if 10 ^ d.toNat < wordLimit ∧ n < wordLimit then .ok n.repr
      else .error (.overflow (Text.trim text) d) := by
  rw [← isDecimal_iff] at h
  obtain ⟨hwhole, hfraction, -⟩ := (isDecimal_iff_parts _).mp h
  have hsignificant : ∀ c ∈ significant (counted text), c.isDigit = true :=
    fun c hc => hfraction c ((List.rdropWhile_prefix _ _).subset hc)
  have hunits := unitsOf?_value hA hwhole hsignificant d.toNat
  refine ⟨_, number_scaled h hd, ?_⟩
  rw [scaleWith_eq, if_neg (by simp [h]), if_neg (not_lt.mpr hd)]
  generalize Nat.ofDigitChars 10 (whole (counted text)) 0 * 10 ^ d.toNat +
    Nat.ofDigitChars 10 (significant (counted text)) 0 *
      10 ^ (d.toNat - (significant (counted text)).length) = n at hunits ⊢
  generalize unitsOf? A (whole (counted text)) (significant (counted text)) d.toNat = units
    at hunits ⊢
  unfold fit? at hunits
  -- what the two checks leave is a word whose value is the integer
  cases units with
  | none =>
    have hnone : ¬ (10 ^ d.toNat < wordLimit ∧ n < wordLimit) := by
      rintro ⟨hunit, hn⟩
      rw [if_pos hunit, if_pos hn] at hunits
      exact absurd hunits (by simp)
    rw [if_neg hnone, Option.elim_none]
  | some w =>
    rw [Option.map_some] at hunits
    split_ifs at hunits with hunit hn
    rw [if_pos ⟨hunit, hn⟩, ← Option.some.inj hunits, ← hA.numeral, Option.elim_some]

/-- With exact words the scaling answers what it has to. -/
lemma scales (hA : A.Exact value) : Scales text d (scaleWith A text d) := by
  by_cases h : IsNumber (counted text)
  · rcases lt_or_ge d.toNat (places (counted text)) with hd | hd
    · rw [scaleWith_of_lt_places h hd]
      exact ⟨by simp [h], by simp [h, hd], by simp [hd], by simp [hd], by simp⟩
    · obtain ⟨n, hn, hanswer⟩ := scaleWith_of_places_le hA h hd
      have hword : unitsOf text d < 2 ^ 256 ↔ n < wordLimit := by
        rw [hn, wordLimit]
        exact_mod_cast Iff.rfl
      rw [hanswer]
      by_cases hfits : 10 ^ d.toNat < wordLimit ∧ n < wordLimit
      · have hsmall : d.toNat < 78 ∧ unitsOf text d < 2 ^ 256 :=
          ⟨(tenPow_lt_wordLimit _).mp hfits.1, hword.mpr hfits.2⟩
        rw [if_pos hfits]
        refine ⟨by simp [h], by simp [hd], ?_, by simp [h, hd, hsmall], ?_⟩
        · simp [hsmall]
        · rintro s ⟨⟩
          rw [hn]
          exact isNumeral_repr n
      · have hlarge : 78 ≤ d.toNat ∨ 2 ^ 256 ≤ unitsOf text d := by
          rw [tenPow_lt_wordLimit, ← hword, not_and_or, not_lt, not_lt] at hfits
          exact hfits
        have hnot : d.toNat < 78 → 2 ^ 256 ≤ unitsOf text d := fun hlt =>
          hlarge.resolve_left (not_le.mpr hlt)
        rw [if_neg hfits]
        refine ⟨by simp [h], by simp [hd], by simp [h, hd, hlarge], ?_, by simp⟩
        simpa [h, hd] using hnot
  · rw [scaleWith_of_not_number h]
    exact ⟨by simp [h], by simp [h], by simp [h], by simp [h], by simp⟩

/-- Any literal is the numeral of the units. -/
lemma exists_repr (hA : A.Exact value) {s : String} (hs : scaleWith A text d = .ok s) :
    ∃ n : ℕ, unitsOf text d = n ∧ s = n.repr := by
  obtain ⟨h, hd, -⟩ := (scales hA).accepted.mp ⟨s, hs⟩
  obtain ⟨n, hn, hanswer⟩ := scaleWith_of_places_le hA h hd
  rw [hs] at hanswer
  split_ifs at hanswer
  exact ⟨n, hn, Except.ok.inj hanswer⟩

/-- The literals of 256-bit words are numerals. -/
lemma exists_repr_scale {s : String} (hs : scale text d = .ok s) : ∃ n : ℕ, s = n.repr := by
  obtain ⟨n, -, hn⟩ := exists_repr Word.exact hs
  exact ⟨n, hn⟩

end Answer

/-- **Scaling is exact**, for every text and every number of decimals.  Two spellings of one
number have one literal, and literals are ordered as their numbers are. -/
theorem scaleWith_spec {W : Type} {A : WordArithmetic W} {value : W → ℕ} (hA : A.Exact value)
    (d : UInt8) :
    (∀ text, Scales text d (scaleWith A text d)) ∧
      ∀ text₁ text₂ s₁ s₂, scaleWith A text₁ d = .ok s₁ → scaleWith A text₂ d = .ok s₂ →
        (s₁ = s₂ ↔ number (counted text₁) = number (counted text₂)) ∧
        (Nat.ofDigitChars 10 s₁.toList 0 ≤ Nat.ofDigitChars 10 s₂.toList 0 ↔
          number (counted text₁) ≤ number (counted text₂)) := by
  refine ⟨fun _ => scales hA, fun text₁ text₂ s₁ s₂ h₁ h₂ => ?_⟩
  obtain ⟨n₁, hn₁, rfl⟩ := exists_repr hA h₁
  obtain ⟨n₂, hn₂, rfl⟩ := exists_repr hA h₂
  have hpos : (0 : ℚ) < 10 ^ d.toNat := by positivity
  have hle : n₁ ≤ n₂ ↔ number (counted text₁) ≤ number (counted text₂) := by
    rw [← Nat.cast_le (α := ℚ), ← hn₁, ← hn₂, unitsOf, unitsOf, mul_le_mul_iff_left₀ hpos]
  have heq : n₁ = n₂ ↔ number (counted text₁) = number (counted text₂) := by
    rw [← Nat.cast_inj (R := ℚ), ← hn₁, ← hn₂, unitsOf, unitsOf, mul_left_inj' hpos.ne']
  refine ⟨?_, ?_⟩
  · rw [← heq]
    constructor
    · intro hrepr
      have hdigits := congrArg (fun s : String => Nat.ofDigitChars 10 s.toList 0) hrepr
      simpa [Nat.toList_repr] using hdigits
    · exact congrArg Nat.repr
  · rw [Nat.toList_repr, Nat.toList_repr, Nat.ofDigitChars_ten_toDigits,
      Nat.ofDigitChars_ten_toDigits, hle]

/-- The words of 256 bits scale a number with separators and zeros at its end. -/
theorem scaleWith_spec_word :
    Word.arithmetic.Exact Word.value ∧ scale " 1_0.5_0 " 1 = .ok "105" ∧
      IsNumeral "105" (unitsOf " 1_0.5_0 " 1) := by
  have hanswer : scale " 1_0.5_0 " 1 = .ok "105" := by decide
  exact ⟨Word.exact, hanswer, ((scaleWith_spec Word.exact 1).1 " 1_0.5_0 ").numeral _ hanswer⟩

end Quantity
end TokenLaunch
