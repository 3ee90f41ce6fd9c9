/-
# Written numbers

Which texts are decimal numbers, what number they denote and how many places it takes, said
without regard to how it is computed: a text is judged by its characters (`IsNumber`), its number
is all its digits over a power of ten (`number`), and zeros at its end do not take a place
(`places`).

* `isDecimal_iff` is the judgement of the scaling;
* `number_scaled` gives the scaled number from the two parts that are scaled one by one;
* `places_le_iff` says that the places belong to the number and not to its spelling.
-/
import Mathlib.Data.List.DropRight
import Mathlib.Tactic
import TokenLaunch.Quantity

namespace TokenLaunch
namespace Quantity

/-- A run of digits with at most one point and at least one digit. -/
def IsNumber (cs : List Char) : Prop :=
  (∀ c ∈ cs, c.isDigit = true ∨ c = '.') ∧ cs.count '.' ≤ 1 ∧ ∃ c ∈ cs, c.isDigit = true

/-- What stands behind the first point. -/
def behindPoint : List Char → List Char
  | [] => []
  | c :: cs => if c = '.' then cs else behindPoint cs

/-- The number that a text denotes. -/
def number (cs : List Char) : ℚ :=
  Nat.ofDigitChars 10 (cs.filter Char.isDigit) 0 / 10 ^ (behindPoint cs).length

/-- How many digits stand behind the point when zeros at the end are dropped. -/
def places (cs : List Char) : ℕ :=
  ((behindPoint cs).rdropWhile (· == '0')).length

/-! ## The parts of a text -/

lemma fraction_eq_behindPoint (cs : List Char) : fraction cs = behindPoint cs := by
  induction cs with
  | nil => rfl
  | cons c cs ih =>
    by_cases hc : c = '.'
    · simp [fraction, behindPoint, hc]
    · rw [behindPoint, if_neg hc, ← ih, fraction, List.dropWhile_cons_of_pos (by simpa using hc),
        fraction]

lemma length_significant (cs : List Char) : (significant cs).length = places cs := by
  rw [significant, fraction_eq_behindPoint]
  rfl

/-- A text is what stands before the point, or that, the point, and what stands behind it. -/
lemma eq_parts (cs : List Char) :
    (cs = whole cs ∧ fraction cs = []) ∨ cs = whole cs ++ '.' :: fraction cs := by
  induction cs with
  | nil => exact Or.inl ⟨rfl, rfl⟩
  | cons c cs ih =>
    by_cases hc : c = '.'
    · right
      simp [whole, fraction, hc]
    · have hwhole : whole (c :: cs) = c :: whole cs :=
        List.takeWhile_cons_of_pos (by simpa using hc)
      have hfraction : fraction (c :: cs) = fraction cs := by
        rw [fraction, List.dropWhile_cons_of_pos (by simpa using hc), fraction]
      rw [hwhole, hfraction]
      rcases ih with ⟨hcs, hnone⟩ | hcs
      · exact Or.inl ⟨congrArg _ hcs, hnone⟩
      · exact Or.inr (congrArg _ hcs)

lemma ne_point_of_isDigit {c : Char} (h : c.isDigit = true) : c ≠ '.' := by
  rintro rfl
  exact absurd h (by decide)

lemma point_not_mem {cs : List Char} (h : ∀ c ∈ cs, c.isDigit = true) : '.' ∉ cs :=
  fun hmem => ne_point_of_isDigit (h _ hmem) rfl

/-- The judgement of the scaling, part by part. -/
lemma isDecimal_iff_parts (cs : List Char) :
    isDecimal cs = true ↔ (∀ c ∈ whole cs, c.isDigit = true) ∧
      (∀ c ∈ fraction cs, c.isDigit = true) ∧ whole cs ++ fraction cs ≠ [] := by
  simp [isDecimal, and_assoc]

lemma point_not_mem_whole (cs : List Char) : '.' ∉ whole cs := by
  intro hmem
  exact absurd (List.mem_takeWhile_imp hmem) (by simp)

/-- What stands before the point and behind it, with the point between them or not. -/
lemma mem_iff_parts (cs : List Char) {c : Char} (hc : c ≠ '.') :
    c ∈ cs ↔ c ∈ whole cs ++ fraction cs := by
  rcases eq_parts cs with ⟨hcs, hnone⟩ | hcs
  · rw [hnone, List.append_nil, ← hcs]
  · conv_lhs => rw [hcs]
    simp [hc]

/-- **The texts that are scaled are the decimal numbers.** -/
theorem isDecimal_iff (cs : List Char) : isDecimal cs = true ↔ IsNumber cs := by
  rw [isDecimal_iff_parts]
  constructor
  · rintro ⟨hw, hf, hne⟩
    obtain ⟨d, hd⟩ := List.exists_mem_of_ne_nil _ hne
    have hdigits : ∀ c ∈ whole cs ++ fraction cs, c.isDigit = true :=
      List.forall_mem_append.mpr ⟨hw, hf⟩
    have hd' : d ∈ cs := (mem_iff_parts cs (ne_point_of_isDigit (hdigits d hd))).mpr hd
    refine ⟨fun c hc => ?_, ?_, d, hd', hdigits d hd⟩
    · by_cases hpoint : c = '.'
      · exact Or.inr hpoint
      · exact Or.inl (hdigits c ((mem_iff_parts cs hpoint).mp hc))
    · rcases eq_parts cs with ⟨hcs, -⟩ | hcs
      · rw [hcs, List.count_eq_zero_of_not_mem (point_not_mem_whole cs)]
        exact Nat.zero_le 1
      · rw [hcs, List.count_append, List.count_cons_self,
          List.count_eq_zero_of_not_mem (point_not_mem_whole cs),
          List.count_eq_zero_of_not_mem (point_not_mem hf)]
  · rintro ⟨hchars, hcount, d, hd, hdigit⟩
    have hparts : ∀ c ∈ whole cs ++ fraction cs, c ≠ '.' → c.isDigit = true := by
      intro c hc hpoint
      exact (hchars c ((mem_iff_parts cs hpoint).mpr hc)).resolve_right hpoint
    -- the one point that is allowed has been used up in front of the fraction
    have hfraction : '.' ∉ fraction cs := by
      rcases eq_parts cs with ⟨-, hnone⟩ | hcs
      · simp [hnone]
      · rw [hcs, List.count_append, List.count_cons_self] at hcount
        exact List.count_eq_zero.mp (by omega)
    refine ⟨fun c hc => ?_, fun c hc => ?_, ?_⟩
    · have hpoint : c ≠ '.' := fun heq => point_not_mem_whole cs (heq ▸ hc)
      exact hparts c (List.mem_append_left _ hc) hpoint
    · have hpoint : c ≠ '.' := fun heq => hfraction (heq ▸ hc)
      exact hparts c (List.mem_append_right _ hc) hpoint
    · exact List.ne_nil_of_mem ((mem_iff_parts cs (ne_point_of_isDigit hdigit)).mp hd)

instance (cs : List Char) : Decidable (IsNumber cs) :=
  decidable_of_iff _ (isDecimal_iff cs)

/-! ## The number of a text -/

/-- The digits of a number are those of its parts. -/
lemma filter_isDigit {cs : List Char} (h : isDecimal cs = true) :
    cs.filter Char.isDigit = whole cs ++ fraction cs := by
  obtain ⟨hw, hf, -⟩ := (isDecimal_iff_parts cs).mp h
  have hparts : (whole cs ++ fraction cs).filter Char.isDigit = whole cs ++ fraction cs :=
    List.filter_eq_self.mpr (List.forall_mem_append.mpr ⟨hw, hf⟩)
  have hpoint : Char.isDigit '.' = false := by decide
  rcases eq_parts cs with ⟨hcs, hnone⟩ | hcs
  · rw [hnone, List.append_nil, ← hcs] at hparts
    rw [hnone, List.append_nil, ← hcs, hparts]
  · rw [List.filter_append] at hparts
    conv_lhs => rw [hcs]
    rw [List.filter_append, List.filter_cons_of_neg (by simp [hpoint]), hparts]

/-- A fraction is its significant digits and zeros. -/
lemma exists_fraction_eq (cs : List Char) :
    ∃ zeros, fraction cs = significant cs ++ List.replicate zeros '0' := by
  have hzeros : ∀ c ∈ (fraction cs).rtakeWhile (· == '0'), c = '0' := by
    intro c hc
    simpa using List.mem_rtakeWhile_imp hc
  refine ⟨((fraction cs).rtakeWhile (· == '0')).length, ?_⟩
  rw [← List.eq_replicate_of_mem hzeros]
  exact (List.rdropWhile_append_rtakeWhile).symm

/-- A number with its significant digits only. -/
lemma number_eq {cs : List Char} (h : isDecimal cs = true) :
    number cs * 10 ^ places cs =
      (Nat.ofDigitChars 10 (whole cs) 0 * 10 ^ places cs +
        Nat.ofDigitChars 10 (significant cs) 0 : ℕ) := by
  obtain ⟨zeros, hfraction⟩ := exists_fraction_eq cs
  have hlength : (behindPoint cs).length = places cs + zeros := by
    rw [← fraction_eq_behindPoint, hfraction, List.length_append, length_significant,
      List.length_replicate]
  have hdigits : Nat.ofDigitChars 10 (cs.filter Char.isDigit) 0 =
      10 ^ zeros * (10 ^ places cs * Nat.ofDigitChars 10 (whole cs) 0 +
        Nat.ofDigitChars 10 (significant cs) 0) := by
    rw [filter_isDigit h, hfraction, ← List.append_assoc, Nat.ofDigitChars_append,
      Nat.ofDigitChars_replicate_zero, Nat.ofDigitChars_append,
      Nat.ofDigitChars_eq_ofDigitChars_zero, length_significant]
  rw [number, hdigits, hlength]
  push_cast
  field_simp
  ring

/-- **A number in smallest units**, from the parts that are scaled one by one. -/
theorem number_scaled {cs : List Char} (h : isDecimal cs = true) {d : ℕ} (hd : places cs ≤ d) :
    number cs * 10 ^ d =
      (Nat.ofDigitChars 10 (whole cs) 0 * 10 ^ d +
        Nat.ofDigitChars 10 (significant cs) 0 * 10 ^ (d - (significant cs).length) : ℕ) := by
  obtain ⟨e, rfl⟩ := Nat.exists_eq_add_of_le hd
  have hscaled := number_eq h
  push_cast at hscaled ⊢
  rw [length_significant, Nat.add_sub_cancel_left, pow_add, ← mul_assoc, hscaled]
  ring

/-- The last significant digit is not zero. -/
lemma significant_not_dvd {cs : List Char} (h : isDecimal cs = true) (hne : places cs ≠ 0)
    (n : ℕ) : ¬ 10 ∣ Nat.ofDigitChars 10 (significant cs) n := by
  obtain ⟨-, hf, -⟩ := (isDecimal_iff_parts cs).mp h
  have hnil : (fraction cs).rdropWhile (· == '0') ≠ [] := by
    intro hnil
    rw [← length_significant, significant, Text.dropEnd] at hne
    exact hne (congrArg List.length hnil)
  have hlast := List.rdropWhile_last_not (· == '0') (fraction cs) hnil
  have hdigit : (((fraction cs).rdropWhile (· == '0')).getLast hnil).isDigit = true :=
    hf _ ((List.rdropWhile_prefix _ _).subset (List.getLast_mem hnil))
  have hsignificant : significant cs = (fraction cs).rdropWhile (· == '0') := rfl
  rw [hsignificant, ← List.dropLast_append_getLast hnil, Nat.ofDigitChars_append,
    Nat.ofDigitChars_cons, Nat.ofDigitChars_nil]
  generalize ((fraction cs).rdropWhile (· == '0')).getLast hnil = c at hlast hdigit ⊢
  have hzero : c.toNat ≠ '0'.toNat := by
    intro heq
    exact hlast (by simpa using Char.toNat_inj.mp heq)
  have hzeroCode : '0'.toNat = 48 := rfl
  have hnineCode : '9'.toNat = 57 := rfl
  have hbounds := Char.isDigit_iff_toNat.mp hdigit
  omega

/-- **The places belong to the number**: they are the least that make it an integer. -/
theorem places_le_iff {cs : List Char} (h : IsNumber cs) (d : ℕ) :
    places cs ≤ d ↔ ∃ n : ℕ, number cs * 10 ^ d = n := by
  have hdecimal := (isDecimal_iff cs).mpr h
  constructor
  · intro hd
    exact ⟨_, number_scaled hdecimal hd⟩
  · rintro ⟨n, hn⟩
    by_contra hlt
    obtain ⟨e, he⟩ := Nat.exists_eq_add_of_lt (not_le.mp hlt)
    -- otherwise the number would end with a zero at its last place
    have hrational : (Nat.ofDigitChars 10 (whole cs) 0 * 10 ^ places cs +
        Nat.ofDigitChars 10 (significant cs) 0 : ℕ) = (n * 10 ^ (e + 1) : ℚ) := by
      rw [← number_eq hdecimal, he, add_assoc, pow_add, ← mul_assoc, hn]
    have hinteger : Nat.ofDigitChars 10 (whole cs) 0 * 10 ^ places cs +
        Nat.ofDigitChars 10 (significant cs) 0 = n * 10 ^ (e + 1) := by
      exact_mod_cast hrational
    refine significant_not_dvd hdecimal (by omega) (Nat.ofDigitChars 10 (whole cs) 0) ?_
    rw [Nat.ofDigitChars_eq_ofDigitChars_zero, length_significant, mul_comm, hinteger, pow_succ]
    exact Dvd.intro_left _ (mul_assoc _ _ _)

end Quantity
end TokenLaunch
