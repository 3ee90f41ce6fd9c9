/-
# Reading JSON strings back

What a string writes for a character is one part of it, whatever follows (`exists_part`): the
character itself, or its number of four hexadecimal digits.  So a string is read up to the quote
that closes it, and its parts stand for the characters that were written (`scanName?_body`).
-/
import Mathlib.Tactic
import TokenLaunch.Json.Reader

namespace TokenLaunch

/-! ## Hexadecimal digits -/

namespace Hex

lemma toNat?_append_digit (cs : List Char) {n d : ℕ} (hn : toNat? cs = some n) (hd : d < 16) :
    toNat? (cs ++ [digit d]) = some (16 * n + d) := by
  rw [toNat?] at hn
  rw [toNat?, List.foldl_append, hn, List.foldl_cons, List.foldl_nil, value?_digit d hd]
  rfl

/-- A number is read back from its digits. -/
lemma toNat?_padded {width n : ℕ} (h : n < 16 ^ width) : toNat? (padded width n) = some n := by
  induction width generalizing n with
  | zero =>
    obtain rfl : n = 0 := by omega
    rfl
  | succ width ih =>
    have hhead : n / 16 < 16 ^ width := by
      rw [Nat.div_lt_iff_lt_mul (by decide), ← pow_succ]
      exact h
    rw [padded, toNat?_append_digit _ (ih hhead) (Nat.mod_lt _ (by decide)), Nat.div_add_mod]

end Hex

namespace Json
namespace Quoted

/-! ## Parts -/

/-- A number that is no half of a surrogate pair stands for a character, whatever follows. -/
lemma assemble_unit {n : ℕ} (hhigh : isHigh n = false) (hlow : isLow n = false)
    (parts : List Part) :
    assemble (.unit n :: parts) = (assemble parts).map (Char.ofNat n :: ·) := by
  cases parts with
  | nil => simp [assemble, hhigh, hlow]
  | cons part parts => cases part <;> simp [assemble, hhigh, hlow]

/-- A character that stands for itself. -/
lemma scan_plain {c : Char} (hquote : c ≠ '"') (hslash : c ≠ '\\') (hcontrol : ¬ c.toNat < 0x20)
    (rest : List Char) : scan (c :: rest) = (scan rest).map fun r => (.char c :: r.1, r.2) := by
  simp [scan, hslash, hcontrol]

/-- A character behind a backslash, other than a number. -/
lemma scan_escaped {e c : Char} (he : e ≠ 'u') (hc : unescape? e = some c) (rest : List Char) :
    scan ('\\' :: e :: rest) = (scan rest).map fun r => (.char c :: r.1, r.2) := by
  simp [scan, he, hc]

/-- A character that is given by its number. -/
lemma scan_numbered {n : ℕ} (hn : n < 16 ^ 4) (rest : List Char) :
    scan ('\\' :: 'u' :: (Hex.padded 4 n ++ rest)) =
      (scan rest).map fun r => (.unit n :: r.1, r.2) := by
  obtain ⟨a, b, c, d, hdigits⟩ : ∃ a b c d, Hex.padded 4 n = [a, b, c, d] := ⟨_, _, _, _, rfl⟩
  have hread := Hex.toNat?_padded hn
  rw [hdigits] at hread ⊢
  simp [scan, hread]

/-- A character is written behind a backslash, by its number, or as it is. -/
lemma escape_cases (c : Char) :
    (∃ e, escape c = ['\\', e] ∧ e ≠ 'u' ∧ unescape? e = some c) ∨
      (escape c = '\\' :: 'u' :: Hex.padded 4 c.toNat ∧ c.toNat < 0x20) ∨
      (escape c = [c] ∧ c ≠ '"' ∧ c ≠ '\\' ∧ ¬ c.toNat < 0x20) := by
  unfold escape
  split_ifs with hquote hslash hback hform hfeed hreturn htab hcontrol
  · exact .inl ⟨_, rfl, by decide, by rw [hquote]; rfl⟩
  · exact .inl ⟨_, rfl, by decide, by rw [hslash]; rfl⟩
  · exact .inl ⟨_, rfl, by decide, by rw [hback]; rfl⟩
  · exact .inl ⟨_, rfl, by decide, by rw [hform]; rfl⟩
  · exact .inl ⟨_, rfl, by decide, by rw [hfeed]; rfl⟩
  · exact .inl ⟨_, rfl, by decide, by rw [hreturn]; rfl⟩
  · exact .inl ⟨_, rfl, by decide, by rw [htab]; rfl⟩
  · exact .inr (.inl ⟨rfl, hcontrol⟩)
  · exact .inr (.inr ⟨rfl, hquote, hslash, hcontrol⟩)

/-- What is written for a character is one part of the string, and stands for the character. -/
lemma exists_part (c : Char) :
    ∃ part, (∀ rest, scan (escape c ++ rest) =
        (scan rest).map fun r => (part :: r.1, r.2)) ∧
      ∀ parts, assemble (part :: parts) = (assemble parts).map (c :: ·) := by
  rcases escape_cases c with ⟨e, hwritten, he, hc⟩ | ⟨hwritten, hcontrol⟩ |
    ⟨hwritten, hquote, hslash, hcontrol⟩ <;> rw [hwritten]
  · exact ⟨.char c, scan_escaped he hc, fun _ => rfl⟩
  · refine ⟨.unit c.toNat, scan_numbered (by omega), fun parts => ?_⟩
    -- a control character is far below the surrogates
    have hhigh : isHigh c.toNat = false := by
      simp only [isHigh, Bool.and_eq_false_iff, decide_eq_false_iff_not]
      omega
    have hlow : isLow c.toNat = false := by
      simp only [isLow, Bool.and_eq_false_iff, decide_eq_false_iff_not]
      omega
    rw [assemble_unit hhigh hlow, Char.ofNat_toNat]
  · exact ⟨.char c, scan_plain hquote hslash hcontrol, fun _ => rfl⟩

/-! ## Strings -/

/-- A string is read up to the quote that closes it, whatever follows. -/
lemma exists_parts (cs : List Char) :
    ∃ parts, (∀ rest, scan (body cs ++ '"' :: rest) = some (parts, rest)) ∧
      assemble parts = some cs := by
  induction cs with
  | nil => exact ⟨[], fun _ => rfl, rfl⟩
  | cons c cs ih =>
    obtain ⟨parts, hscan, hassemble⟩ := ih
    obtain ⟨part, hpart, hc⟩ := exists_part c
    refine ⟨part :: parts, fun rest => ?_, ?_⟩
    · rw [body_cons, List.append_assoc, hpart, hscan, Option.map_some]
    · rw [hc, hassemble, Option.map_some]

end Quoted

/-- **A string is read back**, whatever follows it. -/
theorem scanName?_body (s : String) (rest : List Char) :
    scanName? (Quoted.body s.toList ++ '"' :: rest) = some (some s, rest) := by
  obtain ⟨parts, hscan, hassemble⟩ := Quoted.exists_parts s.toList
  rw [scanName?, hscan, Option.map_some, hassemble, Option.map_some, String.ofList_toList]

end Json
end TokenLaunch
