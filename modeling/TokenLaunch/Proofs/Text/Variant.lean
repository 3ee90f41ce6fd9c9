/-
# Variants of a text

A variant of a text has the same letters, each in any case, and any blanks around them.  Letters are
those of ASCII, with a table of their own (`Text.letters`), and characters are the same but for the
case of a letter exactly if they are the same once they are small (`Text.sameLetter_iff`).  So texts
are compared without regard to case and to blanks around them by what they are once they are trimmed
and small: that is the same for all variants (`Text.Variant.lowerCase_trim_eq`), and the text is a
variant of it (`Text.variant_of_lowerCase_eq`).
-/
import Mathlib.Data.List.DropRight
import Mathlib.Data.List.Forall2
import Mathlib.Data.List.Nodup
import TokenLaunch.Text.Ascii
import TokenLaunch.Text.Blank

namespace TokenLaunch
namespace Text

/-! ## Letters in another case -/

/-- The capital letters of ASCII, each with its small letter. -/
def letters : List (Char × Char) :=
  "ABCDEFGHIJKLMNOPQRSTUVWXYZ".toList.zip "abcdefghijklmnopqrstuvwxyz".toList

/-- Two characters are the same, but for the case of a letter. -/
inductive SameLetter : Char → Char → Prop
  | same (c : Char) : SameLetter c c
  | small {c d : Char} (h : (c, d) ∈ letters) : SameLetter c d
  | capital {c d : Char} (h : (d, c) ∈ letters) : SameLetter c d

/-- To make a character small is to take the small letter of a capital one, and nothing else. -/
lemma toLower_cases (c : Char) : (c, c.toLower) ∈ letters ∨ c.toLower = c := by
  by_cases hc : 'A' ≤ c ∧ c ≤ 'Z'
  · left
    have hcodes : (letters.map Prod.fst).map Char.toNat = List.range' 65 26 := by decide
    have hcode : c.toNat ∈ (letters.map Prod.fst).map Char.toNat := by
      have hlow : 65 ≤ c.toNat := hc.1
      have hhigh : c.toNat ≤ 90 := hc.2
      rw [hcodes, List.mem_range'_1]
      omega
    obtain ⟨d, hd, heq⟩ := List.mem_map.mp hcode
    obtain rfl : d = c := Char.toNat_inj.mp heq
    obtain ⟨p, hp, rfl⟩ := List.mem_map.mp hd
    have hall : ∀ p ∈ letters, (p.1, p.1.toLower) ∈ letters := by decide
    exact hall p hp
  · exact .inr (dif_neg hc)

/-- Characters are the same but for case if they are the same once they are small. -/
lemma sameLetter_iff {c d : Char} : SameLetter c d ↔ c.toLower = d.toLower := by
  constructor
  · have hall : ∀ p ∈ letters, p.1.toLower = p.2.toLower := by decide
    intro h
    cases h with
    | same => rfl
    | small h => exact hall _ h
    | capital h => exact (hall _ h).symm
  · intro h
    rcases toLower_cases c with hc | hc <;> rcases toLower_cases d with hd | hd
    · -- no two capital letters have the same small one
      have hnodup : (letters.map Prod.snd).Nodup := by decide
      have heq := List.inj_on_of_nodup_map hnodup hc hd h
      rw [(Prod.mk.inj heq).1]
      exact .same d
    · rw [h, hd] at hc
      exact .small hc
    · rw [← h, hc] at hd
      exact .capital hd
    · rw [hc, hd] at h
      rw [h]
      exact .same d

lemma forall₂_sameLetter_iff {cs ds : List Char} :
    List.Forall₂ SameLetter cs ds ↔ cs.map Char.toLower = ds.map Char.toLower := by
  have heq : SameLetter = fun c d => c.toLower = d.toLower :=
    funext fun c => funext fun d => propext sameLetter_iff
  rw [← List.forall₂_eq_eq_eq, List.forall₂_map_left_iff, List.forall₂_map_right_iff, heq]

/-! ## Blanks at the ends -/

lemma isBlank_toLower (c : Char) : isBlank c.toLower = isBlank c := by
  have hall : ∀ p ∈ letters, isBlank p.2 = isBlank p.1 := by decide
  rcases toLower_cases c with h | h
  · exact hall (c, c.toLower) h
  · rw [h]

/-- Trimming does not depend on the case of letters. -/
lemma trimChars_map_toLower (cs : List Char) :
    trimChars (cs.map Char.toLower) = (trimChars cs).map Char.toLower := by
  have hblank : isBlank ∘ Char.toLower = isBlank := funext isBlank_toLower
  rw [trimChars, trimChars, dropEnd, dropEnd, List.dropWhile_map, ← List.map_reverse,
    List.dropWhile_map, List.map_reverse, hblank]

lemma dropEnd_append {p : Char → Bool} {rest : List Char} (h : ∀ c ∈ rest, p c = true)
    (cs : List Char) : dropEnd p (cs ++ rest) = dropEnd p cs := by
  have hreverse : ∀ c ∈ rest.reverse, p c = true := fun c hc => h c (List.mem_reverse.mp hc)
  rw [dropEnd, dropEnd, List.reverse_append, List.dropWhile_append_of_pos hreverse]

/-- Blanks at the ends are trimmed. -/
lemma trimChars_append {front rest : List Char} (hfront : ∀ c ∈ front, isBlank c = true)
    (hrest : ∀ c ∈ rest, isBlank c = true) (cs : List Char) :
    trimChars (front ++ cs ++ rest) = trimChars cs := by
  rw [trimChars, trimChars, List.append_assoc, List.dropWhile_append_of_pos hfront,
    List.dropWhile_append]
  split_ifs with hcs
  · -- there are blanks only
    rw [List.isEmpty_iff.mp hcs, List.dropWhile_eq_nil_iff.mpr hrest]
  · exact dropEnd_append hrest _

/-- Around what trimming leaves there were only blanks. -/
lemma exists_eq_trimChars (cs : List Char) :
    ∃ front rest, cs = front ++ trimChars cs ++ rest ∧ (∀ c ∈ front, isBlank c = true) ∧
      ∀ c ∈ rest, isBlank c = true := by
  refine ⟨cs.takeWhile isBlank, (cs.dropWhile isBlank).rtakeWhile isBlank, ?_,
    fun c => List.mem_takeWhile_imp, fun c => List.mem_rtakeWhile_imp⟩
  have hend : trimChars cs = (cs.dropWhile isBlank).rdropWhile isBlank := rfl
  rw [hend, List.append_assoc, List.rdropWhile_append_rtakeWhile, List.takeWhile_append_dropWhile]

/-- A text is a variant of another if it has the same letters, each in any case, and any blanks
around them. -/
def Variant (s t : String) : Prop :=
  ∃ front core rest, t.toList = front ++ core ++ rest ∧ List.Forall₂ SameLetter s.toList core ∧
    (∀ c ∈ front, isBlank c = true) ∧ ∀ c ∈ rest, isBlank c = true

variable {s t : String}

/-- Variants are the same once they are trimmed and small. -/
lemma Variant.lowerCase_trim_eq (h : Variant s t) : lowerCase (trim t) = lowerCase (trim s) := by
  obtain ⟨front, core, rest, ht, hcore, hfront, hrest⟩ := h
  rw [← String.toList_inj, toList_lowerCase, toList_lowerCase, toList_trim, toList_trim, ht,
    trimChars_append hfront hrest, ← trimChars_map_toLower, ← trimChars_map_toLower,
    forall₂_sameLetter_iff.mp hcore]

/-- A text is a variant of what it is once it is trimmed, in any case. -/
lemma variant_of_lowerCase_eq (h : lowerCase s = lowerCase (trim t)) : Variant s t := by
  obtain ⟨front, rest, ht, hfront, hrest⟩ := exists_eq_trimChars t.toList
  refine ⟨front, _, rest, ht, ?_, hfront, hrest⟩
  rw [forall₂_sameLetter_iff, ← toList_lowerCase, h, toList_lowerCase, toList_trim]

end Text
end TokenLaunch
