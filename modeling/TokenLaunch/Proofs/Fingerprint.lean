/-
# One changed byte changes the fingerprint

Each step of the hash can be undone: the byte is taken in by exclusive or, and the multiplier is odd,
so multiplication by it has an inverse modulo `2 ^ 64`.  So a step tells hashes apart and tells bytes
apart (`step_injective`, `step_byte_injective`), and so do any number of steps: two hashes that have
once become different stay so, whatever bytes follow (`foldl_step_injective`).  Texts whose encodings
differ in a single byte have the same hash before that byte, different ones after it, and therefore
different fingerprints, for the sixteen digits of a fingerprint are read back as the hash
(`ofText_sensitive`).
-/
import TokenLaunch.Contract.Fingerprint
import TokenLaunch.Proofs.Hex
import TokenLaunch.Proofs.Json.Quoted

namespace TokenLaunch
namespace Fingerprint

/-! ## Steps -/

/-- What undoes the multiplication of a step. -/
def inverse : UInt64 := 0xce965057aff6957b

lemma prime_mul_inverse : prime * inverse = 1 := by decide

lemma mul_prime_injective : Function.Injective fun h : UInt64 => h * prime := by
  have hundo : Function.LeftInverse (fun h : UInt64 => h * inverse) fun h => h * prime := by
    intro h
    show h * prime * inverse = h
    rw [UInt64.mul_assoc, prime_mul_inverse, UInt64.mul_one]
  exact hundo.injective

/-- A step tells hashes apart. -/
lemma step_injective (byte : UInt8) : Function.Injective fun h => step h byte := by
  intro h h' heq
  exact UInt64.xor_left_inj byte.toUInt64 |>.mp (mul_prime_injective heq)

/-- A step tells bytes apart. -/
lemma step_byte_injective (h : UInt64) : Function.Injective (step h) := by
  intro byte byte' heq
  have hxor : h ^^^ byte.toUInt64 = h ^^^ byte'.toUInt64 := mul_prime_injective heq
  exact UInt8.toUInt64_inj.mp ((UInt64.xor_right_inj h).mp hxor)

/-- Any number of steps tell hashes apart. -/
lemma foldl_step_injective (bytes : List UInt8) :
    Function.Injective fun h => bytes.foldl step h := by
  induction bytes with
  | nil => exact Function.injective_id
  | cons byte bytes ih => exact ih.comp (step_injective byte)

/-- A single byte makes the difference, whatever stands before and after it. -/
lemma hash_ne {byte byte' : UInt8} (h : byte ≠ byte') (front rest : List UInt8) :
    hash (front ++ byte :: rest) ≠ hash (front ++ byte' :: rest) := by
  intro heq
  simp only [hash, List.foldl_append, List.foldl_cons] at heq
  exact h (step_byte_injective _ (foldl_step_injective rest heq))

/-! ## Texts -/

/-- The bytes of a text in UTF-8. -/
def utf8 (text : String) : List UInt8 :=
  text.toList.flatMap String.utf8EncodeChar

lemma utf8_eq (text : String) : utf8 text = text.toByteArray.data.toList := by
  rw [← String.utf8Encode_toList, List.utf8Encode, List.data_toByteArray, utf8]

/-- Two lists of bytes have the same length, and differ in exactly one place. -/
def DifferOnce (us vs : List UInt8) : Prop :=
  us.length = vs.length ∧ ∃! i : ℕ, us[i]? ≠ vs[i]?

/-- Before and after the place where they differ, the two are the same. -/
lemma differOnce_iff {us vs : List UInt8} :
    DifferOnce us vs ↔ ∃ front byte byte' rest, byte ≠ byte' ∧ us = front ++ byte :: rest ∧
      vs = front ++ byte' :: rest := by
  constructor
  · rintro ⟨hlength, i, hne, honly⟩
    have hsame : ∀ j, j ≠ i → us[j]? = vs[j]? := by
      intro j hj
      by_contra hdiffer
      exact hj (honly j hdiffer)
    have hi : i < us.length := by
      by_contra hi
      refine hne ?_
      rw [List.getElem?_eq_none (by omega), List.getElem?_eq_none (by omega)]
    have hi' : i < vs.length := hlength ▸ hi
    have hfront : us.take i = vs.take i := by
      refine List.ext_getElem? fun j => ?_
      rw [List.getElem?_take, List.getElem?_take]
      split_ifs with hj
      · exact hsame j (by omega)
      · rfl
    have hrest : us.drop (i + 1) = vs.drop (i + 1) := by
      refine List.ext_getElem? fun j => ?_
      rw [List.getElem?_drop, List.getElem?_drop]
      exact hsame _ (by omega)
    refine ⟨us.take i, us[i], vs[i], us.drop (i + 1), ?_, ?_, ?_⟩
    · intro heq
      rw [List.getElem?_eq_getElem hi, List.getElem?_eq_getElem hi', heq] at hne
      exact hne rfl
    · rw [List.getElem_cons_drop, List.take_append_drop]
    · rw [hfront, hrest, List.getElem_cons_drop, List.take_append_drop]
  · rintro ⟨front, byte, byte', rest, hne, rfl, rfl⟩
    refine ⟨by simp, front.length, by simpa using hne, fun j hdiffer => ?_⟩
    by_contra hj
    refine hdiffer ?_
    rw [List.getElem?_append, List.getElem?_append]
    split_ifs with hfront
    · rfl
    · obtain ⟨k, hk⟩ : ∃ k, j - front.length = k + 1 := ⟨j - front.length - 1, by omega⟩
      rw [hk, List.getElem?_cons_succ, List.getElem?_cons_succ]

lemma ofText_eq (text : String) :
    (ofText text).toList = Hex.padded 16 (hash (utf8 text)).toNat := by
  rw [ofText, String.toList_ofList, utf8_eq]

/-- The hash is read back from a fingerprint. -/
lemma toNat?_ofText (text : String) :
    Hex.toNat? (ofText text).toList = some (hash (utf8 text)).toNat := by
  rw [ofText_eq]
  exact Hex.toNat?_padded (hash (utf8 text)).toNat_lt

lemma ofText_inj {s t : String} : ofText s = ofText t ↔ hash (utf8 s) = hash (utf8 t) := by
  constructor
  · intro h
    have hread := toNat?_ofText s
    rw [h, toNat?_ofText t] at hread
    exact (UInt64.toNat_inj.mp (Option.some.inj hread)).symm
  · intro h
    rw [← String.toList_inj, ofText_eq, ofText_eq, h]

/-- **No change of a single byte goes unnoticed.**  Texts of the same length in UTF-8 that differ in
exactly one byte have different fingerprints.  A fingerprint is sixteen small hexadecimal digits, and
they are read back as the hash, so fingerprints are equal only where hashes are. -/
theorem ofText_sensitive (s t : String) :
    (DifferOnce (utf8 s) (utf8 t) → ofText s ≠ ofText t) ∧
      (ofText s).length = 16 ∧ (∀ c ∈ (ofText s).toList, c ∈ Hex.smallDigits) ∧
      Hex.toNat? (ofText s).toList = some (hash (utf8 s)).toNat ∧
      (ofText s = ofText t ↔ hash (utf8 s) = hash (utf8 t)) := by
  refine ⟨fun h heq => ?_, ?_, fun c hc => ?_, toNat?_ofText s, ofText_inj⟩
  · obtain ⟨front, byte, byte', rest, hne, hs, ht⟩ := differOnce_iff.mp h
    have hhash := ofText_inj.mp heq
    rw [hs, ht] at hhash
    exact hash_ne hne front rest hhash
  · rw [← String.length_toList, ofText_eq, Hex.length_padded]
  · rw [ofText_eq] at hc
    exact Hex.mem_smallDigits_of_mem_padded hc

/-- Two letters that share the first of their two bytes. -/
theorem ofText_sensitive_accent :
    DifferOnce (utf8 "contract É \x7b\x7d") (utf8 "contract È \x7b\x7d") ∧
      ofText "contract É \x7b\x7d" ≠ ofText "contract È \x7b\x7d" := by
  have hdiffer : DifferOnce (utf8 "contract É \x7b\x7d") (utf8 "contract È \x7b\x7d") :=
    differOnce_iff.mpr ⟨utf8 "contract " ++ [0xC3], 0x89, 0x88, utf8 " \x7b\x7d", by decide,
      by decide, by decide⟩
  exact ⟨hdiffer, (ofText_sensitive _ _).1 hdiffer⟩

end Fingerprint
end TokenLaunch
