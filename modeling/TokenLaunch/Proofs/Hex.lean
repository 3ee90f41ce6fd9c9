/-
# Hexadecimal digits are read back

Bytes are written with small digits only, and reading the digits gives the bytes back.
-/
import Mathlib.Tactic
import TokenLaunch.Text.Hex

namespace TokenLaunch
namespace Hex

/-- The digits that are written. -/
def smallDigits : List Char :=
  ['0', '1', '2', '3', '4', '5', '6', '7', '8', '9', 'a', 'b', 'c', 'd', 'e', 'f']

lemma digit_mem_smallDigits : ∀ n < 16, digit n ∈ smallDigits := by decide

lemma mem_smallDigits {bs : List UInt8} {c : Char} (h : c ∈ ofBytes bs) : c ∈ smallDigits := by
  obtain ⟨b, -, hb⟩ := List.mem_flatMap.mp h
  have hbyte : b.toNat < 256 := b.toNat_lt
  simp only [ofByte, List.mem_cons, List.not_mem_nil, or_false] at hb
  rcases hb with rfl | rfl
  · exact digit_mem_smallDigits _ (by omega)
  · exact digit_mem_smallDigits _ (by omega)

lemma mem_smallDigits_of_mem_padded {width n : ℕ} {c : Char} (h : c ∈ padded width n) :
    c ∈ smallDigits := by
  induction width generalizing n with
  | zero => exact absurd h List.not_mem_nil
  | succ width ih =>
    rw [padded, List.mem_append, List.mem_singleton] at h
    rcases h with h | rfl
    · exact ih h
    · exact digit_mem_smallDigits _ (Nat.mod_lt _ (by decide))

/-- **Digits are read as the bytes that they were written for.** -/
theorem toBytes?_ofBytes (bs : List UInt8) : toBytes? (ofBytes bs) = some bs := by
  induction bs with
  | nil => rfl
  | cons b bs ih =>
    have hbyte : b.toNat < 256 := b.toNat_lt
    have hhigh : value? (digit (b.toNat / 16)) = some (b.toNat / 16) :=
      value?_digit _ (by omega)
    have hlow : value? (digit (b.toNat % 16)) = some (b.toNat % 16) :=
      value?_digit _ (by omega)
    have hsplit : ofBytes (b :: bs) =
        digit (b.toNat / 16) :: digit (b.toNat % 16) :: ofBytes bs := rfl
    have hvalue : UInt8.ofNat (16 * (b.toNat / 16) + b.toNat % 16) = b := by
      rw [Nat.div_add_mod, UInt8.ofNat_toNat]
    rw [hsplit, toBytes?, hhigh, hlow, ih]
    exact congrArg (fun byte => some (byte :: bs)) hvalue

end Hex
end TokenLaunch
