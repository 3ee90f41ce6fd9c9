/-
# Hexadecimal digits

Bytes are written with two small hexadecimal digits each, the high half first.  Identifiers on
chain are bytes written this way after `0x`.
-/

namespace TokenLaunch
namespace Hex

/-- The small digit of a half byte. -/
def digit (n : Nat) : Char :=
  if n < 10 then Char.ofNat ('0'.toNat + n) else Char.ofNat ('a'.toNat + (n - 10))

/-- The value of a hexadecimal digit, in either case. -/
def value? (c : Char) : Option Nat :=
  if '0' ≤ c ∧ c ≤ '9' then some (c.toNat - '0'.toNat)
  else if 'a' ≤ c ∧ c ≤ 'f' then some (c.toNat - 'a'.toNat + 10)
  else if 'A' ≤ c ∧ c ≤ 'F' then some (c.toNat - 'A'.toNat + 10)
  else none

theorem value?_digit : ∀ n < 16, value? (digit n) = some n := by decide

/-- A byte as two digits. -/
def ofByte (b : UInt8) : List Char :=
  [digit (b.toNat / 16), digit (b.toNat % 16)]

@[simp] theorem length_ofByte (b : UInt8) : (ofByte b).length = 2 := rfl

/-- Bytes as digits, two for each. -/
def ofBytes (bs : List UInt8) : List Char :=
  bs.flatMap ofByte

@[simp] theorem length_ofBytes (bs : List UInt8) : (ofBytes bs).length = 2 * bs.length := by
  induction bs with
  | nil => rfl
  | cons b bs ih =>
    simp only [ofBytes, List.flatMap_cons, List.length_append, length_ofByte, List.length_cons]
      at ih ⊢
    omega

/-- The bytes that digits stand for, when each byte has its two digits. -/
def toBytes? : List Char → Option (List UInt8)
  | [] => some []
  | [_] => none
  | a :: b :: rest => do
    let high ← value? a
    let low ← value? b
    let bytes ← toBytes? rest
    pure (UInt8.ofNat (16 * high + low) :: bytes)

/-- The value of a run of digits, or nothing if a character is none. -/
def toNat? (cs : List Char) : Option Nat :=
  cs.foldl (fun acc c => do pure (16 * (← acc) + (← value? c))) (some 0)

/-- A number below `16 ^ width`, with leading zeros. -/
def padded : Nat → Nat → List Char
  | 0, _ => []
  | width + 1, n => padded width (n / 16) ++ [digit (n % 16)]

@[simp] theorem length_padded (width n : Nat) : (padded width n).length = width := by
  induction width generalizing n with
  | zero => rfl
  | succ width ih => simp [padded, ih]

end Hex
end TokenLaunch
