/-
# Pseudorandom words

A simulated launch draws its addresses and its gas estimates from an endless stream of 32-bit words
that a seed determines.  The seed is stretched to a key of eight words, and the stream is what the
ChaCha cipher with twelve rounds makes of the block numbers 0, 1, 2, … under that key.

The words of a block are computed four at a time: a block is a square of four rows, and one
quarter round works on all four columns of the square at once.
-/

namespace TokenLaunch

/-- An endless stream of words. -/
def Words : Type := Nat → UInt32

namespace Words

/-! ## Stretching a seed -/

/-- The state after one step of the generator that stretches a seed. -/
def stretch (s : UInt64) : UInt64 :=
  s * 6364136223846793005 + 11634580027462260723

/-- A word turned right by some bits. -/
def rotateRight (x bits : UInt32) : UInt32 :=
  (x >>> bits) ||| (x <<< (32 - bits))

/-- The word that a state of that generator gives. -/
def keyWord (s : UInt64) : UInt32 :=
  rotateRight (((s >>> 18) ^^^ s) >>> 27).toUInt32 (s >>> 59).toUInt32

/-- The next `n` key words. -/
def keyWords : Nat → UInt64 → List UInt32
  | 0, _ => []
  | n + 1, s => keyWord (stretch s) :: keyWords n (stretch s)

@[simp] theorem length_keyWords (n : Nat) (s : UInt64) : (keyWords n s).length = n := by
  induction n generalizing s with
  | zero => rfl
  | succ n ih => simp [keyWords, ih]

/-! ## Blocks -/

/-- Four words. -/
structure Row where
  a : UInt32
  b : UInt32
  c : UInt32
  d : UInt32
deriving DecidableEq

namespace Row

/-- Combine two rows word by word. -/
def zip (f : UInt32 → UInt32 → UInt32) (r s : Row) : Row :=
  ⟨f r.a s.a, f r.b s.b, f r.c s.c, f r.d s.d⟩

/-- Move every word one place to the left, the first one to the end. -/
def turn (r : Row) : Row := ⟨r.b, r.c, r.d, r.a⟩

/-- Combine two rows by exclusive or and turn each word left by some bits. -/
def mix (bits : UInt32) (r s : Row) : Row :=
  zip (fun x y => rotateRight (x ^^^ y) (32 - bits)) r s

/-- The row of four words of a list, zero where there are none. -/
def ofList (ws : List UInt32) : Row :=
  ⟨ws.getD 0 0, ws.getD 1 0, ws.getD 2 0, ws.getD 3 0⟩

/-- The words of a row. -/
def toList (r : Row) : List UInt32 := [r.a, r.b, r.c, r.d]

end Row

/-- Sixteen words in a square. -/
structure Square where
  a : Row
  b : Row
  c : Row
  d : Row
deriving DecidableEq

namespace Square

/-- A quarter round on each column. -/
def quarter (s : Square) : Square :=
  let a := s.a.zip (· + ·) s.b
  let d := s.d.mix 16 a
  let c := s.c.zip (· + ·) d
  let b := s.b.mix 12 c
  let a := a.zip (· + ·) b
  let d := d.mix 8 a
  let c := c.zip (· + ·) d
  let b := b.mix 7 c
  ⟨a, b, c, d⟩

/-- Turn each row so that the diagonals become columns. -/
def slant (s : Square) : Square :=
  ⟨s.a, s.b.turn, s.c.turn.turn, s.d.turn.turn.turn⟩

/-- Undo `slant`. -/
def straighten (s : Square) : Square :=
  ⟨s.a, s.b.turn.turn.turn, s.c.turn.turn, s.d.turn⟩

@[simp] theorem straighten_slant (s : Square) : s.slant.straighten = s := rfl

/-- Two rounds: one on the columns and one on the diagonals. -/
def twoRounds (s : Square) : Square :=
  s.quarter.slant.quarter.straighten

/-- Add two squares word by word. -/
def add (s t : Square) : Square :=
  ⟨s.a.zip (· + ·) t.a, s.b.zip (· + ·) t.b, s.c.zip (· + ·) t.c, s.d.zip (· + ·) t.d⟩

/-- The words of a square, row by row. -/
def toList (s : Square) : List UInt32 :=
  s.a.toList ++ s.b.toList ++ s.c.toList ++ s.d.toList

@[simp] theorem length_toList (s : Square) : s.toList.length = 16 := rfl

end Square

/-- The first row of every block: the text `expand 32-byte k`, four bytes to a word. -/
def constants : Row := ⟨0x61707865, 0x3320646e, 0x79622d32, 0x6b206574⟩

/-- The square that block number `n` starts from: the constants, the key and the number. -/
def start (key : List UInt32) (n : Nat) : Square :=
  ⟨constants, .ofList key, .ofList (key.drop 4),
    ⟨UInt32.ofNat n, UInt32.ofNat (n / UInt32.size), 0, 0⟩⟩

/-- The words of block number `n`. -/
def block (key : List UInt32) (n : Nat) : List UInt32 :=
  let s := start key n
  (s.twoRounds.twoRounds.twoRounds.twoRounds.twoRounds.twoRounds.add s).toList

/-- The stream of a seed. -/
def ofSeed (seed : UInt64) : Words := fun i =>
  (block (keyWords 8 seed) (i / 16)).getD (i % 16) 0

/-! ## Drawing from a stream -/

/-- The low byte of each of `count` words from place `position` on. -/
def bytes (ws : Words) (position count : Nat) : List UInt8 :=
  (List.range count).map fun i => (ws (position + i)).toUInt8

@[simp] theorem length_bytes (ws : Words) (position count : Nat) :
    (ws.bytes position count).length = count := by
  simp [bytes]

/-- Bytes drawn together are the same as bytes drawn in two parts. -/
theorem bytes_add (ws : Words) (position m n : Nat) :
    ws.bytes position (m + n) = ws.bytes position m ++ ws.bytes (position + m) n := by
  simp [bytes, List.range_add, Nat.add_assoc]

/-- Two words as one number, the first word being the low half. -/
def wide (ws : Words) (position : Nat) : UInt64 :=
  (ws (position + 1)).toUInt64 <<< 32 ||| (ws position).toUInt64

/-- A fraction of at least 0 and less than 1, made of the high bits of two words. -/
def fraction (ws : Words) (position : Nat) : Float :=
  (ws.wide position >>> 11).toFloat / 9007199254740992

end Words
end TokenLaunch
