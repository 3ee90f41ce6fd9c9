/-
# Words

Amounts on chain are words of 256 bits.  `WordArithmetic` is what the scaling of quantities asks of
words: to read a run of digits, to multiply and to add, each of which fails where the result has no
word, and to write a word as a numeral.  `Word` does so with checked arithmetic.
-/

namespace TokenLaunch

/-- One more than the largest number that a word holds. -/
def wordLimit : Nat := Nat.pow 2 256

/-- Operations on words. -/
structure WordArithmetic (W : Type) where
  zero : W
  one : W
  ten : W
  /-- The word that a run of digits denotes. -/
  ofDigits? : List Char → Option W
  mul? : W → W → Option W
  add? : W → W → Option W
  /-- The decimal numeral of a word. -/
  numeral : W → String

/-- A word of 256 bits. -/
structure Word where
  value : Nat
  value_lt : value < wordLimit
deriving DecidableEq

namespace Word

/-- The word of a number that has one. -/
def ofNat? (n : Nat) : Option Word :=
  if h : n < wordLimit then some ⟨n, h⟩ else none

def zero : Word := ⟨0, by decide⟩

def one : Word := ⟨1, by decide⟩

def ten : Word := ⟨10, by decide⟩

/-- The product of two words. -/
def mul? (a b : Word) : Option Word := ofNat? (a.value * b.value)

/-- The sum of two words. -/
def add? (a b : Word) : Option Word := ofNat? (a.value + b.value)

/-- One more digit behind a word. -/
def push? (w : Word) (digit : Char) : Option Word :=
  (w.mul? ten).bind fun shifted =>
    (ofNat? (digit.toNat - '0'.toNat)).bind shifted.add?

/-- Read digits, the most significant first. -/
def ofDigits? (digits : List Char) : Option Word :=
  digits.foldlM push? zero

/-- The operations on words of 256 bits. -/
def arithmetic : WordArithmetic Word where
  zero := zero
  one := one
  ten := ten
  ofDigits? := ofDigits?
  mul? := mul?
  add? := add?
  numeral w := w.value.repr

end Word
end TokenLaunch
