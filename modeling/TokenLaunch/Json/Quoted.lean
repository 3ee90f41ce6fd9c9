/-
# JSON strings

A string stands between quotes.  Quote, backslash and the control characters below the blank are
written with a backslash; every other character stands for itself.

Reading is in two steps.  `scan` takes the parts of a string up to its closing quote, and accepts
`\u` with any four digits; `assemble` puts surrogate halves together, and fails where a half has
no partner.
-/
import TokenLaunch.Text.Hex

namespace TokenLaunch
namespace Json
namespace Quoted

/-! ## Writing -/

/-- What a string writes for a character. -/
def escape (c : Char) : List Char :=
  if c = '"' then ['\\', '"']
  else if c = '\\' then ['\\', '\\']
  else if c = '\x08' then ['\\', 'b']
  else if c = '\x0c' then ['\\', 'f']
  else if c = '\n' then ['\\', 'n']
  else if c = '\r' then ['\\', 'r']
  else if c = '\t' then ['\\', 't']
  else if c.toNat < 0x20 then '\\' :: 'u' :: Hex.padded 4 c.toNat
  else [c]

/-- The characters between the quotes. -/
def body (cs : List Char) : List Char :=
  cs.flatMap escape

@[simp] theorem body_nil : body [] = [] := rfl

@[simp] theorem body_cons (c : Char) (cs : List Char) : body (c :: cs) = escape c ++ body cs := rfl

/-- A string with its quotes. -/
def write (s : String) : List Char :=
  '"' :: (body s.toList ++ ['"'])

/-! ## Reading -/

/-- A part of a string. -/
inductive Part
  /-- A character, or an escape of one. -/
  | char (c : Char)
  /-- A number of sixteen bits, from `\u`. -/
  | unit (n : Nat)
deriving DecidableEq

/-- What a backslash makes of the character after it. -/
def unescape? (c : Char) : Option Char :=
  if c = '"' then some '"'
  else if c = '\\' then some '\\'
  else if c = '/' then some '/'
  else if c = 'b' then some '\x08'
  else if c = 'f' then some '\x0c'
  else if c = 'n' then some '\n'
  else if c = 'r' then some '\r'
  else if c = 't' then some '\t'
  else none

/-- The parts of a string after its opening quote, and the text after its closing one. -/
def scan : List Char → Option (List Part × List Char)
  | [] => none
  | '"' :: rest => some ([], rest)
  | '\\' :: 'u' :: a :: b :: c :: d :: rest =>
    (Hex.toNat? [a, b, c, d]).bind fun n => (scan rest).map fun r => (.unit n :: r.1, r.2)
  | '\\' :: e :: rest =>
    (unescape? e).bind fun c => (scan rest).map fun r => (.char c :: r.1, r.2)
  | c :: rest =>
    if c.toNat < 0x20 || c == '\\' then none
    else (scan rest).map fun r => (.char c :: r.1, r.2)

/-- Whether a number is the first half of a surrogate pair. -/
def isHigh (n : Nat) : Bool := decide (0xD800 ≤ n) && decide (n ≤ 0xDBFF)

/-- Whether a number is the second half of a surrogate pair. -/
def isLow (n : Nat) : Bool := decide (0xDC00 ≤ n) && decide (n ≤ 0xDFFF)

/-- The character of a surrogate pair. -/
def pair (high low : Nat) : Char :=
  Char.ofNat (0x10000 + (high - 0xD800) * 0x400 + (low - 0xDC00))

/-- The characters that parts stand for. -/
def assemble : List Part → Option (List Char)
  | [] => some []
  | .char c :: rest => (assemble rest).map (c :: ·)
  | .unit high :: .unit low :: rest =>
    if isHigh high then
      if isLow low then (assemble rest).map (pair high low :: ·) else none
    else if isLow high then none
    else (assemble (.unit low :: rest)).map (Char.ofNat high :: ·)
  | .unit n :: rest =>
    if isHigh n || isLow n then none else (assemble rest).map (Char.ofNat n :: ·)

end Quoted
end Json
end TokenLaunch
