/-
# Timestamps

An instant is written in universal time as `2024-03-05T07:09:11Z`.  A fraction of a second is
written with three, six or nine digits, as few as are exact, and a year outside 0 to 9999 with a
sign.  A leap second is written with the number after that of its second.

Reading is lenient.  The fields may have fewer digits and blanks in front, the date and the time
may be parted by `T`, `t` or a blank, the offset may lack its colon, and digits of the fraction
beyond the ninth are dropped.
-/
import TokenLaunch.Text.Blank
import TokenLaunch.Text.Digits
import TokenLaunch.Time.Instant

namespace TokenLaunch
namespace Timestamp

/-! ## Writing -/

/-- A year, with a sign outside the range of four digits. -/
def year (y : Int) : List Char :=
  if 0 ≤ y ∧ y ≤ 9999 then Digits.atLeast 4 y.toNat
  else (if y < 0 then '-' else '+') :: Digits.atLeast 4 y.natAbs

/-- A date. -/
def date (d : Date) : List Char :=
  year d.year ++ '-' :: (Digits.atLeast 2 d.month ++ '-' :: Digits.atLeast 2 d.day)

/-- The hour and the minute of the day. -/
def hourMinute (minute : Nat) : List Char :=
  Digits.atLeast 2 (minute / 60) ++ ':' :: Digits.atLeast 2 (minute % 60)

/-- A fraction of a second with its point, or nothing. -/
def fraction (nanosecond : Nat) : List Char :=
  if nanosecond = 0 then []
  else if nanosecond % 1000000 = 0 then '.' :: Digits.atLeast 3 (nanosecond / 1000000)
  else if nanosecond % 1000 = 0 then '.' :: Digits.atLeast 6 (nanosecond / 1000)
  else '.' :: Digits.atLeast 9 nanosecond

/-- The characters of an instant. -/
def write (t : Instant) : List Char :=
  date t.date ++ 'T' :: (hourMinute t.minute ++ ':' :: (Digits.atLeast 2 t.shownSecond ++
    (fraction t.shownNanosecond ++ ['Z'])))

/-- An instant as text. -/
def text (t : Instant) : String :=
  String.ofList (write t)

/-- The date and the time of day, down to the minute. -/
def shortText (t : Instant) : String :=
  String.ofList (date t.date ++ ' ' :: hourMinute t.minute)

/-! ## Reading -/

/-- The text after the blanks at its start. -/
def skipBlank (cs : List Char) : List Char :=
  cs.dropWhile Text.isBlank

/-- A number of one or two digits, with blanks in front. -/
def scanField? (cs : List Char) : Option (Nat × List Char) :=
  (Digits.scan? 2 (skipBlank cs)).map fun r => (Digits.value r.1, r.2)

/-- A year: at most four digits, or a sign and any number of them. -/
def scanYear? (cs : List Char) : Option (Int × List Char) :=
  match skipBlank cs with
  | '-' :: rest => (Digits.scanAll? rest).map fun r => (-(Digits.value r.1 : Int), r.2)
  | '+' :: rest => (Digits.scanAll? rest).map fun r => ((Digits.value r.1 : Int), r.2)
  | cs => (Digits.scan? 4 cs).map fun r => ((Digits.value r.1 : Int), r.2)

/-- The text after a separator, with blanks in front of it. -/
def skip? (separator : Char) (cs : List Char) : Option (List Char) :=
  match skipBlank cs with
  | c :: rest => if c = separator then some rest else none
  | [] => none

/-- A date. -/
def scanDate? (cs : List Char) : Option (Date × List Char) := do
  let (y, cs) ← scanYear? cs
  let cs ← skip? '-' cs
  let (m, cs) ← scanField? cs
  let cs ← skip? '-' cs
  let (d, cs) ← scanField? cs
  return (⟨y, m, d⟩, cs)

/-- The text after the character between date and time. -/
def skipDivider? : List Char → Option (List Char)
  | c :: rest => if c = 'T' ∨ c = 't' ∨ c = ' ' then some rest else none
  | [] => none

/-- A fraction of a second in nanoseconds, zero if there is no point. -/
def scanFraction? : List Char → Option (Nat × List Char)
  | '.' :: rest =>
    (Digits.scan? 9 rest).map fun r =>
      (Digits.value r.1 * Nat.pow 10 (9 - r.1.length), r.2.dropWhile Char.isDigit)
  | cs => some (0, cs)

/-- The sign of an offset; the minus sign proper counts too. -/
def scanSign? : List Char → Option (Int × List Char)
  | c :: rest =>
    if c = '+' then some (1, rest)
    else if c = '-' ∨ c = '\u2212' then some (-1, rest)
    else none
  | [] => none

/-- Exactly two digits. -/
def scanTwo? : List Char → Option (Nat × List Char)
  | a :: b :: rest =>
    if a.isDigit && b.isDigit then some (Digits.value [a, b], rest) else none
  | _ => none

/-- An offset from universal time in minutes. -/
def scanOffset? (cs : List Char) : Option (Int × List Char) :=
  match cs with
  | 'Z' :: rest | 'z' :: rest => some (0, rest)
  | cs =>
    if (cs.take 3).map Char.toLower = ['u', 't', 'c'] then some (0, cs.drop 3)
    else do
      let (sign, cs) ← scanSign? cs
      let (hours, cs) ← scanTwo? cs
      let (minutes, cs) ← scanTwo? (cs.dropWhile fun c => c == ':' || Text.isBlank c)
      if hours ≤ 23 ∧ minutes ≤ 59 then
        return (sign * (60 * hours + minutes : Nat), cs)
      else none

/-- The instant that characters give. -/
def read? (cs : List Char) : Option Instant := do
  let (d, cs) ← scanDate? cs
  let cs ← skipDivider? cs
  let (h, cs) ← scanField? cs
  let cs ← skip? ':' cs
  let (m, cs) ← scanField? cs
  let cs ← skip? ':' cs
  let (s, cs) ← scanField? cs
  let (nanos, cs) ← scanFraction? cs
  let (offset, cs) ← scanOffset? (skipBlank cs)
  if h ≤ 23 ∧ m ≤ 59 ∧ d.isProper ∧ (skipBlank cs).isEmpty then
    Instant.ofLocal? d (60 * h + m) s nanos offset
  else none

/-- The instant that a text gives. -/
def parse? (s : String) : Option Instant :=
  read? s.toList

end Timestamp
end TokenLaunch
