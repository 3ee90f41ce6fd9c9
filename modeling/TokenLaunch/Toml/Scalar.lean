/-
# Strings, numbers and dates in TOML

Each function here takes what it is named for from the start of a text and answers with the rest.
-/
import TokenLaunch.Decimal.Scientific
import TokenLaunch.Text.Hex
import TokenLaunch.Time.Date
import TokenLaunch.Toml

namespace TokenLaunch
namespace Toml

/-! ## White space -/

/-- Go past spaces and tabs. -/
def skipBlanks (cs : List Char) : List Char :=
  cs.dropWhile fun c => c == ' ' || c == '\t'

/-- Go past a line break. -/
def break? : List Char → Option (List Char)
  | '\n' :: rest => some rest
  | '\r' :: '\n' :: rest => some rest
  | _ => none

/-- Whether a character may stand in a comment or in a string. -/
def isAllowed (c : Char) : Bool :=
  c == '\t' || (' ' ≤ c && c != '\x7f')

/-- Go past a comment, if there is one. -/
def skipComment : List Char → List Char
  | '#' :: rest => rest.dropWhile isAllowed
  | cs => cs

/-! ## Strings -/

/-- What a character after a backslash stands for. -/
def escapes : List (Char × Char) :=
  [('b', '\x08'), ('t', '\t'), ('n', '\n'), ('f', '\x0c'), ('r', '\r'), ('"', '"'), ('\\', '\\')]

/-- The character of an escape after its backslash. -/
def escape? : List Char → Option (Char × List Char)
  | [] => none
  | c :: rest =>
    match escapes.lookup c with
    | some x => some (x, rest)
    | none => do
      let n ← [('u', 4), ('U', 8)].lookup c
      let code ← Hex.toNat? (rest.take n)
      if (rest.take n).length = n ∧ code.isValidChar then some (Char.ofNat code, rest.drop n)
      else none

/-- Go past white space of any kind, line breaks included. -/
def skipLines : Nat → List Char → List Char
  | 0, cs => cs
  | fuel + 1, cs =>
    match break? (skipBlanks cs) with
    | some rest => skipLines fuel rest
    | none => skipBlanks cs

/-- The rest of a string after its opening quote. -/
def line? (quote : Char) : Nat → List Char → List Char → Option (String × List Char)
  | 0, _, _ => none
  | _ + 1, [], _ => none
  | fuel + 1, c :: rest, text =>
    if c == quote then some (String.ofList text.reverse, rest)
    else if c == '\\' && quote == '"' then do
      let (x, rest) ← escape? rest
      line? quote fuel rest (x :: text)
    else if isAllowed c then line? quote fuel rest (c :: text)
    else none

/-- The rest of a string after its three opening quotes.  Up to two quotes in a row are part of it,
also in front of the closing ones. -/
def lines? (quote : Char) : Nat → List Char → List Char → Option (String × List Char)
  | 0, _, _ => none
  | _ + 1, [], _ => none
  | fuel + 1, c :: rest, text =>
    if c == quote then
      let run := ((c :: rest).takeWhile fun x => x == quote).length
      if 3 ≤ run then
        let inner := min (run - 3) 2
        some (String.ofList (List.replicate inner quote ++ text).reverse,
          (c :: rest).drop (inner + 3))
      else lines? quote fuel rest (c :: text)
    else
      match break? (c :: rest) with
      | some rest => lines? quote fuel rest ('\n' :: text)
      | none =>
        if c == '\\' && quote == '"' then
          match break? (skipBlanks rest) with
          | some rest => lines? quote fuel (skipLines rest.length rest) text
          | none => do
            let (x, rest) ← escape? rest
            lines? quote fuel rest (x :: text)
        else if isAllowed c then lines? quote fuel rest (c :: text)
        else none

/-- A string of one line or of several. -/
def quoted? : List Char → Option (String × List Char)
  | a :: b :: c :: rest =>
    if (a == '"' || a == '\'') && b == a && c == a then
      let rest := (break? rest).getD rest
      lines? a (rest.length + 1) rest []
    else if a == '"' || a == '\'' then line? a ((b :: c :: rest).length + 1) (b :: c :: rest) []
    else none
  | a :: rest => if a == '"' || a == '\'' then line? a (rest.length + 1) rest [] else none
  | [] => none

/-! ## Numbers -/

/-- Digits of a class, between which single underscores may stand; the underscores are left
out. -/
def digits? (isDigit : Char → Bool) : List Char → Option (List Char × List Char)
  | [] => none
  | c :: rest =>
    if isDigit c then
      match rest with
      | '_' :: more =>
        (digits? isDigit more).map fun (ds, rest) => (c :: ds, rest)
      | rest =>
        match digits? isDigit rest with
        | some (ds, rest) => some (c :: ds, rest)
        | none => if rest.head?.any isDigit then none else some ([c], rest)
    else none

/-- A sign, if there is one: as it is written, and the rest. -/
def sign : List Char → List Char × List Char
  | '+' :: rest => (['+'], rest)
  | '-' :: rest => (['-'], rest)
  | rest => ([], rest)

/-- A whole number in decimal digits with its sign.  A zero in front of digits stands alone. -/
def decimal? (cs : List Char) : Option (List Char × List Char) :=
  let (s, cs) := sign cs
  match cs with
  | '0' :: rest => some (s ++ ['0'], rest)
  | cs => (digits? Char.isDigit cs).map fun (ds, rest) => (s ++ ds, rest)

/-- The value of decimal digits with a sign. -/
def signedValue (cs : List Char) : Int :=
  match cs with
  | '-' :: ds => -(Digits.value ds : Int)
  | '+' :: ds => Digits.value ds
  | ds => Digits.value ds

/-- A whole number, if it fits into 64 bits with its sign. -/
def wholeNumber? (n : Int) (rest : List Char) : Option (Toml × List Char) :=
  if Int64.minValue.toInt ≤ n ∧ n ≤ Int64.maxValue.toInt then some (integer n, rest) else none

/-- The digits of a base behind its mark. -/
def based? (base : Nat) (cs : List Char) : Option (Toml × List Char) := do
  let isDigit (c : Char) : Bool := (Hex.value? c).any fun d => decide (d < base)
  let (ds, rest) ← digits? isDigit cs
  wholeNumber? (ds.foldl (fun n c => base * n + (Hex.value? c).getD 0) 0 : Nat) rest

/-- A whole number. -/
def integer? : List Char → Option (Toml × List Char)
  | '0' :: 'x' :: rest => based? 16 rest
  | '0' :: 'o' :: rest => based? 8 rest
  | '0' :: 'b' :: rest => based? 2 rest
  | cs => do
    let (ds, rest) ← decimal? cs
    wholeNumber? (signedValue ds) rest

/-- The exponent of a number as it is written, if there is one. -/
def exponent? : List Char → Option (List Char × List Char)
  | c :: rest =>
    if c == 'e' || c == 'E' then
      let (s, rest) := sign rest
      (digits? Char.isDigit rest).map fun (ds, rest) => ('e' :: s ++ ds, rest)
    else none
  | [] => none

/-- A number with a fraction, an exponent or both.  It may not be too large. -/
def float? (cs : List Char) : Option (Toml × List Char) := do
  let (s, unsigned) := sign cs
  match unsigned with
  | 'i' :: 'n' :: 'f' :: rest =>
    some (float (if s == ['-'] then -Decimal.infinity else Decimal.infinity), rest)
  | 'n' :: 'a' :: 'n' :: rest => some (float Decimal.notANumber, rest)
  | _ => do
    let (whole, rest) ← decimal? cs
    let (part, rest) ← match rest with
      | '.' :: rest => (digits? Char.isDigit rest).map fun (ds, rest) => ('.' :: ds, rest)
      | rest => some ([], rest)
    let (power, rest) := (exponent? rest).getD ([], rest)
    if part.isEmpty && power.isEmpty then none
    else do
      let x ← Decimal.toFloat? (whole ++ part ++ power)
      if x == Decimal.infinity then none else some (float x, rest)

/-! ## Dates and times -/

/-- A number of exactly `n` digits. -/
def fixed? (n : Nat) (cs : List Char) : Option (Nat × List Char) :=
  if (cs.take n).length = n ∧ (cs.take n).all Char.isDigit then
    some (Digits.value (cs.take n), cs.drop n)
  else none

/-- Go past a character. -/
def char? (c : Char) : List Char → Option (List Char)
  | d :: rest => if d == c then some rest else none
  | [] => none

/-- Go past a date. -/
def date? (cs : List Char) : Option (List Char) := do
  let (year, cs) ← fixed? 4 cs
  let (month, cs) ← fixed? 2 (← char? '-' cs)
  let (day, cs) ← fixed? 2 (← char? '-' cs)
  if (Date.mk year month day).isProper then some cs else none

/-- Go past a time of day. -/
def time? (cs : List Char) : Option (List Char) := do
  let (hour, cs) ← fixed? 2 cs
  let (minute, cs) ← fixed? 2 (← char? ':' cs)
  let (second, cs) ← fixed? 2 (← char? ':' cs)
  if hour < 24 ∧ minute < 60 ∧ second ≤ 60 then
    match cs with
    | '.' :: d :: rest => if d.isDigit then some (rest.dropWhile Char.isDigit) else some cs
    | cs => some cs
  else none

/-- Go past the distance from universal time, if there is one. -/
def offset (cs : List Char) : List Char :=
  let distance? (cs : List Char) : Option (List Char) := do
    let (hour, cs) ← fixed? 2 cs
    let (minute, cs) ← fixed? 2 (← char? ':' cs)
    if hour < 24 ∧ minute < 60 then some cs else none
  match cs with
  | 'Z' :: rest | 'z' :: rest => rest
  | '+' :: rest | '-' :: rest => (distance? rest).getD cs
  | cs => cs

/-- A date, a time, or both. -/
def datetime? (cs : List Char) : Option (Toml × List Char) :=
  match date? cs with
  | some rest =>
    let after : Option (List Char) :=
      match rest with
      | c :: more => if c == 'T' || c == 't' || c == ' ' then (time? more).map offset else none
      | [] => none
    some (datetime, after.getD rest)
  | none => (time? cs).map fun rest => (datetime, rest)

/-! ## Scalars -/

/-- A word that stands for a value. -/
def constant? (word : String) (v : Toml) (cs : List Char) : Option (Toml × List Char) :=
  if cs.take word.length = word.toList then some (v, cs.drop word.length) else none

/-- A value that holds no other values. -/
def scalar? (cs : List Char) : Option (Toml × List Char) :=
  match cs with
  | [] => none
  | c :: _ =>
    if c == '"' || c == '\'' then (quoted? cs).map fun (s, rest) => (string s, rest)
    else if c == 't' then constant? "true" (boolean true) cs
    else if c == 'f' then constant? "false" (boolean false) cs
    else datetime? cs <|> float? cs <|> integer? cs

end Toml
end TokenLaunch
