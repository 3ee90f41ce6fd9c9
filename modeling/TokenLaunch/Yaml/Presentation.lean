/-
# Writing scalars

A text is written plain if that is possible and would be read as the same text.  Otherwise it goes
into single quotes if they can hold it, and else into double quotes, which hold everything.  A text
of several lines is written as a literal block, one line below the other.
-/
import TokenLaunch.Yaml.Plain
import TokenLaunch.Yaml.Scalar

namespace TokenLaunch
namespace Yaml

/-! ## What each style can hold -/

/-- Whether a character is written as it is. -/
def isPrintable (c : Char) : Bool :=
  c == '\n' || (' ' ≤ c && c ≤ '~') || ('\u00A0' ≤ c && c ≤ '\uFFFD' && c != '\uFEFF')

/-- Whether two neighbours are of two classes. -/
def hasNeighbours (p q : Char → Bool) : List Char → Bool
  | a :: b :: rest => (p a && q b) || hasNeighbours p q (b :: rest)
  | _ => false

/-- Whether a character is a space. -/
def isSpace (c : Char) : Bool := c == ' '

/-- The characters that no plain text starts with. -/
def startMarks : List Char :=
  ['#', ',', '[', ']', '\x7b', '\x7d', '&', '*', '!', '|', '>', '\'', '"', '%', '@', '\x60']

/-- Whether a text has a colon that ends a word, or a number sign that starts one, behind a
character. -/
def hasMarkAfter (before : Char) : List Char → Bool
  | [] => false
  | c :: rest =>
    (c == ':' && endsWord rest) || (c == '#' && (isBlank before || isBreak before)) ||
      hasMarkAfter c rest

/-- Whether a text holds a mark, so that it would be read as something else if it were plain. -/
def hasMark : List Char → Bool
  | [] => false
  | c :: rest =>
    startMarks.contains c || ((c == '?' || c == ':' || c == '-') && endsWord rest) ||
      (c :: rest).take 3 == ['-', '-', '-'] || (c :: rest).take 3 == ['.', '.', '.'] ||
      hasMarkAfter c rest

/-- Whether a text can stand in single quotes. -/
def canBeSingleQuoted (cs : List Char) : Bool :=
  cs.all isPrintable && !hasNeighbours isSpace isBreak cs && !hasNeighbours isBreak isSpace cs

/-- Whether a text can be a literal block. -/
def canBeLiteral (cs : List Char) : Bool :=
  cs.all isPrintable && !hasNeighbours isSpace isBreak cs && !cs.getLast?.any isSpace

/-- Whether a text can be plain. -/
def canBePlain (cs : List Char) : Bool :=
  cs.all isPrintable && !cs.any isBreak && !cs.head?.any isSpace && !cs.getLast?.any isSpace &&
    !hasMark cs

/-- Whether a plain scalar means its text and is not made of digits alone. -/
def meansItself (s : String) : Bool :=
  decide (Plain.ofText s = .text s) && !Plain.isPaddedDigits s

/-- The style in which a text is written. -/
def Style.ofText (s : String) : Style :=
  let cs := s.toList
  if cs.contains '\n' then if canBeLiteral cs then .literal else .doubleQuoted
  else if meansItself s && canBePlain cs then .plain
  else if canBeSingleQuoted cs then .singleQuoted
  else .doubleQuoted

/-! ## Texts in each style -/

/-- A margin of spaces. -/
def margin (column : Nat) : List Char := List.replicate column ' '

/-- The lines of a text from a column on.  `starts` says whether a line starts here. -/
def writeLines (column : Nat) (starts : Bool) : List Char → List Char
  | [] => []
  | c :: rest =>
    if isBreak c then c :: writeLines column true rest
    else (if starts then margin column else []) ++ c :: writeLines column false rest

/-- A character in double quotes. -/
def writeEscaped (c : Char) : List Char :=
  if isPrintable c && !isBreak c && c != '"' && c != '\\' then [c]
  else
    match escapes.find? fun e => e.2 == c with
    | some (letter, _) => ['\\', letter]
    | none =>
      let (letter, width) :=
        if c.toNat < 0x100 then ('x', 2) else if c.toNat < 0x10000 then ('u', 4) else ('U', 8)
      '\\' :: letter :: (Hex.padded width c.toNat).map Char.toUpper

/-- The marks behind the bar of a literal block: its indentation if the text starts with a space or
a break, and what becomes of the breaks at its end. -/
def literalMarks (cs : List Char) : List Char :=
  let indent := if cs.head?.any fun c => isSpace c || isBreak c then ['2'] else []
  let chomping :=
    match cs.reverse with
    | [] => ['-']
    | [c] => if isBreak c then ['+'] else ['-']
    | c :: before :: _ => if !isBreak c then ['-'] else if isBreak before then ['+'] else []
  indent ++ chomping

/-- A text in the style that it is written in, with the end of the line.  The lines after the first
start at a column. -/
def writeScalar (column : Nat) (s : String) : List Char :=
  let cs := s.toList
  let endsBroken := cs.getLast?.any isBreak
  match Style.ofText s with
  | .plain => cs ++ ['\n']
  | .singleQuoted =>
    '\'' :: writeLines column false (cs.flatMap fun c => if c == '\'' then [c, c] else [c]) ++
      (if endsBroken then margin column else []) ++ ['\'', '\n']
  | .doubleQuoted => '"' :: cs.flatMap writeEscaped ++ ['"', '\n']
  | .literal | .folded =>
    '|' :: literalMarks cs ++ '\n' :: writeLines column true cs ++
      (if endsBroken then [] else ['\n'])

end Yaml
end TokenLaunch
