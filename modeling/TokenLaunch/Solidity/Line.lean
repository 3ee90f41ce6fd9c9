/-
# Source lines

Source text is made line by line, and a line piece by piece: a piece is either code, written as it
stands, or the value of a string literal, written quoted and escaped.  Text of users enters source
only as a literal, so what a line says outside literals is known from its code pieces alone.
-/
import TokenLaunch.Solidity.Literal

namespace TokenLaunch
namespace Solidity

/-- A part of a source line. -/
inductive Piece
  /-- Code, written as it stands. -/
  | code (text : String)
  /-- A string literal, given by its value. -/
  | literal (value : String)
deriving DecidableEq

/-- A source line, without its line feed. -/
abbrev Line := List Piece

namespace Piece

/-- The characters of a piece in the source. -/
def chars : Piece → List Char
  | code text => text.toList
  | literal value => Literal.quoteChars value.toList

@[simp] theorem chars_code (text : String) : (code text).chars = text.toList := rfl

@[simp] theorem chars_literal (value : String) :
    (literal value).chars = Literal.quoteChars value.toList := rfl

end Piece

namespace Line

/-- A line of code without literals. -/
def ofCode (text : String) : Line := [.code text]

/-- The empty line. -/
def empty : Line := []

/-- The characters of a line. -/
def chars (line : Line) : List Char :=
  line.flatMap Piece.chars

@[simp] theorem chars_nil : chars [] = [] := rfl

@[simp] theorem chars_cons (p : Piece) (line : Line) :
    chars (p :: line) = p.chars ++ chars line := rfl

@[simp] theorem chars_append (a b : Line) : chars (a ++ b) = chars a ++ chars b := by
  simp [chars]

/-- Four blanks for each level of nesting. -/
def margin : Nat → String
  | 0 => ""
  | level + 1 => "    " ++ margin level

/-- Move a line to the right. -/
def indent (level : Nat) (line : Line) : Line :=
  .code (margin level) :: line

/-- Lines joined with a text between them. -/
def joinWith (separator : String) : List Line → Line
  | [] => []
  | [line] => line
  | line :: rest => line ++ .code separator :: joinWith separator rest

/-- Blocks of lines with an empty line between them. -/
def spaced : List (List Line) → List Line
  | [] => []
  | [block] => block
  | block :: rest => block ++ empty :: spaced rest

/-- The characters of lines, a line feed after each. -/
def textChars (lines : List Line) : List Char :=
  lines.flatMap fun line => line.chars ++ ['\n']

@[simp] theorem textChars_nil : textChars [] = [] := rfl

@[simp] theorem textChars_cons (line : Line) (lines : List Line) :
    textChars (line :: lines) = line.chars ++ '\n' :: textChars lines := by
  simp [textChars]

@[simp] theorem textChars_append (a b : List Line) :
    textChars (a ++ b) = textChars a ++ textChars b := by
  simp [textChars]

/-- Lines as source text. -/
def text (lines : List Line) : String :=
  String.ofList (textChars lines)

end Line
end Solidity
end TokenLaunch
