/-
# String literals

A string literal stands between quotes.  Inside it a quote, a backslash, a line feed, a carriage
return and a tab are written with a backslash; other control characters have no place in a literal
and are left out.

`read` is the other direction: it starts after the opening quote, stops at the first quote that no
backslash protects, and undoes the escapes.
-/
import TokenLaunch.Text.Control

namespace TokenLaunch
namespace Solidity
namespace Literal

/-- What a literal writes for a character. -/
def escape (c : Char) : List Char :=
  if c = '"' then ['\\', '"']
  else if c = '\\' then ['\\', '\\']
  else if c = '\n' then ['\\', 'n']
  else if c = '\r' then ['\\', 'r']
  else if c = '\t' then ['\\', 't']
  else if Text.isControl c then []
  else [c]

/-- The characters between the quotes. -/
def body (cs : List Char) : List Char :=
  cs.flatMap escape

@[simp] theorem body_nil : body [] = [] := rfl

@[simp] theorem body_cons (c : Char) (cs : List Char) : body (c :: cs) = escape c ++ body cs := rfl

theorem body_append (a b : List Char) : body (a ++ b) = body a ++ body b := by
  simp [body]

/-- A literal with its quotes. -/
def quoteChars (cs : List Char) : List Char :=
  '"' :: (body cs ++ ['"'])

/-- A string as a literal. -/
def quote (s : String) : String :=
  String.ofList (quoteChars s.toList)

@[simp] theorem toList_quote (s : String) : (quote s).toList = quoteChars s.toList := by
  simp [quote]

/-! ## Reading a literal back -/

/-- What an escaped character stands for. -/
def unescape (c : Char) : Char :=
  if c = 'n' then '\n' else if c = 'r' then '\r' else if c = 't' then '\t' else c

/-- Read a literal after its opening quote: its value and the text that follows it. -/
def read : List Char → Option (List Char × List Char)
  | [] => none
  | '"' :: rest => some ([], rest)
  | '\\' :: c :: rest => (read rest).map fun r => (unescape c :: r.1, r.2)
  | '\\' :: [] => none
  | c :: rest => (read rest).map fun r => (c :: r.1, r.2)

/-- Whether a character survives in a literal. -/
def isKept (c : Char) : Bool :=
  !Text.isControl c || c == '\n' || c == '\r' || c == '\t'

end Literal
end Solidity
end TokenLaunch
