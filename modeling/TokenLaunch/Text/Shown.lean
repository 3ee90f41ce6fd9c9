/-
# Texts shown in quotes

Where a setting is shown for inspection, its text stands in double quotes, and every character that
could be mistaken or not be seen is written as an escape.
-/
import TokenLaunch.Text.Hidden

namespace TokenLaunch
namespace Text

/-- The letters for characters that have an escape of their own. -/
def shownEscapes : List (Char × Char) :=
  [('\x00', '0'), ('\t', 't'), ('\r', 'r'), ('\n', 'n'), ('\'', '\''), ('"', '"'), ('\\', '\\')]

/-- A character as it is shown. -/
def shownChar (c : Char) : List Char :=
  match shownEscapes.lookup c with
  | some letter => ['\\', letter]
  | none =>
    if isHidden c then ['\\', 'u', '\x7b'] ++ Nat.toDigits 16 c.toNat ++ ['\x7d'] else [c]

/-- A text as it is shown. -/
def shown (s : String) : String :=
  String.ofList ('"' :: s.toList.flatMap shownChar ++ ['"'])

end Text
end TokenLaunch
