/-
# Writing YAML

A value is written in blocks: a member or an item begins a line, and what belongs to it is indented
by two columns.  The items of a sequence in a mapping stand right below their key.  Empty sequences
and mappings are written in brackets.  Keys are words and therefore plain.
-/
import TokenLaunch.Json.Printer
import TokenLaunch.Yaml.Presentation

namespace TokenLaunch
namespace Yaml

mutual
/-- A value that starts at a column where an item begins, with the end of the line. -/
def writeBlock (column : Nat) : Json → List Char
  | .array (j :: rest) =>
    ['-', ' '] ++ writeBlock (column + 2) j ++ writeItems column rest
  | .object ((name, j) :: rest) =>
    name.toList ++ ':' :: writeValue column j ++ writeMembers column rest
  | .string s => writeScalar column s
  | j => Json.write 0 j ++ ['\n']
/-- The value behind the key of a member that starts at a column. -/
def writeValue (column : Nat) : Json → List Char
  | .array (j :: rest) =>
    '\n' :: margin column ++ ['-', ' '] ++ writeBlock (column + 2) j ++ writeItems column rest
  | .object ((name, j) :: rest) =>
    '\n' :: margin (column + 2) ++ name.toList ++ ':' :: writeValue (column + 2) j ++
      writeMembers (column + 2) rest
  | .string s => ' ' :: writeScalar (column + 2) s
  | j => ' ' :: Json.write 0 j ++ ['\n']
/-- The items after the first. -/
def writeItems (column : Nat) : List Json → List Char
  | [] => []
  | j :: rest => margin column ++ ['-', ' '] ++ writeBlock (column + 2) j ++ writeItems column rest
/-- The members after the first. -/
def writeMembers (column : Nat) : List (String × Json) → List Char
  | [] => []
  | (name, j) :: rest =>
    margin column ++ name.toList ++ ':' :: writeValue column j ++ writeMembers column rest
end

/-- A value as a document. -/
def document : Json → String
  | .string s => String.ofList (writeScalar 2 s)
  | j => String.ofList (writeBlock 0 j)

end Yaml
end TokenLaunch
