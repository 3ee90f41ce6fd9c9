/-
# Reading TOML

A TOML text is a list of lines: a key with its value, a header, a comment or nothing.  A value may
go over several lines.
-/
import TokenLaunch.Toml.Scalar

namespace TokenLaunch
namespace Toml

/-! ## Keys -/

/-- Whether a character can be part of a key without quotes. -/
def isKeyChar (c : Char) : Bool := c.isAlphanum || c == '_' || c == '-'

/-- A key without dots. -/
def simpleKey? (cs : List Char) : Option (String × List Char) :=
  match cs with
  | '"' :: rest => line? '"' (rest.length + 1) rest []
  | '\'' :: rest => line? '\'' (rest.length + 1) rest []
  | cs =>
    let word := cs.takeWhile isKeyChar
    if word.isEmpty then none else some (String.ofList word, cs.drop word.length)

/-- The parts of a key after the first one, and the text behind the blanks after them. -/
def moreKeys? : Nat → List Char → Option (List String × List Char)
  | 0, _ => none
  | fuel + 1, cs =>
    match skipBlanks cs with
    | '.' :: rest => do
      let (k, rest) ← simpleKey? (skipBlanks rest)
      let (ks, rest) ← moreKeys? fuel rest
      some (k :: ks, rest)
    | cs => some ([], cs)

/-- How many parts a key may not have, and how many levels values may not be nested. -/
def depthLimit : Nat := 80

/-- A key: the parts in front of the last one, the last one, and the text behind the blanks after
it. -/
def key? (cs : List Char) : Option (List String × String × List Char) := do
  let (first, rest) ← simpleKey? (skipBlanks cs)
  let (more, rest) ← moreKeys? (rest.length + 1) rest
  let parts := first :: more
  if parts.length < depthLimit then some (parts.dropLast, parts.getLast?.getD first, rest) else none

/-! ## Values -/

/-- Go past white space, comments and line breaks. -/
def skipIdle : Nat → List Char → List Char
  | 0, cs => cs
  | fuel + 1, cs =>
    let cs := skipComment (skipBlanks cs)
    match break? cs with
    | some rest => skipIdle fuel rest
    | none => cs

mutual
/-- A value, inside `depth` arrays and tables. -/
def value? : Nat → (depth : Nat) → List Char → Option (Toml × List Char)
  | 0, _, _ => none
  | fuel + 1, depth, cs =>
    match cs with
    | '[' :: rest =>
      if depth + 1 < depthLimit then do
        let (items, rest) ← items? fuel (depth + 1) (skipIdle rest.length rest)
        some (array items, rest)
      else none
    | '{' :: rest =>
      if depth + 1 < depthLimit then do
        match skipBlanks rest with
        | '}' :: rest => some (table [], rest)
        | rest => do
          let (t, rest) ← inlineMembers? fuel (depth + 1) .root rest
          some (t.toValue, rest)
      else none
    | cs => scalar? cs
/-- The items of an array up to its closing bracket.  A comma may stand behind the last one. -/
def items? : Nat → (depth : Nat) → List Char → Option (List Toml × List Char)
  | 0, _, _ => none
  | fuel + 1, depth, cs =>
    match cs with
    | ']' :: rest => some ([], rest)
    | cs => do
      let (v, rest) ← value? fuel depth cs
      match skipIdle rest.length rest with
      | ',' :: rest => do
        let (vs, rest) ← items? fuel depth (skipIdle rest.length rest)
        some (v :: vs, rest)
      | ']' :: rest => some ([v], rest)
      | _ => none
/-- The members of a table on one line up to its closing brace, added to what is there. -/
def inlineMembers? : Nat → (depth : Nat) → Tree → List Char → Option (Tree × List Char)
  | 0, _, _, _ => none
  | fuel + 1, depth, t, cs => do
    let (path, name, rest) ← key? cs
    let (v, rest) ← value? fuel depth (skipBlanks (← char? '=' rest))
    let t ← t.insert path name v
    match skipBlanks rest with
    | ',' :: rest => inlineMembers? fuel depth t rest
    | '}' :: rest => some (t, rest)
    | _ => none
end

/-! ## Lines -/

/-- The end of a line: blanks, perhaps a comment, and a break unless the text ends. -/
def lineEnd? (cs : List Char) : Option (List Char) :=
  match skipComment (skipBlanks cs) with
  | [] => some []
  | cs => break? cs

/-- The path of a header after its opening brackets, and the rest after its closing ones. -/
def header? (double : Bool) (cs : List Char) : Option (List String × String × List Char) := do
  let (path, name, rest) ← key? cs
  let rest ← char? ']' rest
  let rest ← if double then char? ']' rest else some rest
  some (path, name, rest)

/-- The lines of a text, added to a table.  Keys belong to the table of the header before them. -/
def lines : Nat → (current : List String) → Tree → List Char → Option Tree
  | 0, _, _, _ => none
  | fuel + 1, current, t, cs =>
    match skipBlanks cs with
    | [] => some t
    | '[' :: '[' :: rest => do
      let (path, name, rest) ← header? true rest
      let t ← t.change false (Tree.addTable name) path
      lines fuel (path ++ [name]) t (← lineEnd? rest)
    | '[' :: rest => do
      let (path, name, rest) ← header? false rest
      let t ← t.change false (Tree.openTable name) path
      lines fuel (path ++ [name]) t (← lineEnd? rest)
    | c :: rest =>
      if c == '#' || c == '\n' || c == '\r' then do
        lines fuel current t (← lineEnd? (c :: rest))
      else do
        let (path, name, rest) ← key? (c :: rest)
        let (v, rest) ← value? (rest.length + 1) 0 (skipBlanks (← char? '=' rest))
        let t ← t.change false (Tree.insert path name v) current
        lines fuel current t (← lineEnd? rest)

/-- The table that a text describes.  A mark of the byte order in front does not count. -/
def parse? (s : String) : Option Toml :=
  let cs := match s.toList with
    | '\uFEFF' :: rest => rest
    | cs => cs
  (lines (cs.length + 1) [] .root cs).map Tree.toValue

end Toml
end TokenLaunch
