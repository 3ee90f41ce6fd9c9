/-
# Paths

A path leads to a file or a directory, by names that are separated by slashes.  Empty names and
single dots change nothing, two dots lead one directory up, and a path that ends in a slash or a
dot leads to a directory.  The empty path leads nowhere.
-/

namespace TokenLaunch

/-- A path. -/
structure Path where
  /-- The path as it is written. -/
  text : String
deriving DecidableEq

namespace Path

/-- The pieces between the slashes of a text. -/
def pieces : List Char → List (List Char)
  | [] => [[]]
  | c :: rest =>
    if c = '/' then [] :: pieces rest
    else
      match pieces rest with
      | p :: ps => (c :: p) :: ps
      | [] => [[c]]

/-- Whether a piece leads nowhere else. -/
def isIdle (piece : List Char) : Bool :=
  piece == [] || piece == ['.']

/-- The names on the way, without those that change nothing. -/
def names (p : Path) : List String :=
  ((pieces p.text.toList).filter fun piece => !isIdle piece).map String.ofList

/-- Whether the path starts at the root of the machine. -/
def isAbsolute (p : Path) : Bool :=
  p.text.toList.head? == some '/'

/-- Whether the path can only lead to a directory. -/
def mustBeDirectory (p : Path) : Bool :=
  (pieces p.text.toList).getLast?.any isIdle

/-- The name of what the path leads to, if the path ends in a name. -/
def fileName? (p : Path) : Option String :=
  p.names.getLast?.filter fun name => name != ".."

/-- The text between the last dot of the name and its end.  A dot in front of the name does not
count. -/
def extension? (p : Path) : Option String :=
  p.fileName?.bind fun name =>
    let backward := name.toList.reverse
    match backward.dropWhile fun c => c != '.' with
    | _ :: _ :: _ => some (String.ofList (backward.takeWhile fun c => c != '.').reverse)
    | _ => none

/-- The same path with another name in place of its last one. -/
def withFileName (p : Path) (name : String) : Path :=
  let before := if p.fileName?.isSome then p.names.dropLast else p.names
  let root := if p.isAbsolute then "/" else ""
  ⟨root ++ "/".intercalate (before ++ [name])⟩

end Path
end TokenLaunch
