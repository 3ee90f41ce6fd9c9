/-
# Source files

A source file holds a license marker, a version pragma, imports and one contract.  The contract
has members; a routine among them is the constructor or a function, and its header stands on one
line or is wrapped, with each qualifier on a line of its own.
-/
import TokenLaunch.Solidity.Line

namespace TokenLaunch
namespace Solidity

/-- What a routine is called by. -/
inductive Head
  /-- The code run when the contract is deployed. -/
  | creation
  /-- A function with its name and its parameters. -/
  | function (name : String) (parameters : String)
deriving DecidableEq

/-- The start of a routine's header. -/
def Head.line : Head → Line
  | creation => [.code "constructor()"]
  | function name parameters => [.code "function ", .code name, .code ("(" ++ parameters ++ ")")]

/-- A constructor or a function. -/
structure Routine where
  head : Head
  /-- What stands between the head and the body. -/
  qualifiers : List Line
  /-- The statements. -/
  body : List Line
  /-- Whether each qualifier has a line of its own. -/
  wrapped : Bool

namespace Routine

/-- The lines from the head to the opening brace. -/
def header (r : Routine) : List Line :=
  if r.wrapped then
    Line.indent 1 r.head.line :: r.qualifiers.map (Line.indent 2) ++
      [Line.indent 1 [.code "\x7b"]]
  else
    [Line.indent 1 (r.head.line ++ r.qualifiers.flatMap (fun q => .code " " :: q) ++
      [.code " \x7b"])]

/-- The lines of a routine. -/
def lines (r : Routine) : List Line :=
  r.header ++ r.body.map (Line.indent 2) ++ [Line.indent 1 [.code "\x7d"]]

end Routine

/-- A member of a contract, or a remark between members. -/
inductive Member
  /-- Named constants that hold the hash of their name. -/
  | nameHashes (names : List String)
  /-- A state variable without a start value. -/
  | variable (declaration : String)
  /-- The constructor or a function. -/
  | routine (r : Routine)
  /-- A remark. -/
  | remark (text : String)

namespace Member

/-- The declaration of a constant that holds the hash of its name. -/
def nameHash (name : String) : Line :=
  Line.indent 1
    [.code ("bytes32 public constant " ++ name ++ " = keccak256("), .literal name, .code ");"]

/-- The lines of a member. -/
def lines : Member → List Line
  | nameHashes names => names.map nameHash
  | .variable declaration => [Line.indent 1 [.code (declaration ++ ";")]]
  | routine r => r.lines
  | remark text => [Line.indent 1 [.code ("// " ++ text)]]

end Member

/-- A file with one contract. -/
structure SourceFile where
  /-- The paths of the imported files. -/
  imports : List String
  /-- The name of the contract. -/
  name : String
  /-- The inherited contracts, in order. -/
  parents : List String
  members : List Member

namespace SourceFile

/-- The first line of every file. -/
def licenseMarker : String := "// SPDX-License-Identifier: MIT"

/-- The versions of the compiler that a file asks for. -/
def pragma : String := "pragma solidity ^0.8.20;"

/-- The import of a file. -/
def importLine (path : String) : Line :=
  [.code "import ", .literal path, .code ";"]

/-- The line that opens the contract. -/
def declaration (f : SourceFile) : Line :=
  [.code "contract ", .code f.name, .code " is ", .code (", ".intercalate f.parents),
    .code " \x7b"]

/-- The lines of a file. -/
def lines (f : SourceFile) : List Line :=
  [Line.ofCode licenseMarker, Line.ofCode pragma, Line.empty] ++ f.imports.map importLine ++
    [Line.empty, f.declaration] ++ Line.spaced (f.members.map Member.lines) ++
    [Line.ofCode "\x7d"]

/-- A file as text. -/
def text (f : SourceFile) : String :=
  Line.text f.lines

end SourceFile
end Solidity
end TokenLaunch
