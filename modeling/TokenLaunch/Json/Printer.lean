/-
# Writing JSON

The pretty form: two blanks for each level, one member or item a line, a blank after each colon.
Empty arrays and objects take no line of their own, and nothing follows the last line.
-/
import TokenLaunch.Json
import TokenLaunch.Json.Quoted

namespace TokenLaunch
namespace Json

/-- A line feed and the margin of a level. -/
def newline (level : Nat) : List Char :=
  '\n' :: List.replicate (2 * level) ' '

/-- A number.  What is no plain natural number is written with an exponent. -/
def writeNumber : JsonNumber → List Char
  | .natural n => Nat.toDigits 10 n
  | .decimal negative mantissa exponent =>
    (if negative then ['-'] else []) ++ Nat.toDigits 10 mantissa ++ 'e' ::
      ((if exponent < 0 then ['-'] else []) ++ Nat.toDigits 10 exponent.natAbs)

mutual
/-- A value whose first line is already indented to a level. -/
def write (level : Nat) : Json → List Char
  | null => ['n', 'u', 'l', 'l']
  | bool true => ['t', 'r', 'u', 'e']
  | bool false => ['f', 'a', 'l', 's', 'e']
  | number n => writeNumber n
  | string s => Quoted.write s
  | array [] => ['[', ']']
  | array (j :: rest) =>
    '[' :: (newline (level + 1) ++ write (level + 1) j ++ writeItems (level + 1) rest ++
      newline level ++ [']'])
  | object [] => ['\x7b', '\x7d']
  | object ((name, j) :: rest) =>
    '\x7b' :: (newline (level + 1) ++ Quoted.write name ++ [':', ' '] ++ write (level + 1) j ++
      writeMembers (level + 1) rest ++ newline level ++ ['\x7d'])
  | unreadable => ['n', 'u', 'l', 'l']
/-- The items after the first. -/
def writeItems (level : Nat) : List Json → List Char
  | [] => []
  | j :: rest => ',' :: (newline level ++ write level j ++ writeItems level rest)
/-- The members after the first. -/
def writeMembers (level : Nat) : List (String × Json) → List Char
  | [] => []
  | (name, j) :: rest =>
    ',' :: (newline level ++ Quoted.write name ++ [':', ' '] ++ write level j ++
      writeMembers level rest)
end

/-- A value as text. -/
def pretty (j : Json) : String :=
  String.ofList (write 0 j)

end Json
end TokenLaunch
