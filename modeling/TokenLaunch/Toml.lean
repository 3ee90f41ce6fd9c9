/-
# TOML values

A TOML text is one table, whose members have names and may be tables again.  A table grows while
the text is read: headers open tables, dotted keys open tables within them, and double headers add
tables to an array.  No name may be given a second value.
-/

namespace TokenLaunch

/-- A TOML value. -/
inductive Toml
  | string (s : String)
  /-- A whole number, which fits into 64 bits with its sign. -/
  | integer (n : Int)
  | float (x : Float)
  | boolean (b : Bool)
  /-- A date, a time or both; this library has no use for what it says. -/
  | datetime
  | array (items : List Toml)
  | table (members : List (String × Toml))

namespace Toml

/-! ## Tables that grow -/

/-- A table while it grows, or what stands under a name of one. -/
inductive Tree
  | value (v : Toml)
  /-- A table.  It is implicit while no header has named it, and dotted if a dotted key made it. -/
  | table (implicit dotted : Bool) (members : List (String × Tree))
  /-- The tables of an array that double headers make, latest first. -/
  | tables (latest : Tree) (earlier : List Tree)

namespace Tree

/-- The table that a text starts with. -/
def root : Tree := table false false []

/-- Put something under a name, in place of what was there. -/
def replace (name : String) (t : Tree) : List (String × Tree) → List (String × Tree)
  | [] => [(name, t)]
  | m :: rest => if m.1 = name then (name, t) :: rest else m :: replace name t rest

/-- Change the table at the end of a path, and make the tables on the way that are missing.  A path
of dotted keys may not lead through a table that a header has named. -/
def change (dotted : Bool) (f : Tree → Option Tree) : List String → Tree → Option Tree
  | [], t => f t
  | name :: rest, table implicit isDotted members =>
    let put (t : Tree) : Tree := table implicit isDotted (replace name t members)
    match members.lookup name with
    | none => (change dotted f rest (table true dotted [])).map put
    | some (value _) => none
    | some (tables latest earlier) =>
      (change dotted f rest latest).map fun t => put (tables t earlier)
    | some (table i d ms) =>
      if dotted && !i then none else (change dotted f rest (table i d ms)).map put
  | _ :: _, _ => none

/-- Give a name of a table its value.  The table must have been made by dotted keys if dotted keys
lead to it, and must not otherwise. -/
def give (byDots : Bool) (name : String) (v : Toml) : Tree → Option Tree
  | table implicit dotted members =>
    if dotted != byDots || (members.lookup name).isSome then none
    else some (table implicit dotted (members ++ [(name, value v)]))
  | _ => none

/-- Give the value of a key, which may be dotted, to a table. -/
def insert (path : List String) (name : String) (v : Toml) (t : Tree) : Option Tree :=
  change true (give (!path.isEmpty) name v) path t

/-- Open the table of a header. -/
def openTable (name : String) : Tree → Option Tree
  | table implicit dotted members =>
    match members.lookup name with
    | none => some (table implicit dotted (members ++ [(name, table false false [])]))
    | some (table true false ms) =>
      some (table implicit dotted (replace name (table false false ms) members))
    | some _ => none
  | _ => none

/-- Add a table to the array of a double header. -/
def addTable (name : String) : Tree → Option Tree
  | table implicit dotted members =>
    match members.lookup name with
    | none => some (table implicit dotted (members ++ [(name, tables root [])]))
    | some (tables latest earlier) =>
      some (table implicit dotted (replace name (tables root (latest :: earlier)) members))
    | some _ => none
  | _ => none

mutual
/-- The value of a table that has grown. -/
def toValue : Tree → Toml
  | value v => v
  | table _ _ members => .table (membersToValue members)
  | tables latest earlier => .array ((latest.toValue :: listToValue earlier).reverse)
/-- The values of trees. -/
def listToValue : List Tree → List Toml
  | [] => []
  | t :: rest => t.toValue :: listToValue rest
/-- The values of members. -/
def membersToValue : List (String × Tree) → List (String × Toml)
  | [] => []
  | (name, t) :: rest => (name, t.toValue) :: membersToValue rest
end

end Tree

/-! ## Readings of single values -/

/-- The text of a string. -/
def text? : Toml → Option String
  | string s => some s
  | _ => none

/-- The value of a boolean. -/
def flag? : Toml → Option Bool
  | boolean b => some b
  | _ => none

/-- A whole number of at least zero and below a bound. -/
def natBelow? (bound : Nat) : Toml → Option Nat
  | integer (.ofNat n) => if n < bound then some n else none
  | _ => none

/-- A number of eight bits. -/
def byte? (v : Toml) : Option UInt8 :=
  (v.natBelow? UInt8.size).map UInt8.ofNat

/-- A number of sixty-four bits. -/
def word? (v : Toml) : Option UInt64 :=
  (v.natBelow? UInt64.size).map UInt64.ofNat

/-- A number with a fraction; whole numbers count. -/
def number? : Toml → Option Float
  | float x => some x
  | integer n => some (Float.ofInt n)
  | _ => none

/-- The members of a table. -/
def members? : Toml → Option (List (String × Toml))
  | table members => some members
  | _ => none

end Toml
end TokenLaunch
