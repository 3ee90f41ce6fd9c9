/-
# JSON values

A JSON value keeps the members of an object in the order in which they are written, repeated
names included.  Of numbers only the natural ones mean something to this library; any other is
kept as a decimal fraction, so that it can be told apart and, where an estimate is asked for,
turned into one.
-/

namespace TokenLaunch

/-- A number as JSON writes it. -/
inductive JsonNumber
  /-- Digits alone. -/
  | natural (n : Nat)
  /-- Anything with a sign, a fraction or an exponent: `mantissa * 10 ^ exponent`. -/
  | decimal (negative : Bool) (mantissa : Nat) (exponent : Int)
deriving DecidableEq

/-- A JSON value. -/
inductive Json
  | null
  | bool (b : Bool)
  | number (n : JsonNumber)
  | string (s : String)
  | array (items : List Json)
  /-- The members in the order in which they are written. -/
  | object (members : List (String × Json))
  /-- A well-formed value that stands for no text: a string with half of a surrogate pair, or an
  object with such a name.  It can be passed over, and nothing else. -/
  | unreadable

namespace Json

/-- A natural number. -/
def natural (n : Nat) : Json := number (.natural n)

/-- The string, or null for none. -/
def ofString? : Option String → Json
  | some s => string s
  | none => null

/-! ## Readings of single values -/

/-- The text of a string. -/
def text? : Json → Option String
  | string s => some s
  | _ => none

/-- The value of a boolean. -/
def bool? : Json → Option Bool
  | bool b => some b
  | _ => none

/-- A natural number below a bound. -/
def natBelow? (bound : Nat) : Json → Option Nat
  | number (.natural n) => if n < bound then some n else none
  | _ => none

/-- A number of eight bits. -/
def byte? (j : Json) : Option UInt8 :=
  (j.natBelow? UInt8.size).map UInt8.ofNat

/-- A number of sixty-four bits. -/
def word? (j : Json) : Option UInt64 :=
  (j.natBelow? UInt64.size).map UInt64.ofNat

/-- The items of an array. -/
def items? : Json → Option (List Json)
  | array items => some items
  | _ => none

/-- A choice without content: its name, or an object that gives the name the value null. -/
def choice? : Json → Option String
  | string s => some s
  | object [(name, null)] => some name
  | _ => none

/-- Null for nothing, and otherwise what a reading makes of the value. -/
def nullable? {α : Type} (read : Json → Option α) : Json → Option (Option α)
  | null => some none
  | j => (read j).map some

/-- An array whose items all read. -/
def list? {α : Type} (read : Json → Option α) (j : Json) : Option (List α) :=
  j.items?.bind fun items => items.mapM read

/-! ## Values that can be kept aside

A value under a name that nobody knows is read all the same, and must then be within bounds:
numbers within the range of 64-bit floating point, texts complete, and nesting not too deep. -/

/-- One more than half a step above the largest 64-bit floating-point number: numbers from here on
are out of range. -/
def rangeLimit : Nat := Nat.pow 2 1024 - Nat.pow 2 970

/-- Whether `mantissa * 10 ^ exponent` is below the range limit. -/
def inRange (mantissa : Nat) (exponent : Int) : Bool :=
  if mantissa = 0 then true
  else
    let digits : Int := (Nat.toDigits 10 mantissa).length
    if 310 < digits + exponent then false
    else if digits + exponent < 300 then true
    else if 0 ≤ exponent then decide (mantissa * Nat.pow 10 exponent.toNat < rangeLimit)
    else decide (mantissa < rangeLimit * Nat.pow 10 (-exponent).toNat)

/-- Whether a number is within the range of 64-bit floating point. -/
def numberInRange : JsonNumber → Bool
  | .natural n => Json.inRange n 0
  | .decimal _ mantissa exponent => Json.inRange mantissa exponent

mutual
/-- Whether a value can be kept aside at most `depth` levels deep. -/
def isKeepable (depth : Nat) : Json → Bool
  | null | bool _ | string _ => true
  | number n => numberInRange n
  | array items => decide (0 < depth) && allKeepable (depth - 1) items
  | object members => decide (0 < depth) && membersKeepable (depth - 1) members
  | unreadable => false
/-- Whether every item can be kept aside. -/
def allKeepable (depth : Nat) : List Json → Bool
  | [] => true
  | j :: rest => isKeepable depth j && allKeepable depth rest
/-- Whether the value of every member can be kept aside. -/
def membersKeepable (depth : Nat) : List (String × Json) → Bool
  | [] => true
  | (_, j) :: rest => isKeepable depth j && membersKeepable depth rest
end

end Json
end TokenLaunch
