/-
# What plain scalars mean

A plain scalar that is written like a boolean, a number or nothing means that; any other means its
text.  A number may be written with a base, and one that starts with a zero is none.
-/
import TokenLaunch.Decimal.Scientific
import TokenLaunch.Text.Hex

namespace TokenLaunch
namespace Yaml

/-- What a plain scalar means. -/
inductive Plain
  | null
  | bool (b : Bool)
  /-- A whole number. -/
  | integer (n : Int)
  /-- A number with a fraction or an exponent, or one that is no number. -/
  | float
  | text (s : String)
deriving DecidableEq

namespace Plain

/-- Whether a text means nothing. -/
def isNull (s : String) : Bool :=
  ["null", "Null", "NULL", "~"].contains s

/-- The boolean that a text means. -/
def bool? (s : String) : Option Bool :=
  if ["true", "True", "TRUE"].contains s then some true
  else if ["false", "False", "FALSE"].contains s then some false
  else none

/-- Without a sign in front. -/
def unsigned : List Char → List Char
  | '+' :: rest | '-' :: rest => rest
  | cs => cs

/-- Whether a text has digits only but is no number, since it starts with a zero. -/
def isPaddedDigits (s : String) : Bool :=
  match unsigned s.toList with
  | '0' :: c :: rest => (c :: rest).all Char.isDigit
  | _ => false

/-- The value of digits of a base up to sixteen; there must be some. -/
def digits? (base : Nat) (cs : List Char) : Option Nat :=
  if cs.isEmpty then none
  else
    cs.foldl (fun acc c => do
      let n ← acc
      let d ← Hex.value? c
      if d < base then some (base * n + d) else none) (some 0)

/-- The value of digits behind the mark of a base. -/
def based? : List Char → Option Nat
  | '0' :: 'x' :: rest => digits? 16 rest
  | '0' :: 'o' :: rest => digits? 8 rest
  | '0' :: 'b' :: rest => digits? 2 rest
  | _ => none

/-- The whole number of at least zero that a text means, of any size. -/
def natural? (s : String) : Option Nat :=
  let cs := match s.toList with
    | '+' :: rest => rest
    | cs => cs
  match based? cs with
  | some n => some n
  | none => if isPaddedDigits s then none else digits? 10 cs

/-- The amount below zero that a text means, of any size. -/
def negative? (s : String) : Option Nat :=
  match s.toList with
  | '-' :: cs =>
    match based? cs with
    | some n => some n
    | none => if isPaddedDigits s then none else digits? 10 cs
  | _ => none

/-- The whole number that a text means, if it fits into 128 bits. -/
def integer? (s : String) : Option Int :=
  match natural? s, negative? s with
  | some n, _ => if n < Nat.pow 2 128 then some n else none
  | none, some n => if n ≤ Nat.pow 2 127 then some (-(n : Int)) else none
  | none, none => none

/-- Whether a text means a number with a fraction or an exponent. -/
def isFloat (s : String) : Bool :=
  let positive := match s.toList with
    | '+' :: rest => rest
    | cs => cs
  let doubled := match s.toList with
    | '+' :: '+' :: _ | '+' :: '-' :: _ => true
    | _ => false
  let named := [".inf", ".Inf", ".INF"].contains (String.ofList positive) ||
    ["-.inf", "-.Inf", "-.INF", ".nan", ".NaN", ".NAN"].contains s
  !doubled && (named || (Decimal.toFloat? positive).any Float.isFinite)

/-- What a plain scalar means. -/
def ofText (s : String) : Plain :=
  if s = "" || isNull s then null
  else
    match bool? s, integer? s with
    | some b, _ => bool b
    | none, some n => integer n
    | none, none => if !isPaddedDigits s && isFloat s then float else text s

end Plain
end Yaml
end TokenLaunch
