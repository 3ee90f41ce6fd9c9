/-
# Reading JSON

A text is one value with blanks around it.  The grammar is strict: no comments, no trailing
commas, no leading zeros, no byte order mark.  Each reader takes the start of a text and gives
what it read together with the rest.
-/
import TokenLaunch.Json
import TokenLaunch.Json.Quoted

namespace TokenLaunch
namespace Json

/-- The characters allowed between tokens. -/
def isSpace (c : Char) : Bool :=
  c == ' ' || c == '\n' || c == '\r' || c == '\t'

/-- The text after the blanks at its start. -/
def skipSpace (cs : List Char) : List Char :=
  cs.dropWhile isSpace

/-! ## Numbers -/

/-- One digit or more. -/
def scanDigits? (cs : List Char) : Option (List Char × List Char) :=
  let digits := cs.takeWhile Char.isDigit
  if digits.isEmpty then none else some (digits, cs.dropWhile Char.isDigit)

/-- Digits without a leading zero. -/
def scanWhole? (cs : List Char) : Option (List Char × List Char) :=
  (scanDigits? cs).bind fun r =>
    if r.1.head? = some '0' ∧ r.1.length ≠ 1 then none else some r

/-- The digits of a fraction, none if there is no point. -/
def scanFraction? : List Char → Option (List Char × List Char)
  | '.' :: rest => scanDigits? rest
  | cs => some ([], cs)

/-- The value of an exponent, nothing if there is none. -/
def scanExponent? : List Char → Option (Option Int × List Char)
  | e :: rest =>
    if e == 'e' || e == 'E' then
      match rest with
      | '-' :: rest =>
        (scanDigits? rest).map fun r => (some (-(Nat.ofDigitChars 10 r.1 0 : Int)), r.2)
      | '+' :: rest =>
        (scanDigits? rest).map fun r => (some (Nat.ofDigitChars 10 r.1 0 : Int), r.2)
      | rest => (scanDigits? rest).map fun r => (some (Nat.ofDigitChars 10 r.1 0 : Int), r.2)
    else some (none, e :: rest)
  | [] => some (none, [])

/-- A number without its sign. -/
def scanUnsigned? (negative : Bool) (cs : List Char) : Option (JsonNumber × List Char) := do
  let (whole, cs) ← scanWhole? cs
  let (fraction, cs) ← scanFraction? cs
  let (exponent, cs) ← scanExponent? cs
  let mantissa := Nat.ofDigitChars 10 (whole ++ fraction) 0
  if !negative && fraction.isEmpty && exponent.isNone then
    return (.natural mantissa, cs)
  else
    return (.decimal negative mantissa (exponent.getD 0 - fraction.length), cs)

/-- A number. -/
def scanNumber? : List Char → Option (JsonNumber × List Char)
  | '-' :: rest => scanUnsigned? true rest
  | cs => scanUnsigned? false cs

/-! ## Values -/

/-- The text after a word that it starts with. -/
def scanWord? (word : List Char) (cs : List Char) : Option (List Char) :=
  if word.isPrefixOf cs then some (cs.drop word.length) else none

/-- The name of a member, after its opening quote: nothing inside if it stands for no text. -/
def scanName? (cs : List Char) : Option (Option String × List Char) :=
  (Quoted.scan cs).map fun r => ((Quoted.assemble r.1).map String.ofList, r.2)

/-- Put a member in front of the members of an object. -/
def withMember (name : Option String) (j : Json) : Option (List (String × Json)) →
    Option (List (String × Json))
  | some members => name.map fun name => (name, j) :: members
  | none => none

/-- An object of members; unreadable if the name of one is. -/
def ofMembers : Option (List (String × Json)) → Json
  | some members => object members
  | none => unreadable

mutual
/-- A value, read with at most `fuel` steps down. -/
def scanValue? : Nat → List Char → Option (Json × List Char)
  | 0, _ => none
  | fuel + 1, cs =>
    match cs with
    | '"' :: rest =>
      (scanName? rest).map fun r => ((r.1.map Json.string).getD unreadable, r.2)
    | '[' :: rest =>
      match skipSpace rest with
      | ']' :: rest => some (array [], rest)
      | rest => (scanItems? fuel rest).map fun r => (array r.1, r.2)
    | '\x7b' :: rest =>
      match skipSpace rest with
      | '\x7d' :: rest => some (object [], rest)
      | rest => (scanMembers? fuel rest).map fun r => (ofMembers r.1, r.2)
    | 'n' :: _ => (scanWord? ['n', 'u', 'l', 'l'] cs).map fun rest => (null, rest)
    | 't' :: _ => (scanWord? ['t', 'r', 'u', 'e'] cs).map fun rest => (bool true, rest)
    | 'f' :: _ => (scanWord? ['f', 'a', 'l', 's', 'e'] cs).map fun rest => (bool false, rest)
    | cs => (scanNumber? cs).map fun r => (number r.1, r.2)
/-- The items of an array up to its closing bracket, of which there is at least one. -/
def scanItems? : Nat → List Char → Option (List Json × List Char)
  | 0, _ => none
  | fuel + 1, cs => do
    let (j, rest) ← scanValue? fuel cs
    match skipSpace rest with
    | ',' :: rest =>
      let (items, rest) ← scanItems? fuel (skipSpace rest)
      return (j :: items, rest)
    | ']' :: rest => return ([j], rest)
    | _ => none
/-- The members of an object up to its closing brace, of which there is at least one. -/
def scanMembers? : Nat → List Char → Option (Option (List (String × Json)) × List Char)
  | 0, _ => none
  | fuel + 1, cs =>
    match cs with
    | '"' :: rest => do
      let (name, rest) ← scanName? rest
      match skipSpace rest with
      | ':' :: rest =>
        let (j, rest) ← scanValue? fuel (skipSpace rest)
        match skipSpace rest with
        | ',' :: rest =>
          let (members, rest) ← scanMembers? fuel (skipSpace rest)
          return (withMember name j members, rest)
        | '\x7d' :: rest => return (withMember name j (some []), rest)
        | _ => none
      | _ => none
    | _ => none
end

/-- The value of a text.  Each step down takes a character, so the text's length bounds them. -/
def parse? (text : String) : Option Json :=
  let cs := skipSpace text.toList
  match scanValue? (2 * cs.length + 1) cs with
  | some (j, rest) => if (skipSpace rest).isEmpty then some j else none
  | none => none

end Json
end TokenLaunch
