/-
# Scalars in a YAML text

A scalar is written plain, in quotes, or as an indented block.  In every style a break inside the
text can stand for something else than itself: alone it is folded to a space, and several breaks
lose the first of them.
-/
import TokenLaunch.Text.Hex
import TokenLaunch.Yaml.Cursor

namespace TokenLaunch
namespace Yaml

/-- How a scalar is written. -/
inductive Style
  | plain
  | singleQuoted
  | doubleQuoted
  | literal
  | folded
deriving DecidableEq

/-! ## Gaps

A gap is the white space between two words of a scalar. -/

/-- The white space between two words. -/
structure Gap where
  /-- The blanks in front of the first break. -/
  blanks : List Char := []
  /-- The breaks, each by what it stands for. -/
  breaks : List (List Char) := []
  /-- Whether the first break is escaped, so that it stands for nothing. -/
  escaped : Bool := false

namespace Gap

/-- Whether the gap goes over the end of a line. -/
def isBroken (g : Gap) : Bool :=
  g.escaped || !g.breaks.isEmpty

/-- What a gap stands for. -/
def folded (g : Gap) : List Char :=
  if g.escaped then g.breaks.flatten
  else
    match g.breaks with
    | [] => g.blanks
    | [['\n']] => [' ']
    | ['\n'] :: rest => rest.flatten
    | breaks => breaks.flatten

/-- The gap that starts here, and where it ends.  If `indent` is given, a tab may not stand left of
that column at the start of a line. -/
def scan? (indent : Option Nat) : Nat → Cursor → Gap → Option (Gap × Cursor)
  | 0, _, _ => none
  | fuel + 1, c, g =>
    match c.rest with
    | ch :: _ =>
      if isBlank ch then
        if g.isBroken && ch == '\t' && indent.any (fun column => decide (c.column < column)) then
          none
        else
          scan? indent fuel (c.skip 1)
            (if g.isBroken then g else { g with blanks := g.blanks ++ [ch] })
      else if isBreak ch then
        scan? indent fuel c.skipBreak { g with breaks := g.breaks ++ [c.breakText] }
      else some (g, c)
    | [] => some (g, c)

end Gap

/-- A gap that starts here, with enough fuel for the rest of the text. -/
def Cursor.gap? (c : Cursor) (indent : Option Nat) (g : Gap) : Option (Gap × Cursor) :=
  Gap.scan? indent (c.rest.length + 1) c g

/-! ## Plain scalars -/

/-- Whether a character ends a plain scalar inside brackets. -/
def isFlowMark (c : Char) : Bool :=
  c == ',' || c == '[' || c == ']' || c == '{' || c == '}'

/-- Whether the next character ends a plain scalar. -/
def endsPlain (inFlow : Bool) : List Char → Bool
  | ':' :: rest => endsWord rest
  | c :: _ => inFlow && isFlowMark c
  | [] => true

/-- Whether a colon stands where it can neither end a plain scalar nor be part of one. -/
def isStrayColon (inFlow : Bool) : List Char → Bool
  | ':' :: c :: _ => inFlow && (isFlowMark c || c == '?')
  | _ => false

/-- One word of a plain scalar, and where it ends. -/
def plainWord? (inFlow : Bool) : List Char → Option (List Char)
  | [] => some []
  | c :: rest =>
    if endsWord (c :: rest) then some []
    else if isStrayColon inFlow (c :: rest) then none
    else if endsPlain inFlow (c :: rest) then some []
    else (plainWord? inFlow rest).map (c :: ·)

/-- A plain scalar: its text, where it ends, and whether it ends after the end of a line.  The
lines that continue it are indented to the column `indent` at least.  What has been read of the
text is given backwards. -/
def plain? (inFlow : Bool) (indent : Nat) :
    Nat → Cursor → List Char → Gap → Option (List Char × Cursor × Bool)
  | 0, _, _, _ => none
  | fuel + 1, c, text, g =>
    if c.seesDocumentMark || c.head? == some '#' then some (text.reverse, c, g.isBroken)
    else do
      let word ← plainWord? inFlow c.rest
      let text := if word.isEmpty then text else (g.folded ++ word).reverse ++ text
      let c := c.skip word.length
      let g := if word.isEmpty then g else {}
      if c.sees (fun ch => isBlank ch || isBreak ch) then
        let (g, c) ← c.gap? (some indent) g
        if !inFlow && decide (c.column < indent) then some (text.reverse, c, g.isBroken)
        else plain? inFlow indent fuel c text g
      else some (text.reverse, c, g.isBroken)

/-! ## Quoted scalars -/

/-- What a character after a backslash stands for. -/
def escapes : List (Char × Char) :=
  [('0', '\x00'), ('a', '\x07'), ('b', '\x08'), ('t', '\t'), ('\t', '\t'), ('n', '\n'),
    ('v', '\x0b'), ('f', '\x0c'), ('r', '\r'), ('e', '\x1b'), (' ', ' '), ('"', '"'), ('/', '/'),
    ('\\', '\\'), ('N', '\u0085'), ('_', '\u00A0'), ('L', '\u2028'), ('P', '\u2029')]

/-- How many hexadecimal digits follow a letter after a backslash. -/
def escapeDigits : List (Char × Nat) := [('x', 2), ('u', 4), ('U', 8)]

/-- The character of an escape, and how many characters the escape has after the backslash. -/
def escape? : List Char → Option (Char × Nat)
  | [] => none
  | c :: rest =>
    match escapes.lookup c with
    | some x => some (x, 1)
    | none => do
      let n ← escapeDigits.lookup c
      let digits := rest.take n
      let code ← Hex.toNat? digits
      if digits.length = n ∧ code.isValidChar then some (Char.ofNat code, n + 1) else none

/-- The rest of a quoted scalar after its opening quote: its text, and where it ends.  What has been
read of the text is given backwards. -/
def quoted? (double : Bool) : Nat → Cursor → List Char → Option (List Char × Cursor)
  | 0, _, _ => none
  | fuel + 1, c, text =>
    if c.seesDocumentMark then none
    else
      match c.rest with
      | [] => none
      | ch :: rest =>
        if isBlank ch || isBreak ch then do
          let (g, c) ← c.gap? none {}
          quoted? double fuel c (g.folded.reverse ++ text)
        else if double then
          if ch == '"' then some (text.reverse, c.skip 1)
          else if ch == '\\' then
            if rest.head?.any isBreak then do
              let (g, c) ← (c.skip 1).skipBreak.gap? none { escaped := true }
              quoted? double fuel c (g.folded.reverse ++ text)
            else do
              let (x, n) ← escape? rest
              quoted? double fuel (c.skip (n + 1)) (x :: text)
          else quoted? double fuel (c.skip 1) (ch :: text)
        else if ch == '\'' then
          if rest.head? == some '\'' then quoted? double fuel (c.skip 2) (ch :: text)
          else some (text.reverse, c.skip 1)
        else quoted? double fuel (c.skip 1) (ch :: text)

/-! ## Block scalars -/

/-- What becomes of the breaks at the end of a block. -/
inductive Chomping
  | strip
  | clip
  | keep
deriving DecidableEq

/-- The marks behind the bar or the angle of a block: chomping and indentation, in either order. -/
structure BlockHeader where
  chomping : Option Chomping := none
  /-- How many columns the block is indented more than what it belongs to. -/
  indent : Option Nat := none

/-- The marks of a block, and where they end. -/
def BlockHeader.scan? (c : Cursor) : Option (BlockHeader × Cursor) :=
  let chomping? (c : Cursor) : Option Chomping :=
    match c.head? with
    | some '+' => some .keep
    | some '-' => some .strip
    | _ => none
  let digit? (c : Cursor) : Option Nat :=
    c.head?.bind fun ch => if ch.isDigit then some (ch.toNat - '0'.toNat) else none
  let found : BlockHeader × Cursor :=
    match chomping? c, digit? c with
    | some x, _ => (⟨some x, digit? (c.skip 1)⟩, c.skip (if (digit? (c.skip 1)).isSome then 2 else 1))
    | none, some n =>
      (⟨chomping? (c.skip 1), some n⟩, c.skip (if (chomping? (c.skip 1)).isSome then 2 else 1))
    | none, none => ({}, c)
  if found.1.indent = some 0 then none else some found

/-- The empty lines in front of a line of a block: their breaks, where the line starts, and the
widest indentation on the way.  Without an indentation to go by, all spaces are skipped. -/
def blankLines? (indent : Option Nat) :
    Nat → Cursor → Nat → List (List Char) → Option (List (List Char) × Cursor × Nat)
  | 0, _, _, _ => none
  | fuel + 1, c, widest, breaks =>
    let spaces := (c.rest.takeWhile fun ch => ch == ' ').length
    let c := c.skip (match indent with
      | some n => min spaces (n - c.column)
      | none => spaces)
    let widest := max widest c.column
    if c.head? == some '\t' && indent.all (fun n => decide (c.column < n)) then none
    else if c.sees isBreak then
      blankLines? indent fuel c.skipBreak widest (breaks ++ [c.breakText])
    else some (breaks, c, widest)

/-- The lines of a block from here on.  `lead` is the break of the line before, `breaks` are those
of the empty lines after it, and `afterBlank` says whether the line before started with a blank. -/
def blockLines? (folds : Bool) (indent : Nat) (chomping : Chomping) :
    Nat → Cursor → List Char → List Char → List (List Char) → (afterBlank : Bool) →
      Option (List Char × Cursor)
  | 0, _, _, _, _, _ => none
  | fuel + 1, c, text, lead, breaks, afterBlank =>
    if c.column == indent && !c.rest.isEmpty then do
      let startsBlank := c.sees isBlank
      let joint :=
        if folds && lead == ['\n'] && !afterBlank && !startsBlank then
          if breaks.isEmpty then [' '] else []
        else lead
      let line := c.rest.takeWhile fun ch => !isBreak ch
      let text := text ++ joint ++ breaks.flatten ++ line
      let c := c.skip line.length
      if c.rest.isEmpty then some (text, c)
      else do
        let lead := c.breakText
        let (breaks, c, _) ← blankLines? (some indent) (c.rest.length + 1) c.skipBreak 0 []
        blockLines? folds indent chomping fuel c text lead breaks startsBlank
    else
      some (text ++ (if chomping = .strip then [] else lead) ++
        (if chomping = .keep then breaks.flatten else []), c)

/-- A block scalar after its bar or angle, inside something indented by `outer`: its text, and
where it ends. -/
def block? (folds : Bool) (outer : Option Nat) (c : Cursor) : Option (List Char × Cursor) := do
  let (header, c) ← BlockHeader.scan? c
  let c := c.skipWhile isBlank
  let c := if c.head? == some '#' then c.skipWhile (fun ch => !isBreak ch) else c
  if !c.rest.isEmpty && !c.sees isBreak then none
  else do
    let c := if c.rest.isEmpty then c else c.skipBreak
    let given := header.indent.map fun n => outer.getD 0 + n
    let (breaks, c, widest) ← blankLines? given (c.rest.length + 1) c 0 []
    let indent := given.getD (max widest (max 1 ((outer.map (· + 1)).getD 0)))
    blockLines? folds indent (header.chomping.getD .clip) (c.rest.length + 1) c [] [] breaks false

end Yaml
end TokenLaunch
