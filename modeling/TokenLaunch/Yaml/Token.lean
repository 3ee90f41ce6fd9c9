/-
# Tokens of a YAML text

A YAML text is read in two steps.  The first makes a list of tokens of it, in which indentation has
become explicit: every block has a token where it starts and one where it ends.  Whether something
is the key of a mapping shows only at the colon behind it; until then its place in the list is kept
open.
-/
import TokenLaunch.Yaml.Scalar

namespace TokenLaunch
namespace Yaml

/-- A token. -/
inductive Token
  | version (major minor : Nat)
  /-- A directive that a tag handle stands for a text. -/
  | tagHandle (handle stem : String)
  | documentStart
  | documentEnd
  | blockSequenceStart
  | blockMappingStart
  | blockEnd
  | flowSequenceStart
  | flowSequenceEnd
  | flowMappingStart
  | flowMappingEnd
  | blockEntry
  | flowEntry
  | key
  | value
  | alias (name : String)
  | anchor (name : String)
  /-- A tag: a handle, empty for a tag that is written out, and what follows it. -/
  | tag (handle suffix : String)
  | scalar (style : Style) (text : String)
deriving DecidableEq

/-- An item of the list of tokens while it is made. -/
inductive Piece
  | token (t : Token)
  /-- A place that may turn out to be in front of a key. -/
  | place (number : Nat)

/-- Something that turns out to be a key if a colon follows it soon enough. -/
structure Candidate where
  /-- The number of its place. -/
  number : Nat
  /-- Whether it can be nothing but a key. -/
  required : Bool
  start : Cursor

/-- How far a text has been read. -/
structure Lexer where
  cursor : Cursor
  /-- What has been read, latest first. -/
  pieces : List Piece := []
  /-- How many places there are. -/
  places : Nat := 0
  /-- The places that are in front of keys, and the tokens that belong there. -/
  keys : List (Nat × List Token) := []
  /-- The columns of the blocks that are open, innermost first. -/
  indents : List Nat := []
  /-- The candidate of the block and of each bracket that is open, innermost first. -/
  candidates : List (Option Candidate) := [none]
  /-- Whether a key may start here. -/
  keyAllowed : Bool := true

namespace Lexer

/-! ## Blocks and brackets -/

/-- Whether a bracket is open. -/
def inFlow (l : Lexer) : Bool := decide (1 < l.candidates.length)

/-- Add a token. -/
def push (l : Lexer) (t : Token) : Lexer :=
  { l with pieces := .token t :: l.pieces }

/-- Whether a column is to the right of the innermost block. -/
def isDeeper (l : Lexer) (column : Nat) : Bool :=
  l.indents.head?.all fun indent => decide (indent < column)

/-- End the blocks that a column is to the left of; without a column, all of them. -/
def unroll (l : Lexer) (column : Option Nat) : Lexer :=
  if l.inFlow then l
  else
    let stays (indent : Nat) : Bool := column.any fun c => decide (indent ≤ c)
    let ended := l.indents.takeWhile fun indent => !stays indent
    { l with
      pieces := ended.map (fun _ => .token .blockEnd) ++ l.pieces
      indents := l.indents.drop ended.length }

/-! ## Keys -/

/-- Give up the innermost candidate; one that can be nothing but a key may not be given up. -/
def dropCandidate (l : Lexer) : Option Lexer :=
  match l.candidates with
  | some c :: rest => if c.required then none else some { l with candidates := none :: rest }
  | _ => some l

/-- Make what starts here a candidate if a key may start here. -/
def saveCandidate (l : Lexer) : Option Lexer :=
  if l.keyAllowed then do
    let l ← l.dropCandidate
    let required := !l.inFlow && l.indents.head? == some l.cursor.column
    some { l with
      pieces := .place l.places :: l.pieces
      places := l.places + 1
      candidates := some ⟨l.places, required, l.cursor⟩ :: l.candidates.tail }
  else some l

/-- How many characters a key may have. -/
def longestKey : Nat := 1024

/-- Give up the candidates that ended on an earlier line or are too long for a key. -/
def dropStale (l : Lexer) : Option Lexer := do
  let isStale (c : Candidate) : Bool :=
    decide (c.start.line < l.cursor.line) || decide (c.start.index + longestKey < l.cursor.index)
  if l.candidates.any fun c => c.any fun c => isStale c && c.required then none
  else some { l with candidates := l.candidates.map fun c => c.filter fun c => !isStale c }

/-! ## Single tokens -/

/-- A token of one or more characters. -/
def mark (l : Lexer) (n : Nat) (t : Token) : Lexer :=
  { l.push t with cursor := l.cursor.skip n }

/-- A token that starts or ends a document. -/
def documentMark (l : Lexer) (t : Token) : Option Lexer := do
  let l ← (l.unroll none).dropCandidate
  some ({ l with keyAllowed := false }.mark 3 t)

/-- An opening bracket. -/
def openFlow (l : Lexer) (t : Token) : Option Lexer := do
  let l ← l.saveCandidate
  some ({ l with candidates := none :: l.candidates, keyAllowed := true }.mark 1 t)

/-- A closing bracket. -/
def closeFlow (l : Lexer) (t : Token) : Option Lexer := do
  let l ← l.dropCandidate
  let candidates := if l.inFlow then l.candidates.tail else l.candidates
  some ({ l with candidates := candidates, keyAllowed := false }.mark 1 t)

/-- Start a block at the current column, unless it is open. -/
def startBlock (l : Lexer) (t : Token) : Lexer :=
  if l.isDeeper l.cursor.column then
    { l.push t with indents := l.cursor.column :: l.indents }
  else l

/-- A dash in front of an item. -/
def blockEntry (l : Lexer) : Option Lexer :=
  if l.inFlow then do
    let l ← l.dropCandidate
    some ({ l with keyAllowed := true }.mark 1 .blockEntry)
  else if l.keyAllowed then do
    let l ← (l.startBlock .blockSequenceStart).dropCandidate
    some ({ l with keyAllowed := true }.mark 1 .blockEntry)
  else none

/-- A question mark in front of a key. -/
def explicitKey (l : Lexer) : Option Lexer :=
  if !l.inFlow && !l.keyAllowed then none
  else do
    let l ← (if l.inFlow then l else l.startBlock .blockMappingStart).dropCandidate
    some ({ l with keyAllowed := !l.inFlow }.mark 1 .key)

/-- A colon in front of a value.  If there is a candidate, it is the key; the mapping starts in
front of it unless it is open. -/
def value (l : Lexer) : Option Lexer :=
  match l.candidates with
  | some c :: rest =>
    let starts := !l.inFlow && l.isDeeper c.start.column
    let l := { l with
      keys := (c.number, if starts then [.blockMappingStart, .key] else [.key]) :: l.keys
      indents := if starts then c.start.column :: l.indents else l.indents
      candidates := none :: rest
      keyAllowed := false }
    some (l.mark 1 .value)
  | _ =>
    if l.inFlow then some ({ l with keyAllowed := false }.mark 1 .value)
    else if l.keyAllowed then
      some ({ l.startBlock .blockMappingStart with keyAllowed := true }.mark 1 .value)
    else none

/-! ## Names -/

/-- Whether a character can be part of a name. -/
def isNameChar (c : Char) : Bool := c.isAlphanum || c == '_' || c == '-'

/-- Whether a name may end here. -/
def endsName (cs : List Char) : Bool :=
  endsWord cs || cs.head?.any fun c => "?:,]\x7d%@`".toList.contains c

/-- An anchor or an alias. -/
def name (l : Lexer) (t : String → Token) : Option Lexer := do
  let l ← l.saveCandidate
  let word := (l.cursor.skip 1).rest.takeWhile isNameChar
  let c := l.cursor.skip (1 + word.length)
  if word.isEmpty || !endsName c.rest then none
  else some { l.push (t (String.ofList word)) with cursor := c, keyAllowed := false }

/-- Whether a character can be part of a tag. -/
def isTagChar (c : Char) : Bool :=
  isNameChar c || ";/?:@&=+$.!~*'()%".toList.contains c

/-- The bytes of percent escapes at the start of a text, and how many characters they take. -/
def percentBytes? : List Char → Option (List UInt8 × Nat)
  | '%' :: a :: b :: rest => do
    let bytes ← Hex.toBytes? [a, b]
    let (more, n) ← percentBytes? rest
    some (bytes ++ more, n + 3)
  | '%' :: _ => none
  | _ => some ([], 0)

/-- The text that a part of a tag stands for, in which percent escapes stand for bytes. -/
def tagText? : Nat → List Char → Option (List Char)
  | 0, _ => none
  | _ + 1, [] => some []
  | fuel + 1, c :: rest =>
    if c == '%' then do
      let (bytes, n) ← percentBytes? (c :: rest)
      let s ← String.fromUTF8? (ByteArray.mk bytes.toArray)
      (tagText? fuel ((c :: rest).drop n)).map (s.toList ++ ·)
    else (tagText? fuel rest).map (c :: ·)

/-- Whether characters are all part of a tag, and what they stand for. -/
def tagPart? (cs : List Char) : Option String :=
  (tagText? (cs.length + 1) cs).map String.ofList

/-- The handle and the suffix of a tag after its exclamation mark, and how many characters they
take. -/
def tagParts? (cs : List Char) : Option (String × String × Nat) :=
  match cs with
  | '<' :: rest => do
    let uri := rest.takeWhile fun c => isTagChar c || c == ',' || c == '[' || c == ']'
    let s ← tagPart? uri
    if uri.isEmpty || (rest.drop uri.length).head? != some '>' then none
    else some ("", s, uri.length + 2)
  | _ =>
    let word := cs.takeWhile isNameChar
    if (cs.drop word.length).head? == some '!' then do
      let rest := cs.drop (word.length + 1)
      let suffix := rest.takeWhile isTagChar
      let s ← tagPart? suffix
      if suffix.isEmpty then none
      else some ("!" ++ String.ofList word ++ "!", s, word.length + 1 + suffix.length)
    else do
      let suffix := cs.takeWhile isTagChar
      let s ← tagPart? suffix
      some (if suffix.isEmpty then ("", "!", 0) else ("!", s, suffix.length))

/-- A tag. -/
def tag (l : Lexer) : Option Lexer := do
  let l ← l.saveCandidate
  let (handle, suffix, n) ← tagParts? (l.cursor.skip 1).rest
  let c := l.cursor.skip (n + 1)
  if endsWord c.rest || (l.inFlow && c.head? == some ',') then
    some { l.push (.tag handle suffix) with cursor := c, keyAllowed := false }
  else none

/-! ## Directives -/

/-- The number of a version, and how many digits it has. -/
def versionNumber? (cs : List Char) : Option (Nat × Nat) :=
  let ds := cs.takeWhile Char.isDigit
  if ds.isEmpty || decide (9 < ds.length) then none
  else some (Nat.ofDigitChars 10 ds 0, ds.length)

/-- The handle of a tag directive. -/
def handle? (cs : List Char) : Option (String × Nat) :=
  match cs with
  | '!' :: rest =>
    let word := rest.takeWhile isNameChar
    let named := '!' :: word
    if (rest.drop word.length).head? == some '!' then
      some (String.ofList (named ++ ['!']), named.length + 1)
    else if word.isEmpty then some ("!", 1)
    else none
  | _ => none

/-- The token of a directive of a name, and where it ends. -/
def directiveToken? (word : String) (c : Cursor) : Option (Token × Cursor) :=
  if word = "YAML" then do
    let c := c.skipWhile isBlank
    let (major, n) ← versionNumber? c.rest
    let c := c.skip n
    if c.head? != some '.' then none
    else do
      let (minor, n) ← versionNumber? (c.skip 1).rest
      some (.version major minor, c.skip (n + 1))
  else if word = "TAG" then do
    let c := c.skipWhile isBlank
    let (handle, n) ← handle? c.rest
    let c := c.skip n
    if !c.sees isBlank then none
    else do
      let c := c.skipWhile isBlank
      let stem := c.rest.takeWhile fun ch => isTagChar ch || ch == ',' || ch == '[' || ch == ']'
      let s ← tagPart? stem
      let c := c.skip stem.length
      if stem.isEmpty || !endsWord c.rest then none else some (.tagHandle handle s, c)
  else none

/-- A directive, which takes a line of its own. -/
def directive (l : Lexer) : Option Lexer := do
  let l ← (l.unroll none).dropCandidate
  let c := l.cursor.skip 1
  let word := c.rest.takeWhile isNameChar
  let c := c.skip word.length
  if word.isEmpty || !endsWord c.rest then none
  else do
    let (t, c) ← directiveToken? (String.ofList word) c
    let c := c.skipWhile isBlank
    let c := if c.head? == some '#' then c.skipWhile (fun ch => !isBreak ch) else c
    if c.rest.isEmpty then some { l.push t with cursor := c, keyAllowed := false }
    else if c.sees isBreak then some { l.push t with cursor := c.skipBreak, keyAllowed := false }
    else none

/-! ## Scalars -/

/-- A block scalar. -/
def blockScalar (l : Lexer) (folds : Bool) : Option Lexer := do
  let l ← l.dropCandidate
  let (text, c) ← block? folds l.indents.head? (l.cursor.skip 1)
  let t := Token.scalar (if folds then .folded else .literal) (String.ofList text)
  some { l.push t with cursor := c, keyAllowed := true }

/-- A quoted scalar. -/
def quotedScalar (l : Lexer) (double : Bool) : Option Lexer := do
  let l ← l.saveCandidate
  let c := l.cursor.skip 1
  let (text, c) ← quoted? double (c.rest.length + 1) c []
  let t := Token.scalar (if double then .doubleQuoted else .singleQuoted) (String.ofList text)
  some { l.push t with cursor := c, keyAllowed := false }

/-- A plain scalar. -/
def plainScalar (l : Lexer) : Option Lexer := do
  let l ← l.saveCandidate
  let indent := (l.indents.head?.map (· + 1)).getD 0
  let (text, c, broken) ← plain? l.inFlow indent (l.cursor.rest.length + 1) l.cursor [] {}
  some { l.push (.scalar .plain (String.ofList text)) with cursor := c, keyAllowed := broken }

/-- Whether a plain scalar can start here. -/
def startsPlain (inFlow : Bool) (cs : List Char) : Bool :=
  match cs with
  | [] => false
  | c :: rest =>
    (!endsWord cs && !"-?:,[]\x7b\x7d#&*!|>'\"%@`".toList.contains c) ||
      (c == '-' && !rest.head?.any isBlank) ||
      (!inFlow && (c == '?' || c == ':') && !endsWord rest)

/-! ## All tokens -/

/-- Go past white space and comments to where the next token starts. -/
def toNextToken : Nat → Lexer → Lexer
  | 0, l => l
  | fuel + 1, l =>
    let tabs := l.inFlow || !l.keyAllowed
    let c := l.cursor.skipWhile fun ch => ch == ' ' || (tabs && ch == '\t')
    let c := if c.head? == some '#' then c.skipWhile (fun ch => !isBreak ch) else c
    if c.sees isBreak then
      toNextToken fuel { l with cursor := c.skipBreak, keyAllowed := !l.inFlow || l.keyAllowed }
    else { l with cursor := c }

/-- The next token; there is one. -/
def next (l : Lexer) : Option Lexer :=
  match l.cursor.rest with
  | [] => none
  | ch :: rest =>
    if l.cursor.column == 0 && ch == '%' then l.directive
    else if l.cursor.seesMark '-' then l.documentMark .documentStart
    else if l.cursor.seesMark '.' then l.documentMark .documentEnd
    else if ch == '[' then l.openFlow .flowSequenceStart
    else if ch == '{' then l.openFlow .flowMappingStart
    else if ch == ']' then l.closeFlow .flowSequenceEnd
    else if ch == '}' then l.closeFlow .flowMappingEnd
    else if ch == ',' then do
      let l ← l.dropCandidate
      some ({ l with keyAllowed := true }.mark 1 .flowEntry)
    else if ch == '-' && endsWord rest then l.blockEntry
    else if ch == '?' && (l.inFlow || endsWord rest) then l.explicitKey
    else if ch == ':' && (l.inFlow || endsWord rest) then l.value
    else if ch == '*' then l.name .alias
    else if ch == '&' then l.name .anchor
    else if ch == '!' then l.tag
    else if ch == '|' && !l.inFlow then l.blockScalar false
    else if ch == '>' && !l.inFlow then l.blockScalar true
    else if ch == '\'' then l.quotedScalar false
    else if ch == '"' then l.quotedScalar true
    else if startsPlain l.inFlow (ch :: rest) then l.plainScalar
    else none

/-- Read to the end of the text. -/
def run : Nat → Lexer → Option Lexer
  | 0, _ => none
  | fuel + 1, l => do
    let l ← (toNextToken (l.cursor.rest.length + 1) l).dropStale
    if l.cursor.rest.isEmpty then (l.unroll none).dropCandidate
    else do
      let l ← (l.unroll (some l.cursor.column)).next
      run fuel l

/-- The tokens of what has been read. -/
def tokens (l : Lexer) : List Token :=
  l.pieces.reverse.flatMap fun
    | .token t => [t]
    | .place n => (l.keys.lookup n).getD []

end Lexer

/-- The tokens of a text.  A mark of the byte order in front does not count. -/
def tokens? (s : String) : Option (List Token) :=
  let cs := match s.toList with
    | '\uFEFF' :: rest => rest
    | cs => cs
  if cs.all isAllowed then
    (Lexer.run (cs.length + 1) { cursor := { rest := cs } }).map Lexer.tokens
  else none

end Yaml
end TokenLaunch
