/-
# Code and literals

A scanner goes through a source text from left to right.  A quote opens a string literal; inside
a literal a backslash takes the next character with it, and the next quote that is not taken
closes the literal.  What the scanner leaves of a text, an empty literal in place of each literal,
is the text's code.

The main statement is `code_textChars`: in lines whose code pieces hold no quote, the scanner
finds exactly the literal pieces, whatever their values are.  So the code of such lines is what
they say when every literal piece is emptied (`Line.blank`).
-/
import Mathlib.Tactic
import TokenLaunch.Solidity.SourceFile

namespace TokenLaunch
namespace Solidity

/-- What is asked of the characters of a text is decided by going through the text; the instance
for finite types would go through all characters there are. -/
instance (priority := high) decidableAllOfText (cs : List Char) (p : Char → Prop)
    [DecidablePred p] : Decidable (∀ c ∈ cs, p c) :=
  List.decidableBAll p cs

instance (priority := high) decidableAllOfChar (c? : Option Char) (p : Char → Prop)
    [DecidablePred p] : Decidable (∀ c ∈ c?, p c) :=
  decidable_of_iff (∀ c ∈ c?.toList, p c) (by simp)

/-- The characters of a text that is spelled out.  A string literal spells itself out by `rfl`, and
what is asked of its characters need not decode it then. -/
lemma toList_spelled {text : String} {cs : List Char} (h : text = String.ofList cs) :
    text.toList = cs := by
  rw [h, String.toList_ofList]

/-- Where the scanner stands. -/
inductive Scan
  /-- Outside literals. -/
  | outside
  /-- In a literal. -/
  | inside
  /-- In a literal, right after a backslash. -/
  | escaped
deriving DecidableEq

namespace Scan

/-- The state after one more character. -/
def next : Scan → Char → Scan
  | outside, c => if c = '"' then inside else outside
  | inside, c => if c = '"' then outside else if c = '\\' then escaped else inside
  | escaped, _ => inside

/-- What stays of a character: all of the code, and of a literal its quotes. -/
def keep : Scan → Char → List Char
  | outside, c => [c]
  | inside, c => if c = '"' then [c] else []
  | escaped, _ => []

/-- The state after a text. -/
def after (s : Scan) (cs : List Char) : Scan :=
  cs.foldl next s

/-- What stays of a text. -/
def code : Scan → List Char → List Char
  | _, [] => []
  | s, c :: cs => s.keep c ++ code (s.next c) cs

@[simp] lemma after_nil (s : Scan) : s.after [] = s := rfl

@[simp] lemma after_cons (s : Scan) (c : Char) (cs : List Char) :
    s.after (c :: cs) = (s.next c).after cs := rfl

@[simp] lemma code_nil (s : Scan) : s.code [] = [] := by
  cases s <;> rfl

lemma code_cons (s : Scan) (c : Char) (cs : List Char) :
    s.code (c :: cs) = s.keep c ++ (s.next c).code cs := by
  cases s <;> rfl

lemma after_append (s : Scan) (a b : List Char) : s.after (a ++ b) = (s.after a).after b := by
  simp [after]

lemma code_append (s : Scan) (a b : List Char) :
    s.code (a ++ b) = s.code a ++ (s.after a).code b := by
  induction a generalizing s with
  | nil => simp
  | cons c a ih => rw [List.cons_append, code_cons, code_cons, after_cons, ih, List.append_assoc]

/-! ## Code pieces and literals -/

/-- The scanner keeps a text without quotes as it stands. -/
lemma code_of_not_mem {cs : List Char} (h : '"' ∉ cs) :
    outside.after cs = outside ∧ outside.code cs = cs := by
  induction cs with
  | nil => exact ⟨rfl, rfl⟩
  | cons c cs ih =>
    have hc : c ≠ '"' := (List.ne_of_not_mem_cons h).symm
    have hnext : outside.next c = outside := by simp [next, hc]
    obtain ⟨hafter, hcode⟩ := ih (List.not_mem_of_not_mem_cons h)
    exact ⟨by rw [after_cons, hnext, hafter], by rw [code_cons, hnext, hcode]; rfl⟩

/-- What a literal writes for a character neither closes the literal nor is kept. -/
lemma code_escape (c : Char) :
    inside.after (Literal.escape c) = inside ∧ inside.code (Literal.escape c) = [] := by
  unfold Literal.escape
  split_ifs with hquote hslash hfeed hreturn htab hcontrol
  -- the character stands behind a backslash, or is left out
  · exact ⟨rfl, rfl⟩
  · exact ⟨rfl, rfl⟩
  · exact ⟨rfl, rfl⟩
  · exact ⟨rfl, rfl⟩
  · exact ⟨rfl, rfl⟩
  · exact ⟨rfl, rfl⟩
  -- or it stands as it is, and is neither a quote nor a backslash
  · simp [next, code, keep, hquote, hslash]

lemma code_body (cs : List Char) :
    inside.after (Literal.body cs) = inside ∧ inside.code (Literal.body cs) = [] := by
  induction cs with
  | nil => exact ⟨rfl, rfl⟩
  | cons c cs ih =>
    obtain ⟨hafter, hcode⟩ := code_escape c
    rw [Literal.body_cons, after_append, code_append, hafter, hcode]
    exact ⟨ih.1, ih.2⟩

/-- Whatever its value is, a literal is left as the empty literal. -/
lemma code_quoteChars (cs : List Char) :
    outside.after (Literal.quoteChars cs) = outside ∧
      outside.code (Literal.quoteChars cs) = Literal.quoteChars [] := by
  obtain ⟨hafter, hcode⟩ := code_body cs
  have hopen : outside.next '"' = inside := rfl
  have hclose : inside.next '"' = outside := rfl
  constructor
  · rw [Literal.quoteChars, after_cons, hopen, after_append, hafter, after_cons, hclose, after_nil]
  · rw [Literal.quoteChars, code_cons, hopen, code_append, hafter, hcode]
    rfl

end Scan

/-! ## Lines -/

/-- The piece with its literal emptied. -/
def Piece.blank : Piece → Piece
  | code text => code text
  | literal _ => literal ""

/-- A piece whose code, if it is code, has no quote. -/
def Piece.Unquoted : Piece → Prop
  | code text => '"' ∉ text.toList
  | literal _ => True

instance : DecidablePred Piece.Unquoted
  | .code text => inferInstanceAs (Decidable ('"' ∉ text.toList))
  | .literal _ => inferInstanceAs (Decidable True)

namespace Line

/-- The line with its literals emptied. -/
def blank (line : Line) : Line :=
  line.map Piece.blank

/-- A line that has quotes only around its literals. -/
def Unquoted (line : Line) : Prop :=
  ∀ p ∈ line, p.Unquoted

instance (line : Line) : Decidable line.Unquoted :=
  inferInstanceAs (Decidable (∀ p ∈ line, p.Unquoted))

@[simp] lemma blank_nil : blank [] = [] := rfl

@[simp] lemma blank_cons (p : Piece) (line : Line) :
    blank (p :: line) = p.blank :: blank line := rfl

@[simp] lemma blank_append (a b : Line) : blank (a ++ b) = blank a ++ blank b := by
  simp [blank]

@[simp] lemma unquoted_nil : Unquoted [] := by
  simp [Unquoted]

@[simp] lemma unquoted_cons {p : Piece} {line : Line} :
    Unquoted (p :: line) ↔ p.Unquoted ∧ Unquoted line := by
  simp [Unquoted]

@[simp] lemma unquoted_append {a b : Line} : Unquoted (a ++ b) ↔ Unquoted a ∧ Unquoted b := by
  simp [Unquoted, or_imp, forall_and]

@[simp] lemma blank_blank (line : Line) : line.blank.blank = line.blank := by
  induction line with
  | nil => rfl
  | cons p line ih =>
    rw [blank_cons, blank_cons, ih]
    cases p <;> rfl

@[simp] lemma unquoted_blank {line : Line} : line.blank.Unquoted ↔ line.Unquoted := by
  induction line with
  | nil => rfl
  | cons p line ih =>
    rw [blank_cons, unquoted_cons, unquoted_cons, ih]
    cases p <;> rfl

lemma code_piece {p : Piece} (h : p.Unquoted) :
    Scan.outside.after p.chars = .outside ∧ Scan.outside.code p.chars = p.blank.chars := by
  cases p with
  | code text => exact Scan.code_of_not_mem h
  | literal value => exact Scan.code_quoteChars value.toList

/-- The code of a line is the line with its literals emptied. -/
lemma code_chars {line : Line} (h : line.Unquoted) :
    Scan.outside.after line.chars = .outside ∧
      Scan.outside.code line.chars = line.blank.chars := by
  induction line with
  | nil => exact ⟨rfl, rfl⟩
  | cons p line ih =>
    obtain ⟨hp, hline⟩ := unquoted_cons.mp h
    obtain ⟨hafter, hcode⟩ := code_piece hp
    rw [chars_cons, Scan.after_append, Scan.code_append, hafter, hcode]
    exact ⟨(ih hline).1, by rw [(ih hline).2, blank_cons, chars_cons]⟩

/-- **The code of lines does not depend on the values of their literals.** -/
theorem code_textChars {lines : List Line} (h : ∀ line ∈ lines, line.Unquoted) :
    Scan.outside.code (textChars lines) = textChars (lines.map blank) := by
  induction lines with
  | nil => rfl
  | cons line lines ih =>
    obtain ⟨hline, hlines⟩ := List.forall_mem_cons.mp h
    obtain ⟨hafter, hcode⟩ := code_chars hline
    have hfeed : Scan.outside.next '\n' = .outside := rfl
    rw [textChars_cons, Scan.code_append, hafter, hcode, Scan.code_cons, hfeed, ih hlines,
      List.map_cons, textChars_cons]
    rfl

end Line

/-- What a source text says outside its literals. -/
def codeOf (text : String) : String :=
  String.ofList (Scan.outside.code text.toList)

end Solidity
end TokenLaunch
