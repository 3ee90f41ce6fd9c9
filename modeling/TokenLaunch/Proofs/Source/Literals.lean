/-
# What literals say

A literal is written so that it can be read back: reading stops at the quote that closes the
literal, whatever follows it, and finds the characters that the literal has kept
(`Literal.read_body`).  So a literal tells its value but for the characters that it leaves out
(`Literal.body_eq_body_iff`), no literal is the beginning of another one, and several of them, one
behind the other, are told apart as well (`Literal.map_kept_eq`).

The scanner that leaves of a text what stands outside literals has a counterpart that leaves what
stands inside (`Scan.inner`).  Two texts that are the same have the same literals therefore
(`Line.map_kept_literals`), wherever they stand in the lines and whatever their values are.
-/
import TokenLaunch.Proofs.Source.File

namespace TokenLaunch
namespace Solidity

/-! ## Reading a literal back -/

namespace Literal

/-- The characters of a string that a literal keeps. -/
def kept (value : String) : String :=
  String.ofList (value.toList.filter isKept)

/-- A literal after its opening quote. -/
def written (value : String) : List Char :=
  body value.toList ++ ['"']

/-- What is written for a character is read as that character, or as none. -/
lemma read_escape (c : Char) (rest : List Char) :
    read (escape c ++ rest) = (read rest).map fun r => ([c].filter isKept ++ r.1, r.2) := by
  unfold escape
  split_ifs with hquote hslash hfeed hreturn htab hcontrol
  -- the character stands behind a backslash
  · subst hquote
    rfl
  · subst hslash
    rfl
  · subst hfeed
    rfl
  · subst hreturn
    rfl
  · subst htab
    rfl
  -- or it is left out
  · have hkept : isKept c = false := by
      simp [isKept, hfeed, hreturn, htab, hcontrol]
    simp [hkept]
  -- or it stands as it is
  · have hkept : isKept c = true := by
      simp [isKept, hcontrol]
    simp [read, hslash, hkept]

/-- **A literal is read back**, whatever follows it. -/
theorem read_body (cs rest : List Char) :
    read (body cs ++ '"' :: rest) = some (cs.filter isKept, rest) := by
  induction cs with
  | nil => rfl
  | cons c cs ih =>
    rw [body_cons, List.append_assoc, read_escape, ih, Option.map_some, ← List.filter_append]
    rfl

/-- A literal leaves out the characters that it does not keep, and no others. -/
lemma escape_eq_nil_iff (c : Char) : escape c = [] ↔ isKept c = false := by
  unfold escape isKept
  split_ifs with hquote hslash hfeed hreturn htab hcontrol
  · subst hquote
    decide
  · subst hslash
    decide
  · subst hfeed
    decide
  · subst hreturn
    decide
  · subst htab
    decide
  · simp [hfeed, hreturn, htab, hcontrol]
  · simp [hcontrol]

lemma body_filter_isKept (cs : List Char) : body (cs.filter isKept) = body cs := by
  induction cs with
  | nil => rfl
  | cons c cs ih =>
    cases hkept : isKept c with
    | true => rw [List.filter_cons_of_pos hkept, body_cons, body_cons, ih]
    | false =>
      rw [List.filter_cons_of_neg (by simp [hkept]), body_cons, (escape_eq_nil_iff c).mpr hkept, ih,
        List.nil_append]

/-- **Two strings have the same literal** if and only if the same is kept of them. -/
theorem body_eq_body_iff (a b : List Char) :
    body a = body b ↔ a.filter isKept = b.filter isKept := by
  constructor
  · intro h
    have hread := read_body a []
    rw [h, read_body b []] at hread
    exact (Prod.mk.inj (Option.some.inj hread)).1.symm
  · intro h
    rw [← body_filter_isKept a, h, body_filter_isKept]

lemma read_written (value : String) (rest : List Char) :
    read (written value ++ rest) = some ((kept value).toList, rest) := by
  rw [written, List.append_assoc, List.singleton_append, read_body, kept, String.toList_ofList]

/-- Literals one behind the other are told apart. -/
theorem map_kept_eq {vs ws : List String} (h : vs.flatMap written = ws.flatMap written) :
    vs.map kept = ws.map kept := by
  induction vs generalizing ws with
  | nil =>
    cases ws with
    | nil => rfl
    | cons w ws => simp [written] at h
  | cons v vs ih =>
    cases ws with
    | nil => simp [written] at h
    | cons w ws =>
      rw [List.flatMap_cons, List.flatMap_cons] at h
      -- reading takes the first literal off both texts, and leaves the same rest
      have hread : some ((kept v).toList, vs.flatMap written) =
          some ((kept w).toList, ws.flatMap written) := by
        rw [← read_written, ← read_written, h]
      obtain ⟨hfirst, hrest⟩ := Prod.mk.inj (Option.some.inj hread)
      rw [List.map_cons, List.map_cons, String.toList_injective hfirst, ih hrest]

end Literal

/-! ## The literals of a text -/

namespace Scan

/-- What stays of a character inside literals: all but the quote that opens a literal. -/
def keepInner : Scan → Char → List Char
  | outside, _ => []
  | inside, c => [c]
  | escaped, c => [c]

/-- What the literals of a text say, each up to the quote that closes it. -/
def inner : Scan → List Char → List Char
  | _, [] => []
  | s, c :: cs => s.keepInner c ++ inner (s.next c) cs

lemma inner_cons (s : Scan) (c : Char) (cs : List Char) :
    s.inner (c :: cs) = s.keepInner c ++ (s.next c).inner cs := by
  cases s <;> rfl

lemma inner_append (s : Scan) (a b : List Char) :
    s.inner (a ++ b) = s.inner a ++ (s.after a).inner b := by
  induction a generalizing s with
  | nil => cases s <;> rfl
  | cons c a ih => rw [List.cons_append, inner_cons, inner_cons, after_cons, ih, List.append_assoc]

/-- A text without quotes has no literals. -/
lemma inner_of_not_mem {cs : List Char} (h : '"' ∉ cs) : outside.inner cs = [] := by
  induction cs with
  | nil => rfl
  | cons c cs ih =>
    have hc : c ≠ '"' := (List.ne_of_not_mem_cons h).symm
    have hnext : outside.next c = outside := by simp [next, hc]
    rw [inner_cons, hnext, ih (List.not_mem_of_not_mem_cons h)]
    rfl

/-- What a literal writes for a character stays. -/
lemma inner_escape (c : Char) : inside.inner (Literal.escape c) = Literal.escape c := by
  unfold Literal.escape
  split_ifs <;> rfl

lemma inner_body (cs : List Char) : inside.inner (Literal.body cs) = Literal.body cs := by
  induction cs with
  | nil => rfl
  | cons c cs ih => rw [Literal.body_cons, inner_append, inner_escape, (code_escape c).1, ih]

lemma inner_quoteChars (cs : List Char) :
    outside.inner (Literal.quoteChars cs) = Literal.body cs ++ ['"'] := by
  have hopen : outside.next '"' = inside := rfl
  rw [Literal.quoteChars, inner_cons, hopen, inner_append, inner_body, (code_body cs).1]
  rfl

end Scan

/-! ## The literals of lines -/

/-- The value of a literal, if the piece is one. -/
def Piece.literal? : Piece → Option String
  | code _ => none
  | literal value => some value

namespace Line

/-- The values of the literals of a line. -/
def literals (line : Line) : List String :=
  line.filterMap Piece.literal?

@[simp] lemma literals_nil : literals [] = [] := rfl

@[simp] lemma literals_code_cons (text : String) (line : Line) :
    literals (.code text :: line) = literals line := rfl

@[simp] lemma literals_literal_cons (value : String) (line : Line) :
    literals (.literal value :: line) = value :: literals line := rfl

@[simp] lemma literals_append (a b : Line) : literals (a ++ b) = literals a ++ literals b :=
  List.filterMap_append

@[simp] lemma literals_indent (level : ℕ) (line : Line) :
    literals (indent level line) = literals line := rfl

/-- What stands inside the literals of a line is what its literals say. -/
lemma inner_chars {line : Line} (h : line.Unquoted) :
    Scan.outside.inner line.chars = line.literals.flatMap Literal.written := by
  induction line with
  | nil => rfl
  | cons p line ih =>
    obtain ⟨hp, hline⟩ := unquoted_cons.mp h
    rw [chars_cons, Scan.inner_append, (code_piece hp).1, ih hline]
    cases p with
    | code text => rw [Piece.chars_code, Scan.inner_of_not_mem hp, List.nil_append,
        literals_code_cons]
    | literal value => rw [Piece.chars_literal, Scan.inner_quoteChars, literals_literal_cons,
        List.flatMap_cons, Literal.written]

lemma inner_textChars {lines : List Line} (h : ∀ line ∈ lines, line.Unquoted) :
    Scan.outside.inner (textChars lines) =
      (lines.flatMap literals).flatMap Literal.written := by
  induction lines with
  | nil => rfl
  | cons line lines ih =>
    obtain ⟨hline, hlines⟩ := List.forall_mem_cons.mp h
    have hfeed : Scan.outside.next '\n' = .outside := rfl
    have hnone : Scan.outside.keepInner '\n' = [] := rfl
    rw [textChars_cons, Scan.inner_append, inner_chars hline, (code_chars hline).1,
      Scan.inner_cons, hfeed, hnone, List.nil_append, ih hlines, List.flatMap_cons,
      List.flatMap_append]

/-- **A text tells what its literals say**, but for the characters that literals leave out. -/
theorem map_kept_literals {a b : List Line} (ha : ∀ line ∈ a, line.Unquoted)
    (hb : ∀ line ∈ b, line.Unquoted) (h : text a = text b) :
    (a.flatMap literals).map Literal.kept = (b.flatMap literals).map Literal.kept := by
  have hchars : textChars a = textChars b := by
    rw [text, text] at h
    exact String.ofList_injective h
  refine Literal.map_kept_eq ?_
  rw [← inner_textChars ha, ← inner_textChars hb, hchars]

end Line

/-! ## The literals of files -/

/-- The values of the literals of a member. -/
def Member.literals (m : Member) : List String :=
  m.lines.flatMap Line.literals

lemma Member.literals_nameHashes (names : List String) :
    (Member.nameHashes names).literals = names := by
  have hline : ∀ name, (Member.nameHash name).literals = [name] := fun _ => rfl
  rw [literals, lines, List.flatMap_map]
  simp [hline]

/-- The literals of a routine stand in its qualifiers and in its statements. -/
lemma Member.literals_routine (r : Routine) :
    (Member.routine r).literals =
      r.qualifiers.flatMap Line.literals ++ r.body.flatMap Line.literals := by
  have hhead : r.head.line.literals = [] := by
    cases r.head <;> rfl
  have hinline : Line.literals (r.qualifiers.flatMap fun q => .code " " :: q) =
      r.qualifiers.flatMap Line.literals := by
    rw [Line.literals, List.filterMap_flatMap]
    rfl
  have hheader : r.header.flatMap Line.literals = r.qualifiers.flatMap Line.literals := by
    unfold Routine.header
    split_ifs <;> simp [hhead, hinline, List.flatMap_map]
  rw [literals, lines, Routine.lines, List.flatMap_append, List.flatMap_append, hheader,
    List.flatMap_map]
  simp

lemma Line.literals_spaced (blocks : List (List Line)) :
    (Line.spaced blocks).flatMap Line.literals =
      blocks.flatMap fun block => block.flatMap Line.literals := by
  match blocks with
  | [] => rfl
  | [block] => simp [Line.spaced]
  | block :: next :: rest =>
    have ih := Line.literals_spaced (next :: rest)
    rw [Line.spaced_cons_cons, List.flatMap_append, List.flatMap_cons, ih, List.flatMap_cons]
    rfl

/-- The literals of a file are its imports and those of its members. -/
lemma SourceFile.literals_lines (f : SourceFile) :
    f.lines.flatMap Line.literals = f.imports ++ f.members.flatMap Member.literals := by
  have himport : ∀ path, (SourceFile.importLine path).literals = [path] := fun _ => rfl
  have hdeclaration : f.declaration.literals = [] := rfl
  have hmembers : f.members.flatMap Member.literals =
      f.members.flatMap fun m => m.lines.flatMap Line.literals := rfl
  rw [hmembers]
  simp only [SourceFile.lines, List.flatMap_append, List.flatMap_cons, List.flatMap_nil,
    List.flatMap_map, himport, hdeclaration, Line.literals_spaced]
  simp [Line.ofCode, Line.empty]

end Solidity
end TokenLaunch
