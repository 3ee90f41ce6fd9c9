/-
# Well-formed source text

A text is tidy when it is balanced and holds no control character.  A file whose lines are tidy,
apart from the curly brackets around routines and around the contract, is well formed: line feeds
are its only control characters and never stand in a literal, its brackets are nested, and the
contract's curly brackets enclose all others.
-/
import TokenLaunch.Proofs.Source.Brackets
import TokenLaunch.Proofs.Source.File

namespace TokenLaunch
namespace Solidity

open Token (word mark)

/-- What is asked of every source text. -/
structure WellFormed (text : String) : Prop where
  /-- There is no control character besides the line feed. -/
  control : ∀ c ∈ text.toList, Text.isControl c = true → c = '\n'
  /-- No literal goes on after the end of its line. -/
  closed : ∀ before after, text.toList = before ++ '\n' :: after →
    Scan.outside.after before = .outside
  /-- No literal goes on at the end of the text. -/
  finished : Scan.outside.after text.toList = .outside
  /-- Outside literals the brackets are nested. -/
  balanced : Balanced (codeOf text).toList
  /-- The line that declares the contract ends with a curly bracket, which is closed right before
  the last line feed; these two enclose all other curly brackets. -/
  braces : ∃ front declaration inner,
    (codeOf text).toList = front ++ '\n' :: (declaration ++ '{' :: '\n' :: (inner ++ ['}', '\n'])) ∧
    "contract ".toList <+: declaration ∧ '\n' ∉ declaration ∧
    ∀ p rest, (codeOf text).toList = p ++ rest →
      (0 < Brackets.depth p ↔ (front ++ '\n' :: declaration).length < p.length ∧ 1 < rest.length)
  /-- One contract is declared. -/
  contract : (tokensOf text).count (word "contract") = 1 ∧
    (contracts (tokensOf text)).length = 1
  /-- There is one constructor. -/
  constructor : (tokensOf text).count (word "constructor") = 1 ∧
    (constructors (tokensOf text)).length = 1

/-! ## Flat characters and tidy texts -/

/-- A character that is no bracket and no control character. -/
def Flat (c : Char) : Prop :=
  Text.isControl c = false ∧ Brackets.closer? c = none ∧ c ∉ Brackets.closers

instance (c : Char) : Decidable (Flat c) :=
  inferInstanceAs (Decidable (_ ∧ _ ∧ _))

/-- A balanced text without control characters. -/
def TidyText (cs : List Char) : Prop :=
  (∀ c ∈ cs, Text.isControl c = false) ∧ Balanced cs

instance (cs : List Char) : Decidable (TidyText cs) :=
  inferInstanceAs (Decidable (_ ∧ _))

/-- The ranges of the characters that stand in words. -/
lemma isPart_ranges {c : Char} (h : Identifier.isPart c = true) :
    (65 ≤ c.toNat ∧ c.toNat ≤ 90) ∨ (97 ≤ c.toNat ∧ c.toNat ≤ 122) ∨
      (48 ≤ c.toNat ∧ c.toNat ≤ 57) ∨ c = '_' := by
  have hranges : Identifier.isPart c = (decide (65 ≤ c.toNat ∧ c.toNat ≤ 90) ||
      (decide (97 ≤ c.toNat) && decide (c.toNat ≤ 122)) ||
      (decide (48 ≤ c.toNat) && decide (c.toNat ≤ 57)) || c == '_') := rfl
  simpa [hranges, or_assoc] using h

lemma flat_of_isPart {c : Char} (h : Identifier.isPart c = true) : Flat c := by
  refine ⟨?_, ?_, fun hmem => ?_⟩
  · rw [Bool.eq_false_iff, ne_eq, Text.isControl_iff]
    rcases isPart_ranges h with h | h | h | rfl
    · omega
    · omega
    · omega
    · decide
  · unfold Brackets.closer?
    split
    · exact absurd h (by decide)
    · exact absurd h (by decide)
    · exact absurd h (by decide)
    · rfl
  · simp only [Brackets.closers, List.mem_cons, List.not_mem_nil, or_false] at hmem
    rcases hmem with rfl | rfl | rfl <;> exact absurd h (by decide)

namespace TidyText

variable {a b cs : List Char}

lemma nil : TidyText [] := by decide

lemma append (ha : TidyText a) (hb : TidyText b) : TidyText (a ++ b) :=
  ⟨List.forall_mem_append.mpr ⟨ha.1, hb.1⟩, ha.2.append hb.2⟩

lemma of_flat (h : ∀ c ∈ cs, Flat c) : TidyText cs := by
  refine ⟨fun c hc => (h c hc).1, ?_⟩
  induction cs with
  | nil => exact Balanced.nil
  | cons c cs ih =>
    obtain ⟨hc, hcs⟩ := List.forall_mem_cons.mp h
    have hsingle : Balanced [c] := by
      simp [Balanced, Brackets.after, Brackets.next, hc.2.1, hc.2.2]
    exact hsingle.append (ih hcs)

lemma wrap (h : TidyText cs) {c d : Char} (hc : Brackets.closer? c = some d) :
    TidyText (c :: (cs ++ [d])) := by
  have hflat : Text.isControl c = false ∧ Text.isControl d = false := by
    unfold Brackets.closer? at hc
    split at hc <;> cases hc <;> decide
  refine ⟨?_, h.2.wrap hc⟩
  simp only [List.forall_mem_cons, List.forall_mem_append]
  exact ⟨hflat.1, h.1, hflat.2, by simp⟩

end TidyText

lemma IsName.flat {s : String} (h : IsName s) : ∀ c ∈ s.toList, Flat c :=
  fun c hc => flat_of_isPart (h.2.1 c hc)

lemma flat_intercalate {names : List String} (h : ∀ name ∈ names, IsName name) :
    ∀ c ∈ (", ".intercalate names).toList, Flat c := by
  have hcomma : ∀ c ∈ ", ".toList, Flat c := by decide
  match names with
  | [] => decide
  | [name] =>
    rw [String.intercalate_singleton]
    exact (h name (by simp)).flat
  | name :: other :: names =>
    have ih := flat_intercalate fun n hn => h n (List.mem_cons_of_mem name hn)
    rw [String.intercalate_cons_cons, String.toList_append, String.toList_append]
    exact List.forall_mem_append.mpr
      ⟨List.forall_mem_append.mpr ⟨(h name (by simp)).flat, hcomma⟩, ih⟩

/-! ## Tidy lines -/

/-- No literal writes a control character. -/
lemma Literal.isControl_of_mem_quoteChars {cs : List Char} {c : Char} (h : c ∈ quoteChars cs) :
    Text.isControl c = false := by
  have hquote : Text.isControl '"' = false := by decide
  have hescape : ∀ d, ∀ c ∈ escape d, Text.isControl c = false := by
    intro d c hc
    unfold escape at hc
    split_ifs at hc with _ _ _ _ _ hcontrol
    case neg =>
      rw [List.mem_singleton.mp hc]
      exact Bool.eq_false_iff.mpr hcontrol
    all_goals
      revert c
      decide
  rcases List.mem_cons.mp h with rfl | h
  · exact hquote
  rcases List.mem_append.mp h with h | h
  · obtain ⟨d, -, hd⟩ := List.mem_flatMap.mp h
    exact hescape d c hd
  · rw [List.mem_singleton.mp h]
    exact hquote

namespace Line

/-- A line that is tidy outside its literals. -/
def Tidy (line : Line) : Prop :=
  TidyText line.blank.chars

instance (line : Line) : Decidable line.Tidy :=
  inferInstanceAs (Decidable (TidyText _))

/-- A line without control characters outside its literals. -/
def Clean (line : Line) : Prop :=
  ∀ c ∈ line.blank.chars, Text.isControl c = false

instance (line : Line) : Decidable line.Clean :=
  inferInstanceAs (Decidable (∀ c ∈ line.blank.chars, Text.isControl c = false))

variable {a b line : Line} {lines : List Line}

lemma Tidy.clean (h : line.Tidy) : line.Clean := h.1

lemma Tidy.append (ha : a.Tidy) (hb : b.Tidy) : Tidy (a ++ b) := by
  rw [Tidy, blank_append, chars_append]
  exact TidyText.append ha hb

lemma Clean.append (ha : a.Clean) (hb : b.Clean) : Clean (a ++ b) := by
  rw [Clean, blank_append, chars_append]
  exact List.forall_mem_append.mpr ⟨ha, hb⟩

lemma tidy_code {text : String} : Tidy [.code text] ↔ TidyText text.toList := by
  simp [Tidy, Piece.blank]

/-- A line of code that is spelled out. -/
lemma tidy_ofCode {text : String} {cs : List Char} (h : text = String.ofList cs)
    (hcs : TidyText cs) : (ofCode text).Tidy := by
  rw [← toList_spelled h] at hcs
  exact tidy_code.mpr hcs

/-- A clean line holds no control character, not in its literals either. -/
lemma Clean.isControl (h : line.Clean) : ∀ c ∈ line.chars, Text.isControl c = false := by
  induction line with
  | nil => simp
  | cons p line ih =>
    rw [Clean, blank_cons, chars_cons, List.forall_mem_append] at h
    rw [chars_cons, List.forall_mem_append]
    refine ⟨?_, ih h.2⟩
    cases p with
    | code text => exact h.1
    | literal value => exact fun c hc => Literal.isControl_of_mem_quoteChars hc

lemma tidy_margin (level : Nat) : Tidy [.code (margin level)] := by
  rw [tidy_code]
  refine TidyText.of_flat fun c hc => ?_
  induction level with
  | zero => simp [margin] at hc
  | succ level ih =>
    have hblanks : ∀ c ∈ "    ".toList, Flat c := by decide
    rw [margin, String.toList_append, List.mem_append] at hc
    exact hc.elim (hblanks c) ih

lemma Tidy.indent (h : line.Tidy) (level : Nat) : (line.indent level).Tidy :=
  (tidy_margin level).append h

lemma Clean.indent (h : line.Clean) (level : Nat) : (line.indent level).Clean :=
  (tidy_margin level).clean.append h

/-- Lines that are tidy make a balanced text. -/
lemma balanced_textChars (h : ∀ line ∈ lines, line.Tidy) :
    Balanced (textChars (lines.map blank)) := by
  have hfeed : Balanced ['\n'] := by decide
  rw [textChars, List.flatMap_map]
  exact Balanced.flatMap fun line hline => (h line hline).2.append hfeed

lemma after_textChars (h : ∀ line ∈ lines, line.Unquoted) :
    Scan.outside.after (textChars lines) = .outside := by
  induction lines with
  | nil => rfl
  | cons line lines ih =>
    obtain ⟨hline, hlines⟩ := List.forall_mem_cons.mp h
    rw [textChars_cons, Scan.after_append, (code_chars hline).1, Scan.after_cons]
    exact ih hlines

/-- A line feed in a text that is made of clean lines ends one of the lines. -/
lemma textChars_split {before after : List Char} (h : ∀ line ∈ lines, line.Clean)
    (hsplit : textChars lines = before ++ '\n' :: after) :
    ∃ front line rest, lines = front ++ line :: rest ∧ before = textChars front ++ line.chars := by
  induction lines generalizing before with
  | nil => simp at hsplit
  | cons line lines ih =>
    obtain ⟨hline, hlines⟩ := List.forall_mem_cons.mp h
    have hfeed : '\n' ∉ line.chars := fun hmem =>
      absurd (hline.isControl _ hmem) (by decide)
    rw [textChars_cons] at hsplit
    rcases List.append_eq_append_iff.mp hsplit with ⟨q, rfl, hq⟩ | ⟨q, hq, hrest⟩
    · cases q with
      | nil => exact ⟨[], line, lines, rfl, by simp⟩
      | cons c q =>
        obtain ⟨rfl, hlater⟩ := List.cons.inj hq
        obtain ⟨front, next, rest, rfl, rfl⟩ := ih hlines hlater
        exact ⟨line :: front, next, rest, rfl, by simp⟩
    · -- the line feed would stand in the first line
      cases q with
      | nil => exact ⟨[], line, lines, rfl, by simpa using hq.symm⟩
      | cons c q =>
        obtain ⟨rfl, -⟩ := List.cons.inj hrest
        exact absurd (hq ▸ by simp) hfeed

end Line

/-! ## Routines and members -/

namespace Routine

/-- A routine whose head, qualifiers and statements are tidy. -/
structure Tidy (r : Routine) : Prop where
  head : r.head.line.Tidy
  qualifiers : ∀ q ∈ r.qualifiers, q.Tidy
  body : ∀ line ∈ r.body, line.Tidy

namespace Tidy

variable {r : Routine} (h : r.Tidy)

include h

/-- The header on one line, without its bracket. -/
lemma inline :
    (Line.indent 1 (r.head.line ++ r.qualifiers.flatMap fun q => .code " " :: q)).Tidy := by
  have hblank : Line.Tidy [.code " "] := by decide
  have hqualifiers : ∀ qs : List Line, (∀ q ∈ qs, q.Tidy) →
      Line.Tidy (qs.flatMap fun q => .code " " :: q) := by
    intro qs hqs
    induction qs with
    | nil => exact TidyText.nil
    | cons q qs ih =>
      obtain ⟨hq, hrest⟩ := List.forall_mem_cons.mp hqs
      rw [List.flatMap_cons]
      exact (hblank.append hq).append (ih hrest)
  exact (h.head.append (hqualifiers r.qualifiers h.qualifiers)).indent 1

/-- The lines of a wrapped header, without its bracket. -/
lemma wrapped : ∀ line ∈ Line.indent 1 r.head.line :: r.qualifiers.map (Line.indent 2),
    line.Tidy :=
  List.forall_mem_cons.mpr
    ⟨h.head.indent 1, List.forall_mem_map.mpr fun q hq => (h.qualifiers q hq).indent 2⟩

lemma clean : ∀ line ∈ r.lines, line.Clean := by
  have hbrace : Line.Clean [.code "\x7b"] ∧ Line.Clean [.code " \x7b"] ∧
      Line.Clean [.code "\x7d"] := by decide
  have hheader : ∀ line ∈ r.header, line.Clean := by
    unfold header
    split_ifs
    · exact List.forall_mem_append.mpr ⟨fun line hline => (h.wrapped line hline).clean,
        List.forall_mem_singleton.mpr (hbrace.1.indent 1)⟩
    · exact List.forall_mem_singleton.mpr (h.inline.clean.append hbrace.2.1)
  have hbody : ∀ line ∈ r.body.map (Line.indent 2), line.Clean :=
    List.forall_mem_map.mpr fun line hline => ((h.body line hline).indent 2).clean
  exact List.forall_mem_append.mpr ⟨List.forall_mem_append.mpr ⟨hheader, hbody⟩,
    List.forall_mem_singleton.mpr (hbrace.2.2.indent 1)⟩

/-- The header opens one curly bracket, at its end. -/
lemma exists_header : ∃ front, Balanced front ∧
    Line.textChars (r.header.map Line.blank) = front ++ ['{', '\n'] := by
  unfold header
  split_ifs
  · refine ⟨_, (Line.balanced_textChars h.wrapped).append (Line.tidy_margin 1).2, ?_⟩
    rw [List.map_append, Line.textChars_append]
    simp [Line.indent, Piece.blank]
  · have hblank : Balanced [' '] := by decide
    refine ⟨_, h.inline.2.append hblank, ?_⟩
    simp [Line.indent, Piece.blank]

lemma balanced : Balanced (Line.textChars (r.lines.map Line.blank)) := by
  obtain ⟨front, hfront, hheader⟩ := h.exists_header
  have hfeed : Balanced ['\n'] := by decide
  have hbody : Balanced (Line.textChars ((r.body.map (Line.indent 2)).map Line.blank)) :=
    Line.balanced_textChars (List.forall_mem_map.mpr fun line hline => (h.body line hline).indent 2)
  have hinner := (hfeed.append hbody).append (Line.tidy_margin 1).2
  have hchars : Line.textChars (r.lines.map Line.blank) =
      front ++ ('{' :: (['\n'] ++ Line.textChars ((r.body.map (Line.indent 2)).map Line.blank) ++
        Line.chars (Line.blank [.code (Line.margin 1)]) ++ ['}']) ++ ['\n']) := by
    rw [lines, List.map_append, List.map_append, Line.textChars_append, Line.textChars_append,
      hheader]
    simp [Line.indent, Piece.blank]
  rw [hchars]
  exact hfront.append ((hinner.wrap rfl).append hfeed)

end Tidy

end Routine

namespace Member

/-- A member made of tidy lines, apart from curly brackets around statements. -/
def Tidy : Member → Prop
  | nameHashes names => ∀ name ∈ names, IsName name
  | .variable declaration => (Line.ofCode (declaration ++ ";")).Tidy
  | routine r => r.Tidy
  | remark text => (Line.ofCode ("// " ++ text)).Tidy

lemma tidy_nameHash {name : String} (h : IsName name) : (nameHash name).Tidy := by
  have hfront : ∀ c ∈ "bytes32 public constant ".toList, Flat c := by decide
  have hequals : ∀ c ∈ " = keccak256".toList, Flat c := by decide
  have hliteral : TidyText (Literal.quoteChars []) := by decide
  have hchars : Line.chars (Line.blank
      [.code ("bytes32 public constant " ++ name ++ " = keccak256("), .literal name, .code ");"]) =
        "bytes32 public constant ".toList ++ name.toList ++ " = keccak256".toList ++
          '(' :: (Literal.quoteChars [] ++ [')']) ++ [';'] := by
    have hsplit : " = keccak256(" = " = keccak256" ++ "(" := by decide
    rw [hsplit]
    simp [Piece.blank]
  have hline : Line.Tidy [.code ("bytes32 public constant " ++ name ++ " = keccak256("),
      .literal name, .code ");"] := by
    rw [Line.Tidy, hchars]
    exact ((((TidyText.of_flat hfront).append (TidyText.of_flat h.flat)).append
      (TidyText.of_flat hequals)).append (hliteral.wrap rfl)).append (by decide)
  exact hline.indent 1

variable {m : Member}

lemma Tidy.clean (h : m.Tidy) : ∀ line ∈ m.lines, line.Clean := by
  cases m with
  | nameHashes names =>
    exact List.forall_mem_map.mpr fun name hname => (tidy_nameHash (h name hname)).clean
  | «variable» declaration => exact List.forall_mem_singleton.mpr (Line.Tidy.indent h 1).clean
  | routine r => exact Routine.Tidy.clean h
  | remark text => exact List.forall_mem_singleton.mpr (Line.Tidy.indent h 1).clean

lemma Tidy.balanced (h : m.Tidy) : Balanced (Line.textChars (m.lines.map Line.blank)) := by
  cases m with
  | nameHashes names =>
    exact Line.balanced_textChars
      (List.forall_mem_map.mpr fun name hname => tidy_nameHash (h name hname))
  | «variable» declaration =>
    exact Line.balanced_textChars (List.forall_mem_singleton.mpr (Line.Tidy.indent h 1))
  | routine r => exact Routine.Tidy.balanced h
  | remark text =>
    exact Line.balanced_textChars (List.forall_mem_singleton.mpr (Line.Tidy.indent h 1))

end Member

/-! ## Files -/

lemma length_occurrences {α : Type} {key : Token} (read : List Token → α) (ts : List Token) :
    (occurrences key (fun ts => some (read ts)) ts).length = ts.count key := by
  induction ts with
  | nil => rfl
  | cons t ts ih =>
    rw [occurrences_cons, List.length_append, ih, List.count_cons]
    by_cases ht : t = key
    · simp [ht, Nat.add_comm]
    · simp [ht]

namespace SourceFile

variable {f : SourceFile}

/-- A contract's word stands in the line that opens the contract and nowhere else. -/
lemma count_contract (h : f.Plain) : (tokensOf f.text).count (word "contract") = 1 := by
  have hk : "contract" ∈ keywords := by decide
  have hmembers : ∀ m ∈ f.members, Reads (word "contract") (fun _ => some ()) m.tokens [] := by
    intro m hm
    refine (h.members m hm).reads_nothing hk ?_
    cases m with
    | routine r => cases hhead : r.head <;> simp [Member.keyword?, hhead, Head.keyword]
    | _ => simp [Member.keyword?]
  have hnot : word "contract" ∉ word f.name :: word "is" :: (listing f.parents ++ [mark '{']) := by
    have hparents := (quiet_listing h.parents).word_not_mem hk
    simp [h.name.ne_of_mem hk, hparents]
  have hdeclaration : Reads (word "contract") (fun _ => some ()) f.declarationTokens [()] :=
    reads_key_cons (x := some ()) hnot fun _ => rfl
  have hread := occurrences_text h (by decide) hdeclaration hmembers
  rw [← length_occurrences fun _ => (), hread]
  simp

/-- The lines in front of the contract. -/
def frontLines (f : SourceFile) : List Line :=
  [Line.ofCode licenseMarker, Line.ofCode pragma, Line.empty] ++ f.imports.map importLine

/-- The line that opens the contract, without its bracket. -/
def opening (f : SourceFile) : Line :=
  [.code "contract ", .code f.name, .code " is ", .code (", ".intercalate f.parents), .code " "]

lemma flat_frontLines : ∀ line ∈ f.frontLines, ∀ c ∈ line.blank.chars, Flat c := by
  have hfixed : ∀ line ∈ [Line.ofCode licenseMarker, Line.ofCode pragma, Line.empty],
      ∀ c ∈ line.blank.chars, Flat c := by decide
  have himport : ∀ c ∈ (importLine "").blank.chars, Flat c := by decide
  exact List.forall_mem_append.mpr ⟨hfixed, List.forall_mem_map.mpr fun path _ => himport⟩

lemma flat_opening (h : f.Plain) : ∀ c ∈ f.opening.blank.chars, Flat c := by
  have hcode : (∀ c ∈ "contract ".toList, Flat c) ∧ (∀ c ∈ " is ".toList, Flat c) ∧
      ∀ c ∈ " ".toList, Flat c := by decide
  simp only [opening, Line.blank_cons, Line.blank_nil, Piece.blank, Line.chars_cons, Line.chars_nil,
    Piece.chars_code, List.append_nil, List.forall_mem_append]
  exact ⟨hcode.1, h.name.flat, hcode.2.1, flat_intercalate h.parents, hcode.2.2⟩

/-- The code of a file: what stands in front of the contract's curly brackets, and what they
enclose. -/
lemma toList_codeOf_text (h : f.Plain) :
    (codeOf f.text).toList = Line.textChars (f.frontLines.map Line.blank) ++
      '\n' :: (f.opening.blank.chars ++ '{' :: '\n' ::
        (Line.textChars ((Line.spaced (f.members.map Member.lines)).map Line.blank) ++
          ['}', '\n'])) := by
  have hlines : f.lines = f.frontLines ++ Line.empty :: f.declaration ::
      (Line.spaced (f.members.map Member.lines) ++ [Line.ofCode "\x7d"]) := by
    simp [lines, frontLines]
  have hdeclaration : f.declaration.blank.chars = f.opening.blank.chars ++ ['{'] := by
    have hsplit : " \x7b" = " " ++ "\x7b" := by decide
    rw [declaration, hsplit]
    simp [opening, Piece.blank]
  have hclose : (Line.ofCode "\x7d").blank.chars = ['}'] := by decide
  rw [codeOf, text, Line.text, String.toList_ofList, String.toList_ofList,
    Line.code_textChars h.unquoted, hlines]
  simp only [List.map_append, List.map_cons, List.map_nil, Line.textChars_append,
    Line.textChars_cons, Line.textChars_nil, hdeclaration, hclose]
  simp [Line.empty]

lemma forall_mem_lines {P : Line → Prop} (hempty : P Line.empty)
    (hfront : ∀ line ∈ f.frontLines, P line) (hdeclaration : P f.declaration)
    (hmembers : ∀ m ∈ f.members, ∀ line ∈ m.lines, P line) (hclose : P (Line.ofCode "\x7d")) :
    ∀ line ∈ f.lines, P line := by
  have hspaced := Line.forall_mem_spaced hempty (List.forall_mem_map.mpr hmembers)
  simp only [frontLines, List.forall_mem_append, List.forall_mem_cons] at hfront
  simp only [lines, List.forall_mem_append, List.forall_mem_cons]
  exact ⟨⟨⟨⟨hfront.1, hfront.2⟩, hempty, hdeclaration, by simp⟩, hspaced⟩, hclose, by simp⟩

/-- Every line of a tidy file is clean. -/
lemma clean_lines (h : f.Plain) (hmembers : ∀ m ∈ f.members, m.Tidy) :
    ∀ line ∈ f.lines, line.Clean := by
  have hdeclaration : f.declaration.Clean := by
    have hbrace : Line.Clean [.code " \x7b"] := by decide
    have hname := fun c hc => (flat_opening h c hc).1
    have hsplit : f.declaration = f.opening.take 4 ++ [.code " \x7b"] := rfl
    rw [hsplit]
    refine Line.Clean.append (fun c hc => hname c ?_) hbrace
    have hopening : f.opening = f.opening.take 4 ++ [.code " "] := rfl
    rw [hopening, Line.blank_append, Line.chars_append]
    exact List.mem_append_left _ hc
  exact forall_mem_lines (by decide) (fun line hline c hc => (flat_frontLines line hline c hc).1)
    hdeclaration (fun m hm => (hmembers m hm).clean) (by decide)

lemma balanced_spaced (hmembers : ∀ m ∈ f.members, m.Tidy) :
    Balanced (Line.textChars ((Line.spaced (f.members.map Member.lines)).map Line.blank)) := by
  have hfeed : Balanced (Line.textChars [Line.blank Line.empty]) := by decide
  have hblocks : ∀ blocks : List (List Line),
      (∀ block ∈ blocks, Balanced (Line.textChars (block.map Line.blank))) →
        Balanced (Line.textChars ((Line.spaced blocks).map Line.blank)) := by
    intro blocks hblocks
    induction blocks with
    | nil => exact Balanced.nil
    | cons block blocks ih =>
      obtain ⟨hblock, hrest⟩ := List.forall_mem_cons.mp hblocks
      cases blocks with
      | nil => exact hblock
      | cons next blocks =>
        have hsplit : Line.textChars ((Line.spaced (block :: next :: blocks)).map Line.blank) =
            Line.textChars (block.map Line.blank) ++ Line.textChars [Line.blank Line.empty] ++
              Line.textChars ((Line.spaced (next :: blocks)).map Line.blank) := by
          rw [Line.spaced_cons_cons]
          simp
        rw [hsplit]
        exact (hblock.append hfeed).append (ih hrest)
  exact hblocks _ (List.forall_mem_map.mpr fun m hm => (hmembers m hm).balanced)

lemma toList_text : f.text.toList = Line.textChars f.lines :=
  String.toList_ofList

/-- The only control characters of clean lines are the line feeds between them. -/
lemma eq_feed_of_isControl (h : ∀ line ∈ f.lines, line.Clean) {c : Char} (hc : c ∈ f.text.toList)
    (hcontrol : Text.isControl c = true) : c = '\n' := by
  rw [toList_text, Line.textChars] at hc
  obtain ⟨line, hline, hc⟩ := List.mem_flatMap.mp hc
  rcases List.mem_append.mp hc with hc | hc
  · exact absurd hcontrol (by simp [(h line hline).isControl c hc])
  · exact List.mem_singleton.mp hc

/-- No literal of clean lines goes on after a line feed. -/
lemma after_feed (h : f.Plain) (hclean : ∀ line ∈ f.lines, line.Clean) {before after : List Char}
    (hsplit : f.text.toList = before ++ '\n' :: after) : Scan.outside.after before = .outside := by
  rw [toList_text] at hsplit
  obtain ⟨front, line, rest, hlines, rfl⟩ := Line.textChars_split hclean hsplit
  have hunquoted := h.unquoted
  rw [hlines] at hunquoted
  obtain ⟨hfront, hrest⟩ := List.forall_mem_append.mp hunquoted
  rw [Scan.after_append, Line.after_textChars hfront]
  exact (Line.code_chars (List.forall_mem_cons.mp hrest).1).1

/-- No curly bracket stands before the one that opens the contract. -/
lemma curly_not_mem_front (h : f.Plain) {c : Char} (hc : c ∈ ['{', '}']) :
    c ∉ Line.textChars (f.frontLines.map Line.blank) ++ '\n' :: f.opening.blank.chars := by
  have hfixed : ∀ c ∈ ['{', '}'], ¬ Flat c ∧ c ≠ '\n' := by decide
  obtain ⟨hflat, hfeed⟩ := hfixed c hc
  rw [Line.textChars, List.flatMap_map, List.mem_append, List.mem_cons, List.mem_flatMap]
  rintro (⟨line, hline, hmem⟩ | hmem | hmem)
  · rcases List.mem_append.mp hmem with hmem | hmem
    · exact hflat (flat_frontLines line hline c hmem)
    · exact hfeed (List.mem_singleton.mp hmem)
  · exact hfeed hmem
  · exact hflat (flat_opening h c hmem)

lemma balanced_feed : Balanced ['\n'] := by
  decide

/-- The brackets of a file with tidy members are nested. -/
lemma balanced_codeOf_text (h : f.Plain) (hmembers : ∀ m ∈ f.members, m.Tidy) :
    Balanced (codeOf f.text).toList := by
  have hsplit : (codeOf f.text).toList =
      (Line.textChars (f.frontLines.map Line.blank) ++ ['\n']) ++ f.opening.blank.chars ++
        '{' :: ((['\n'] ++ Line.textChars
          ((Line.spaced (f.members.map Member.lines)).map Line.blank)) ++ ['}']) ++ ['\n'] := by
    rw [toList_codeOf_text h]
    simp
  have hfront : Balanced (Line.textChars (f.frontLines.map Line.blank)) :=
    Line.balanced_textChars fun line hline => TidyText.of_flat (flat_frontLines line hline)
  have hopening : Balanced f.opening.blank.chars := (TidyText.of_flat (flat_opening h)).2
  rw [hsplit]
  exact (((hfront.append balanced_feed).append hopening).append
    ((balanced_feed.append (balanced_spaced hmembers)).wrap rfl)).append balanced_feed

/-- **A tidy file with one constructor is well formed**, whatever its literals hold. -/
theorem wellFormed_text (h : f.Plain) (hmembers : ∀ m ∈ f.members, m.Tidy)
    (hconstructor : (f.members.flatMap Member.constructors).length = 1) : WellFormed f.text := by
  have hclean := clean_lines h hmembers
  constructor
  case control => exact fun c hc hcontrol => eq_feed_of_isControl hclean hc hcontrol
  case closed => exact fun before after hsplit => after_feed h hclean hsplit
  case finished =>
    rw [toList_text]
    exact Line.after_textChars h.unquoted
  case balanced => exact balanced_codeOf_text h hmembers
  case braces =>
    refine ⟨_, _, _, toList_codeOf_text h, ⟨_, rfl⟩, fun hmem => ?_, fun p rest hsplit => ?_⟩
    · exact absurd (flat_opening h _ hmem) (by decide)
    · have hback : '{' ∉ ['\n'] ∧ '}' ∉ ['\n'] := by decide
      have hfront := And.intro (curly_not_mem_front h (c := '{') (by simp))
        (curly_not_mem_front h (c := '}') (by simp))
      refine @depth_pos_iff _ _ ['\n'] _ _ hfront
        (balanced_feed.append (balanced_spaced hmembers)) hback ?_
      rw [← hsplit, toList_codeOf_text h]
      simp
  case contract =>
    refine ⟨count_contract h, ?_⟩
    rw [contracts_text h]
    rfl
  case constructor =>
    have hone : (constructors (tokensOf f.text)).length = 1 := by
      rw [constructors_text h, hconstructor]
    refine ⟨?_, hone⟩
    rw [← hone, constructors, length_occurrences]

end SourceFile

end Solidity
end TokenLaunch
