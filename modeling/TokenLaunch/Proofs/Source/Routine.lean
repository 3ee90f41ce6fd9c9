/-
# Reading a routine

A routine is plain when its name is a name, its quotes all belong to literals, and neither its
header nor its body holds a brace or a word that starts a declaration.  The lines of a plain
routine say the same however the header is laid out: `Routine.tokens_lines` gives their tokens as
those of the head, of the qualifiers and of the body.
-/
import TokenLaunch.Proofs.Source.Reader

namespace TokenLaunch
namespace Solidity

open Token (ofChars word mark)

/-! ## Names and quiet tokens -/

/-- The words that begin a declaration. -/
def keywords : List String := ["function", "constructor", "contract", "constant"]

/-- The tokens that begin or end a declaration. -/
def structural : List Token := keywords.map word ++ [mark '{', mark '}']

@[simp] lemma word_mem_structural {s : String} : word s ∈ structural ↔ s ∈ keywords := by
  simp [structural]

/-- Tokens that neither begin nor end a declaration. -/
def Quiet (ts : List Token) : Prop :=
  ∀ t ∈ structural, t ∉ ts

instance (ts : List Token) : Decidable (Quiet ts) :=
  inferInstanceAs (Decidable (∀ t ∈ structural, t ∉ ts))

lemma Quiet.word_not_mem {ts : List Token} (h : Quiet ts) {k : String} (hk : k ∈ keywords) :
    word k ∉ ts :=
  h _ (word_mem_structural.mpr hk)

lemma quiet_append {ts us : List Token} : Quiet (ts ++ us) ↔ Quiet ts ∧ Quiet us := by
  simp [Quiet, forall_and]

lemma quiet_flatMap {α : Type} {xs : List α} {f : α → List Token} (h : ∀ x ∈ xs, Quiet (f x)) :
    Quiet (xs.flatMap f) := by
  intro t ht hmem
  obtain ⟨x, hx, htx⟩ := List.mem_flatMap.mp hmem
  exact h x hx t ht htx

/-- An identifier that is no keyword of a declaration. -/
def IsName (s : String) : Prop :=
  s.toList ≠ [] ∧ (∀ c ∈ s.toList, Identifier.isPart c = true) ∧ s ∉ keywords

instance (s : String) : Decidable (IsName s) :=
  inferInstanceAs (Decidable (_ ∧ _ ∧ _))

namespace IsName

variable {s : String}

/-- A name that is spelled out. -/
lemma of_spelled {cs : List Char} (h : s = String.ofList cs)
    (hcs : cs ≠ [] ∧ (∀ c ∈ cs, Identifier.isPart c = true) ∧ s ∉ keywords) : IsName s := by
  rw [← toList_spelled h] at hcs
  exact hcs

lemma tokens (h : IsName s) : ofChars s.toList = [word s] := by
  rw [Token.ofChars_word h.1 h.2.1, String.ofList_toList]

lemma unquoted (h : IsName s) : '"' ∉ s.toList := by
  intro hmem
  exact absurd (h.2.1 _ hmem) (by decide)

lemma quiet (h : IsName s) : Quiet [word s] := by
  intro t ht hmem
  rw [List.mem_singleton.mp hmem, word_mem_structural] at ht
  exact h.2.2 ht

lemma ne_of_mem (h : IsName s) {k : String} (hk : k ∈ keywords) : k ≠ s :=
  fun heq => h.2.2 (heq ▸ hk)

end IsName

lemma tokens_intercalate {names : List String} (h : ∀ name ∈ names, IsName name) :
    ofChars (", ".intercalate names).toList = listing names := by
  have hcomma : Token.Parts ',' := by decide
  have hblank : ∀ c ∈ " ".toList, c.isWhitespace = true := by decide
  match names with
  | [] => rfl
  | [name] =>
    rw [String.intercalate_singleton, (h name (by simp)).tokens]
    rfl
  | name :: other :: names =>
    have ih : ofChars (", ".intercalate (other :: names)).toList = listing (other :: names) :=
      tokens_intercalate fun n hn => h n (List.mem_cons_of_mem _ hn)
    have hrest : (name ++ ", " ++ ", ".intercalate (other :: names)).toList =
        name.toList ++ ',' :: (" ".toList ++ (", ".intercalate (other :: names)).toList) := by
      simp
    rw [String.intercalate_cons_cons, hrest, Token.ofChars_append (by simpa using hcomma),
      Token.ofChars_cons hcomma, Token.ofChars_blanks_append hblank, ih, (h name (by simp)).tokens]
    rfl

lemma unquoted_intercalate {names : List String} (h : ∀ name ∈ names, IsName name) :
    '"' ∉ (", ".intercalate names).toList := by
  match names with
  | [] => decide
  | [name] =>
    rw [String.intercalate_singleton]
    exact (h name (by simp)).unquoted
  | name :: other :: names =>
    have ih : '"' ∉ (", ".intercalate (other :: names)).toList :=
      unquoted_intercalate fun n hn => h n (List.mem_cons_of_mem _ hn)
    have hcomma : '"' ∉ ", ".toList := by decide
    rw [String.intercalate_cons_cons, String.toList_append, String.toList_append]
    simp only [List.mem_append, not_or]
    exact ⟨⟨(h name (by simp)).unquoted, hcomma⟩, ih⟩

lemma eq_or_mem_of_mem_intersperse {α : Type} {sep x : α} {xs : List α}
    (h : x ∈ xs.intersperse sep) : x = sep ∨ x ∈ xs := by
  match xs with
  | [] => exact Or.inr h
  | [y] => exact Or.inr h
  | y :: z :: xs =>
    rw [List.intersperse_cons_cons, List.mem_cons, List.mem_cons] at h
    rcases h with h | h | h
    · exact Or.inr (h ▸ List.mem_cons_self)
    · exact Or.inl h
    · exact (eq_or_mem_of_mem_intersperse h).imp_right (List.mem_cons_of_mem y)

lemma mem_listing {names : List String} {t : Token} (h : t ∈ listing names) :
    t = mark ',' ∨ ∃ name ∈ names, t = word name := by
  refine (eq_or_mem_of_mem_intersperse h).imp_right fun hmem => ?_
  obtain ⟨name, hname, rfl⟩ := List.mem_map.mp hmem
  exact ⟨name, hname, rfl⟩

lemma quiet_listing {names : List String} (h : ∀ name ∈ names, IsName name) :
    Quiet (listing names) := by
  intro t ht hmem
  rcases mem_listing hmem with rfl | ⟨name, hname, rfl⟩
  · revert ht
    decide
  · exact (h name hname).2.2 (word_mem_structural.mp ht)

/-! ## Routines -/

/-- A line that declares nothing. -/
def Line.Plain (line : Line) : Prop :=
  line.Unquoted ∧ Quiet line.tokens

instance (line : Line) : Decidable line.Plain :=
  inferInstanceAs (Decidable (_ ∧ _))

namespace Head

/-- What a declaration with this head is called. -/
def name : Head → String
  | creation => "constructor"
  | function name _ => name

/-- The keyword that the head starts with. -/
def keyword : Head → String
  | creation => "constructor"
  | function _ _ => "function"

/-- The tokens before the parameters. -/
def opening : Head → List Token
  | creation => [word "constructor"]
  | function name _ => [word "function", word name]

/-- The tokens of the parameters. -/
def parameters : Head → List Token
  | creation => [mark '(', mark ')']
  | function _ parameters => mark '(' :: ofChars parameters.toList ++ [mark ')']

/-- A head whose name is a name and whose parameters declare nothing. -/
def Plain : Head → Prop
  | creation => True
  | function name parameters => IsName name ∧ (Line.ofCode parameters).Plain

lemma Plain.unquoted {h : Head} (hh : h.Plain) : h.line.Unquoted := by
  cases h with
  | creation => decide
  | function name parameters =>
    obtain ⟨hname, hparameters, -⟩ := hh
    have hp : '"' ∉ parameters.toList := by simpa [Line.ofCode, Piece.Unquoted] using hparameters
    have hkeyword : (Piece.code "function ").Unquoted := by decide
    simp only [line, Line.unquoted_cons, Line.unquoted_nil, and_true]
    exact ⟨hkeyword, hname.unquoted, by simpa [Piece.Unquoted] using hp⟩

lemma Plain.quiet_parameters {h : Head} (hh : h.Plain) : Quiet h.parameters := by
  cases h with
  | creation => decide
  | function name parameters =>
    obtain ⟨-, -, hquiet⟩ := hh
    rw [Line.tokens_ofCode] at hquiet
    have hround : Quiet [mark '('] ∧ Quiet [mark ')'] := by decide
    exact quiet_append.mpr ⟨quiet_append.mpr ⟨hround.1, hquiet⟩, hround.2⟩

/-- Only the keyword of a head begins a declaration. -/
lemma Plain.not_mem_opening {h : Head} (hh : h.Plain) {k : String} (hk : k ∈ keywords)
    (hne : k ≠ h.keyword) : word k ∉ h.opening := by
  cases h with
  | creation => exact fun hmem => hne (Token.word.inj (List.mem_singleton.mp hmem))
  | function name parameters =>
    intro hmem
    rcases List.mem_cons.mp hmem with heq | hmem
    · exact hne (Token.word.inj heq)
    · exact hh.1.ne_of_mem hk (Token.word.inj (List.mem_singleton.mp hmem))

lemma tokens_line {h : Head} (hh : h.Plain) : h.line.tokens = h.opening ++ h.parameters := by
  cases h with
  | creation => decide
  | function name parameters =>
    obtain ⟨hname, -⟩ := hh
    have hopen : Token.Parts '(' := by decide
    have hclose : Token.Parts ')' := by decide
    have hchars : (line (function name parameters)).blank.chars =
        "function ".toList ++ (name.toList ++ '(' :: (parameters.toList ++ [')'])) := by
      simp [line, Piece.blank]
    have hkeyword : ofChars "function ".toList = [word "function"] :=
      Token.ofChars_spelled rfl (by decide)
    rw [Line.tokens, hchars, Token.ofChars_append_of_end (by decide),
      Token.ofChars_append (by simpa using hopen), Token.ofChars_cons hopen,
      Token.ofChars_append (by simpa using hclose), Token.ofChars_cons hclose, hname.tokens,
      hkeyword]
    rfl

end Head

namespace Routine

/-- A routine in which nothing else is declared. -/
structure Plain (r : Routine) : Prop where
  head : r.head.Plain
  qualifiers : ∀ q ∈ r.qualifiers, q.Plain
  body : ∀ line ∈ r.body, line.Plain

/-- The tokens from the parameters up to the body. -/
def headerTokens (r : Routine) : List Token :=
  r.head.parameters ++ r.qualifiers.flatMap Line.tokens

/-- The tokens of the statements. -/
def bodyTokens (r : Routine) : List Token :=
  r.body.flatMap Line.tokens

/-- The tokens of a routine. -/
def tokens (r : Routine) : List Token :=
  r.head.opening ++ (r.headerTokens ++ mark '{' :: (r.bodyTokens ++ [mark '}']))

/-- The declaration that a routine is. -/
def declaration (r : Routine) : Declaration :=
  ⟨r.head.name, r.headerTokens, r.bodyTokens⟩

variable {r : Routine}

lemma Plain.unquoted (h : r.Plain) : ∀ line ∈ r.lines, line.Unquoted := by
  have hmargin : ∀ level, (Piece.code (Line.margin level)).Unquoted := by
    intro level hquote
    exact absurd (Line.isWhitespace_of_mem_margin hquote) (by decide)
  have hindent : ∀ (level : Nat) (line : Line), line.Unquoted → (Line.indent level line).Unquoted :=
    fun level _ hline => Line.unquoted_cons.mpr ⟨hmargin level, hline⟩
  have hbrace : Line.Unquoted [.code "\x7b"] ∧ Line.Unquoted [.code " \x7b"] ∧
      Line.Unquoted [.code "\x7d"] ∧ (Piece.code " ").Unquoted := by decide
  have hbody : ∀ line ∈ r.body.map (Line.indent 2), line.Unquoted :=
    List.forall_mem_map.mpr fun line hline => hindent 2 line (h.body line hline).1
  have hheader : ∀ line ∈ r.header, line.Unquoted := by
    unfold header
    split_ifs
    · simp only [List.cons_append, List.forall_mem_cons, List.forall_mem_append,
        List.forall_mem_map]
      exact ⟨hindent 1 _ h.head.unquoted, fun q hq => hindent 2 q (h.qualifiers q hq).1,
        hindent 1 _ hbrace.1, by simp⟩
    · refine List.forall_mem_singleton.mpr (hindent 1 _ ?_)
      refine Line.unquoted_append.mpr ⟨Line.unquoted_append.mpr ⟨h.head.unquoted, ?_⟩, hbrace.2.1⟩
      intro p hp
      obtain ⟨q, hq, hpq⟩ := List.mem_flatMap.mp hp
      exact Line.unquoted_cons.mpr ⟨hbrace.2.2.2, (h.qualifiers q hq).1⟩ p hpq
  have hend : ∀ line ∈ [Line.indent 1 [.code "\x7d"]], line.Unquoted :=
    List.forall_mem_singleton.mpr (hindent 1 _ hbrace.2.2.1)
  exact List.forall_mem_append.mpr ⟨List.forall_mem_append.mpr ⟨hheader, hbody⟩, hend⟩

/-- On one line, what follows the head starts with a blank. -/
lemma parts_of_mem_head? (qs : List Line) :
    ∀ c ∈ (Line.blank (qs.flatMap (fun q => .code " " :: q) ++ [.code " \x7b"])).chars.head?,
      Token.Parts c := by
  intro c hc
  have hblank : c = ' ' := by
    cases qs <;> simpa [Piece.blank, eq_comm] using hc
  subst hblank
  decide

lemma tokens_qualifiers (qs : List Line) :
    Line.tokens (qs.flatMap (fun q => .code " " :: q) ++ [.code " \x7b"]) =
      qs.flatMap Line.tokens ++ [mark '{'] := by
  have hblank : ∀ c ∈ " ".toList, c.isWhitespace = true := by decide
  induction qs with
  | nil => decide
  | cons q qs ih =>
    have hq : Line.tokens (.code " " :: q) = q.tokens := Token.ofChars_blanks_append hblank _
    rw [List.flatMap_cons, List.append_assoc, List.flatMap_cons, List.append_assoc, ← ih,
      Line.tokens_append (parts_of_mem_head? qs), hq]

/-- The tokens of a routine do not tell whether its header is wrapped. -/
lemma tokens_lines (h : r.Plain) : r.lines.flatMap Line.tokens = r.tokens := by
  have hbraces : Line.tokens [.code "\x7b"] = [mark '{'] ∧
      Line.tokens [.code "\x7d"] = [mark '}'] := by
    decide
  have hindent : ∀ (level : Nat) (lines : List Line),
      (lines.map (Line.indent level)).flatMap Line.tokens = lines.flatMap Line.tokens := by
    intro level lines
    rw [List.flatMap_map]
    exact List.flatMap_congr fun line _ => Line.tokens_indent level line
  have hheader : r.header.flatMap Line.tokens =
      r.head.opening ++ (r.headerTokens ++ [mark '{']) := by
    unfold header
    split_ifs
    -- wrapped, every part has a line of its own; else a blank stands in front of each part
    · rw [List.flatMap_append, List.flatMap_cons, Line.tokens_indent, hindent,
        List.flatMap_singleton, Line.tokens_indent, Head.tokens_line h.head, hbraces.1]
      simp [headerTokens]
    · rw [List.flatMap_singleton, Line.tokens_indent, List.append_assoc,
        Line.tokens_append (parts_of_mem_head? _), Head.tokens_line h.head, tokens_qualifiers]
      simp [headerTokens]
  rw [lines, List.flatMap_append, List.flatMap_append, hheader, hindent, List.flatMap_singleton,
    Line.tokens_indent, hbraces.2]
  simp [tokens, bodyTokens]

lemma Plain.quiet_header (h : r.Plain) : Quiet r.headerTokens :=
  quiet_append.mpr ⟨h.head.quiet_parameters, quiet_flatMap fun q hq => (h.qualifiers q hq).2⟩

lemma Plain.quiet_body (h : r.Plain) : Quiet r.bodyTokens :=
  quiet_flatMap fun line hline => (h.body line hline).2

/-- After its opening a routine holds no word that begins a declaration. -/
lemma Plain.not_mem_rest (h : r.Plain) {k : String} (hk : k ∈ keywords) :
    word k ∉ r.headerTokens ++ mark '{' :: (r.bodyTokens ++ [mark '}']) := by
  simp only [List.mem_append, List.mem_cons, List.not_mem_nil, or_false, not_or]
  exact ⟨h.quiet_header.word_not_mem hk, by simp, h.quiet_body.word_not_mem hk, by simp⟩

end Routine

end Solidity
end TokenLaunch
