/-
# Tokens

The code of a source text as a list of tokens.  A word is a longest run of identifier characters,
every other character that is not blank is a mark of its own, and blanks only separate.  A literal
shows as its two quotes.

Tokens of a text that is put together are the tokens of its parts wherever the parts meet at a
character that belongs to no word (`ofChars_append`, `ofChars_append_of_end`); so the tokens of
lines are the tokens of each line in turn (`tokens_textChars`).
-/
import TokenLaunch.Proofs.Source.Scan
import TokenLaunch.Solidity.Identifier

namespace TokenLaunch
namespace Solidity

/-- A token of the code. -/
inductive Token
  /-- A keyword, a name or a number. -/
  | word (text : String)
  /-- A character of punctuation. -/
  | mark (c : Char)
deriving DecidableEq

namespace Token

/-- Close the word that stands in front of the tokens. -/
def close : List Char × List Token → List Token
  | ([], ts) => ts
  | (c :: w, ts) => word (String.ofList (c :: w)) :: ts

/-- Take in the character in front of a text: the open word at its start, and the tokens after. -/
def push (c : Char) (acc : List Char × List Token) : List Char × List Token :=
  if Identifier.isPart c then (c :: acc.1, acc.2)
  else if c.isWhitespace then ([], close acc)
  else ([], mark c :: close acc)

/-- The tokens of a text without literals. -/
def ofChars (cs : List Char) : List Token :=
  close (cs.foldr push ([], []))

/-- A character that stands in no word. -/
def Parts (c : Char) : Prop :=
  Identifier.isPart c = false

instance : DecidablePred Parts :=
  fun c => inferInstanceAs (Decidable (Identifier.isPart c = false))

lemma close_append (w : List Char) (ts us : List Token) :
    close (w, ts ++ us) = close (w, ts) ++ us := by
  cases w <;> rfl

lemma push_append (c : Char) (w : List Char) (ts us : List Token) :
    push c (w, ts ++ us) = ((push c (w, ts)).1, (push c (w, ts)).2 ++ us) := by
  unfold push
  split_ifs
  · rfl
  · rw [close_append]
  · rw [close_append, List.cons_append]

lemma foldr_push (a : List Char) (us : List Token) :
    a.foldr push ([], us) = ((a.foldr push ([], [])).1, (a.foldr push ([], [])).2 ++ us) := by
  induction a with
  | nil => rfl
  | cons c a ih => rw [List.foldr_cons, List.foldr_cons, ih, push_append]

lemma foldr_push_of_parts {b : List Char} (h : ∀ c ∈ b.head?, Parts c) :
    b.foldr push ([], []) = ([], ofChars b) := by
  cases b with
  | nil => rfl
  | cons c b =>
    have hc : Identifier.isPart c = false := h c rfl
    simp only [ofChars, List.foldr_cons, push, hc, Bool.false_eq_true, if_false]
    split_ifs <;> rfl

@[simp] lemma ofChars_nil : ofChars [] = [] := rfl

/-- A text that starts with no word begins new tokens. -/
lemma ofChars_append {a b : List Char} (h : ∀ c ∈ b.head?, Parts c) :
    ofChars (a ++ b) = ofChars a ++ ofChars b := by
  rw [ofChars, List.foldr_append, foldr_push_of_parts h, foldr_push, close_append]
  rfl

lemma ofChars_cons {c : Char} (h : Parts c) (cs : List Char) :
    ofChars (c :: cs) = (if c.isWhitespace then [] else [mark c]) ++ ofChars cs := by
  have hc : Identifier.isPart c = false := h
  simp only [ofChars, List.foldr_cons, push, hc, Bool.false_eq_true, if_false]
  split_ifs <;> rfl

/-- A text that ends with no word is followed by new tokens. -/
lemma ofChars_append_of_end {a b : List Char} (h : ∀ c ∈ a.getLast?, Parts c) :
    ofChars (a ++ b) = ofChars a ++ ofChars b := by
  induction a using List.reverseRecOn with
  | nil => rfl
  | append_singleton a c _ =>
    have hc : Parts c := h c (by simp)
    have hb : ofChars (a ++ c :: b) = ofChars a ++ ofChars (c :: b) :=
      ofChars_append (by simpa using hc)
    have hsingle : ofChars (a ++ [c]) = ofChars a ++ ofChars [c] :=
      ofChars_append (by simpa using hc)
    rw [List.append_assoc, List.singleton_append, hb, hsingle, ofChars_cons hc b,
      ofChars_cons hc [], ofChars_nil]
    simp

/-- The tokens of a text that is spelled out. -/
lemma ofChars_spelled {text : String} {cs : List Char} {ts : List Token}
    (h : text = String.ofList cs) (hts : ofChars cs = ts) : ofChars text.toList = ts := by
  rw [toList_spelled h, hts]

/-- A run of identifier characters is one word. -/
lemma ofChars_word {w : List Char} (hne : w ≠ []) (h : ∀ c ∈ w, Identifier.isPart c = true) :
    ofChars w = [word (String.ofList w)] := by
  have hfold : ∀ {v : List Char}, (∀ c ∈ v, Identifier.isPart c = true) →
      v.foldr push ([], []) = (v, []) := by
    intro v hv
    induction v with
    | nil => rfl
    | cons c v ih =>
      obtain ⟨hc, hv⟩ := List.forall_mem_cons.mp hv
      rw [List.foldr_cons, ih hv, push, if_pos hc]
  obtain ⟨c, v, rfl⟩ := List.exists_cons_of_ne_nil hne
  rw [ofChars, hfold h]
  rfl

lemma parts_of_isWhitespace {c : Char} (h : c.isWhitespace = true) : Parts c := by
  have hcases : ((c = ' ' ∨ c = '\t') ∨ c = '\r') ∨ c = '\n' := by
    simpa [Char.isWhitespace] using h
  rcases hcases with ((rfl | rfl) | rfl) | rfl <;> decide

/-- Blanks in front of a text leave no token. -/
lemma ofChars_blanks_append {a : List Char} (h : ∀ c ∈ a, c.isWhitespace = true) (b : List Char) :
    ofChars (a ++ b) = ofChars b := by
  induction a with
  | nil => rfl
  | cons c a ih =>
    obtain ⟨hc, ha⟩ := List.forall_mem_cons.mp h
    rw [List.cons_append, ofChars_cons (parts_of_isWhitespace hc), ih ha, if_pos hc,
      List.nil_append]

end Token

namespace Line

/-- The tokens of a line's code. -/
def tokens (line : Line) : List Token :=
  Token.ofChars line.blank.chars

@[simp] lemma tokens_empty : empty.tokens = [] := rfl

lemma tokens_ofCode (text : String) : (ofCode text).tokens = Token.ofChars text.toList := by
  simp [tokens, ofCode, Piece.blank]

lemma tokens_append {a b : Line} (h : ∀ c ∈ b.blank.chars.head?, Token.Parts c) :
    tokens (a ++ b) = tokens a ++ tokens b := by
  rw [tokens, blank_append, chars_append, Token.ofChars_append h]
  rfl

lemma isWhitespace_of_mem_margin {level : Nat} {c : Char} (h : c ∈ (margin level).toList) :
    c.isWhitespace = true := by
  induction level with
  | zero => simp [margin] at h
  | succ level ih =>
    have hblanks : ∀ c ∈ "    ".toList, c.isWhitespace = true := by decide
    rw [margin, String.toList_append, List.mem_append] at h
    -- the blanks of this level, or the margin of the level below
    rcases h with h | h
    · exact hblanks c h
    · exact ih h

/-- Margins leave no token. -/
@[simp] lemma tokens_indent (level : Nat) (line : Line) :
    (indent level line).tokens = line.tokens := by
  rw [tokens, indent, blank_cons, chars_cons]
  exact Token.ofChars_blanks_append (fun _ hc => isWhitespace_of_mem_margin hc) _

/-- The tokens of lines are the tokens of each line in turn. -/
theorem tokens_textChars (lines : List Line) :
    Token.ofChars (textChars (lines.map blank)) = lines.flatMap tokens := by
  induction lines with
  | nil => rfl
  | cons line lines ih =>
    have hfeed : Token.Parts '\n' := by decide
    rw [List.map_cons, textChars_cons, Token.ofChars_append (by simpa using hfeed),
      Token.ofChars_cons hfeed, ih, List.flatMap_cons, tokens]
    rfl

end Line

/-- The tokens of a source text outside its literals. -/
def tokensOf (text : String) : List Token :=
  Token.ofChars (codeOf text).toList

/-- The tokens of a text made of lines whose quotes all belong to literals. -/
lemma tokensOf_text {lines : List Line} (h : ∀ line ∈ lines, line.Unquoted) :
    tokensOf (Line.text lines) = lines.flatMap Line.tokens := by
  rw [tokensOf, codeOf, Line.text, String.toList_ofList, String.toList_ofList,
    Line.code_textChars h, Line.tokens_textChars]

end Solidity
end TokenLaunch
