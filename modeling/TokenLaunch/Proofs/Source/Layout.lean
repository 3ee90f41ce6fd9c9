/-
# The lines of a layout

Every line that a layout writes is plain: text of users stands in literals only, and no line
declares anything by accident.  The tokens of the lines that vary are given here as well, those of
constructor calls, statements, modifiers and override clauses.  Besides the modifiers and the
grants of the constructor no line has to do with access (`Calm`).
-/
import TokenLaunch.Contract.Bundle
import TokenLaunch.Proofs.Source.File

namespace TokenLaunch

open Solidity
open Token (ofChars word mark)

/-! ## Names -/

lemma Component.isName_name (c : Component) : IsName c.name := by
  cases c <;> exact IsName.of_spelled rfl (by decide)

lemma Capability.isName_role (c : Capability) : IsName c.role := by
  cases c <;> exact IsName.of_spelled rfl (by decide)

namespace Solidity.Identifier

lemma isPart_of_mem_stem {symbol : List Char} {c : Char} (h : c ∈ stem symbol) :
    isPart c = true := by
  have hfilter : ∀ c ∈ symbol.filter isPart, isPart c = true :=
    fun c hc => (List.mem_filter.mp hc).2
  rw [stem] at h
  cases hkept : symbol.filter isPart with
  | nil => simp [hkept, guardDigit] at h
  | cons d ds =>
    rw [hkept] at h hfilter
    rw [guardDigit] at h
    split_ifs at h
    · rcases List.mem_cons.mp h with rfl | h
      · decide
      · exact hfilter c h
    · exact hfilter c h

/-- The suffix tells a contract's name from every text that does not end with it. -/
lemma ofSymbol_ne {symbol suffix text : String} (h : ¬ suffix.toList <:+ text.toList) :
    ofSymbol symbol suffix ≠ text := by
  rintro rfl
  rw [toList_ofSymbol] at h
  exact h (List.suffix_append _ _)

/-- Whatever the symbol is, the contract's name is an identifier and no keyword. -/
lemma isName_ofSymbol (symbol : String) (k : Kind) :
    IsName (ofSymbol symbol k.catalogue.suffix) := by
  have hne : k.catalogue.suffix.toList ≠ [] := by cases k <;> decide
  have hparts : ∀ c ∈ k.catalogue.suffix.toList, isPart c = true := by cases k <;> decide
  refine ⟨by simp [hne], fun c hc => ?_, fun hmem => ?_⟩
  · rw [toList_ofSymbol, List.mem_append] at hc
    exact hc.elim isPart_of_mem_stem (hparts c)
  · -- a keyword would have to end with the suffix
    simp only [keywords, List.mem_cons, List.not_mem_nil, or_false] at hmem
    rcases hmem with h | h | h | h
    all_goals exact ofSymbol_ne (by cases k <;> decide) h

end Solidity.Identifier

lemma isDigit_of_mem_repr {n : Nat} {c : Char} (h : c ∈ n.repr.toList) : c.isDigit = true := by
  rw [Nat.toList_repr] at h
  exact Nat.isDigit_of_mem_toDigits (by decide) (by decide) h

/-- A number differs from every text with a character that is no digit. -/
lemma repr_ne {n : Nat} {text : String} {c : Char} (hc : c ∈ text.toList)
    (hdigit : c.isDigit = false) : n.repr ≠ text := by
  rintro rfl
  rw [isDigit_of_mem_repr hc] at hdigit
  exact Bool.noConfusion hdigit

lemma isName_repr (n : Nat) : IsName n.repr := by
  have hne : n.repr.toList ≠ [] := by simp
  have hc : 'c'.isDigit = false := by decide
  refine ⟨hne, fun c hc => ?_, fun hmem => ?_⟩
  · simp [Identifier.isPart, Char.isAlphanum, isDigit_of_mem_repr hc]
  · simp only [keywords, List.mem_cons, List.not_mem_nil, or_false] at hmem
    rcases hmem with h | h | h | h
    all_goals exact repr_ne (by decide) hc h

namespace Layout

/-! ## Lines that have nothing to do with access -/

/-- The words that enforce access or hand it out. -/
def accessWords : List String := ["onlyRole", "_grantRole", "onlyOwner"]

/-- A plain line that neither enforces access nor hands it out. -/
def Calm (line : Line) : Prop :=
  line.Plain ∧ ∀ name ∈ accessWords, word name ∉ line.tokens

instance (line : Line) : Decidable (Calm line) :=
  inferInstanceAs (Decidable (_ ∧ _))

lemma Calm.not_mem {line : Line} (h : Calm line) {name : String} (hname : name ∈ accessWords) :
    word name ∉ line.tokens :=
  h.2 name hname

/-- The values of literals play no part in this. -/
lemma calm_blank {line : Line} : Calm line.blank ↔ Calm line := by
  simp [Calm, Line.Plain, Line.tokens]

/-- A text of code that is calm. -/
def CalmText (cs : List Char) : Prop :=
  '"' ∉ cs ∧ Quiet (ofChars cs) ∧ ∀ name ∈ accessWords, word name ∉ ofChars cs

instance (cs : List Char) : Decidable (CalmText cs) :=
  inferInstanceAs (Decidable (_ ∧ _ ∧ _))

/-- A line of code that is spelled out. -/
lemma calm_ofCode {text : String} {cs : List Char} (h : text = String.ofList cs)
    (hcs : CalmText cs) : Calm (Line.ofCode text) := by
  rw [← toList_spelled h] at hcs
  refine ⟨⟨?_, ?_⟩, ?_⟩
  · simpa [Line.ofCode, Piece.Unquoted] using hcs.1
  · rw [Line.tokens_ofCode]
    exact hcs.2.1
  · rw [Line.tokens_ofCode]
    exact hcs.2.2

/-- No component is named for what has to do with access. -/
lemma component_not_mem_accessWords (c : Component) : c.name ∉ accessWords := by
  cases c <;> decide

/-! ## Constructor calls -/

/-- The tokens of an argument. -/
def argumentTokens : Argument → List Token
  | .text _ => [mark '"', mark '"']
  | .sender => [word "msg", mark '.', word "sender"]

lemma tokens_argument (a : Argument) : (argument a).tokens = argumentTokens a := by
  cases a with
  | sender => decide
  | text value =>
    have hclosed : (argument (.text "")).tokens = argumentTokens (.text "") := by decide
    exact hclosed

lemma tokens_arguments (arguments : List Argument) :
    (Line.joinWith ", " (arguments.map argument)).tokens =
      [mark ','].intercalate (arguments.map argumentTokens) := by
  have hcomma : Token.Parts ',' := by decide
  have hblank : ∀ c ∈ " ".toList, c.isWhitespace = true := by decide
  match arguments with
  | [] => rfl
  | [a] => simpa [Line.joinWith] using tokens_argument a
  | a :: b :: rest =>
    have ih := tokens_arguments (b :: rest)
    have hchars : (Line.blank (.code ", " :: Line.joinWith ", " ((b :: rest).map argument))).chars =
        ',' :: (" ".toList ++ (Line.joinWith ", " ((b :: rest).map argument)).blank.chars) := by
      simp [Piece.blank]
    have hrest : Line.tokens (.code ", " :: Line.joinWith ", " ((b :: rest).map argument)) =
        mark ',' :: [mark ','].intercalate ((b :: rest).map argumentTokens) := by
      rw [Line.tokens, hchars, Token.ofChars_cons hcomma, Token.ofChars_blanks_append hblank]
      rw [Line.tokens] at ih
      rw [ih]
      rfl
    have hjoin : Line.joinWith ", " ((a :: b :: rest).map argument) =
        argument a ++ (.code ", " :: Line.joinWith ", " ((b :: rest).map argument)) := rfl
    rw [hjoin, Line.tokens_append (by rw [hchars]; simpa using hcomma), hrest, tokens_argument]
    simp [List.intercalate_cons_cons]

lemma tokens_constructorCall (call : ConstructorCall) :
    (constructorCall call).tokens = word call.target.name :: mark '(' ::
      ([mark ','].intercalate (call.arguments.map argumentTokens) ++ [mark ')']) := by
  have hopen : Token.Parts '(' := by decide
  have hclose : Token.Parts ')' := by decide
  have hchars : (constructorCall call).blank.chars = call.target.name.toList ++
      '(' :: ((Line.joinWith ", " (call.arguments.map argument)).blank.chars ++ [')']) := by
    simp [constructorCall, Piece.blank]
  have harguments := tokens_arguments call.arguments
  rw [Line.tokens] at harguments
  rw [Line.tokens, hchars, Token.ofChars_append (by simpa using hopen), Token.ofChars_cons hopen,
    Token.ofChars_append (by simpa using hclose), harguments,
    call.target.isName_name.tokens]
  rfl

lemma mem_tokens_constructorCall {call : ConstructorCall} {t : Token}
    (h : t ∈ (constructorCall call).tokens) :
    t = word call.target.name ∨ t ∈ [mark '(', mark ')', mark ',', mark '"', mark '.', word "msg",
      word "sender"] := by
  rw [tokens_constructorCall, List.mem_cons, List.mem_cons, List.mem_append] at h
  rcases h with h | h | h | h
  · exact Or.inl h
  · exact Or.inr (by simp [h])
  · -- in the arguments, or a comma between two of them
    obtain ⟨ts, hts, ht⟩ := List.mem_flatten.mp h
    rcases eq_or_mem_of_mem_intersperse hts with rfl | hts
    · exact Or.inr (by simp [List.mem_singleton.mp ht])
    · obtain ⟨a, -, rfl⟩ := List.mem_map.mp hts
      refine Or.inr ?_
      cases a <;> simp only [argumentTokens, List.mem_cons, List.not_mem_nil, or_false] at ht ⊢ <;>
        tauto
  · exact Or.inr (by simp [List.mem_singleton.mp h])

lemma unquoted_joinWith {separator : String} (hseparator : (Piece.code separator).Unquoted)
    {lines : List Line} (h : ∀ line ∈ lines, line.Unquoted) :
    (Line.joinWith separator lines).Unquoted := by
  match lines with
  | [] => exact Line.unquoted_nil
  | [line] => exact h line (by simp)
  | line :: next :: rest =>
    have ih : (Line.joinWith separator (next :: rest)).Unquoted :=
      unquoted_joinWith hseparator fun l hl => h l (List.mem_cons_of_mem _ hl)
    exact Line.unquoted_append.mpr ⟨h line (by simp), Line.unquoted_cons.mpr ⟨hseparator, ih⟩⟩

/-- A constructor call is calm, whatever its string arguments are. -/
lemma calm_constructorCall (call : ConstructorCall) : Calm (constructorCall call) := by
  have hcode : (Piece.code "(").Unquoted ∧ (Piece.code ", ").Unquoted ∧
      (Piece.code ")").Unquoted := by decide
  have hname := call.target.isName_name
  have harguments : ∀ line ∈ call.arguments.map argument, line.Unquoted := by
    refine List.forall_mem_map.mpr fun a _ => ?_
    cases a with
    | text value => simp [argument, Piece.Unquoted]
    | sender => decide
  have hfixed : ∀ t ∈ structural ++ accessWords.map word,
      t ∉ [mark '(', mark ')', mark ',', mark '"', mark '.', word "msg", word "sender"] := by
    decide
  refine ⟨⟨?_, fun t ht hmem => ?_⟩, fun name haccess hmem => ?_⟩
  · simp only [constructorCall, List.cons_append, Line.unquoted_cons, Line.unquoted_append,
      Line.unquoted_nil, and_true]
    exact ⟨hname.unquoted, hcode.1, unquoted_joinWith hcode.2.1 harguments, hcode.2.2⟩
  · rcases mem_tokens_constructorCall hmem with rfl | hmem
    · exact hname.2.2 (word_mem_structural.mp ht)
    · exact hfixed t (List.mem_append_left _ ht) hmem
  · rcases mem_tokens_constructorCall hmem with h | hmem
    · exact component_not_mem_accessWords call.target (Token.word.inj h ▸ haccess)
    · exact hfixed _ (List.mem_append_right _ (List.mem_map_of_mem haccess)) hmem

/-! ## Statements -/

/-- The tokens of a grant. -/
def grantTokens (role : String) : List Token :=
  [word role, mark ',', word "msg", mark '.', word "sender"]

lemma tokens_grantRole (c : Capability) :
    (statement (.grantRole c)).tokens =
      word "_grantRole" :: mark '(' :: (grantTokens c.role ++ mark ')' :: [mark ';']) := by
  cases c <;> decide

lemma plain_grantRole (c : Capability) : (statement (.grantRole c)).Plain := by
  cases c <;> decide

/-- A grant has nothing else to do with access. -/
lemma not_mem_grantRole (c : Capability) {name : String} (hname : name ∈ accessWords)
    (hne : name ≠ "_grantRole") : word name ∉ (statement (.grantRole c)).tokens := by
  have hgrant : ∀ name ∈ accessWords, name ≠ "_grantRole" →
      word name ∉ word "_grantRole" :: mark '(' ::
        (grantTokens c.role ++ mark ')' :: [mark ';']) := by
    cases c <;> decide
  rw [tokens_grantRole]
  exact hgrant name hname hne

/-- The tokens of a number between code pieces. -/
lemma tokens_number {before after : String} (n : Nat)
    (hbefore : ∀ c ∈ before.toList.getLast?, Token.Parts c)
    (hafter : ∀ c ∈ after.toList.head?, Token.Parts c) :
    Line.tokens [.code before, .code n.repr, .code after] =
      ofChars before.toList ++ word n.repr :: ofChars after.toList := by
  have hchars : (Line.blank [.code before, .code n.repr, .code after]).chars =
      before.toList ++ (n.repr.toList ++ after.toList) := by
    simp [Piece.blank]
  rw [Line.tokens, hchars, Token.ofChars_append_of_end hbefore, Token.ofChars_append hafter,
    (isName_repr n).tokens]
  rfl

/-- A number between calm code pieces. -/
lemma calm_number {before after : String} (n : Nat)
    (hbefore : ∀ c ∈ before.toList.getLast?, Token.Parts c)
    (hafter : ∀ c ∈ after.toList.head?, Token.Parts c)
    (hcalm : Calm (Line.ofCode before) ∧ Calm (Line.ofCode after)) :
    Calm [.code before, .code n.repr, .code after] := by
  obtain ⟨⟨⟨hunquoted, hquiet⟩, haccess⟩, ⟨hunquoted', hquiet'⟩, haccess'⟩ := hcalm
  have hdigit : ∀ name ∈ accessWords, n.repr ≠ name := by
    -- each of the words has a letter, and a number has none
    have hletter : ∀ name ∈ accessWords, 'l' ∈ name.toList ∨ 'g' ∈ name.toList := by decide
    intro name hname
    rcases hletter name hname with h | h
    · exact repr_ne h (by decide)
    · exact repr_ne h (by decide)
  rw [Line.tokens_ofCode] at *
  refine ⟨⟨?_, ?_⟩, fun name hname => ?_⟩
  · simp only [Line.unquoted_cons, Line.unquoted_nil, and_true]
    exact ⟨hunquoted _ (by simp [Line.ofCode]), (isName_repr n).unquoted,
      hunquoted' _ (by simp [Line.ofCode])⟩
  · rw [tokens_number n hbefore hafter]
    exact quiet_append.mpr ⟨hquiet, quiet_append.mpr ⟨(isName_repr n).quiet, hquiet'⟩⟩
  · rw [tokens_number n hbefore hafter, List.mem_append, List.mem_cons, not_or, not_or]
    exact ⟨haccess name hname, fun h => hdigit name hname (Token.word.inj h).symm,
      haccess' name hname⟩

lemma calm_mintSupply (n : Nat) : Calm (statement (.mintSupply n.repr)) :=
  calm_number n (by decide) (by decide)
    ⟨calm_ofCode rfl (by decide), calm_ofCode rfl (by decide)⟩

/-! ## Modifiers and override clauses -/

/-- The tokens of the modifier that enforces a guard. -/
def guardTokens : Guard → List Token
  | .anyone => []
  | .owner => [word "onlyOwner"]
  | .role c => [word "onlyRole", mark '(', word c.role, mark ')']

lemma tokens_modifier (g : Guard) : (modifier g).flatMap Line.tokens = guardTokens g := by
  cases g with
  | anyone => rfl
  | owner => decide
  | role c => cases c <;> decide

lemma plain_modifier (g : Guard) : ∀ q ∈ modifier g, q.Plain := by
  cases g with
  | anyone => simp [modifier]
  | owner => decide
  | role c => cases c <;> decide

lemma tokens_overrideClause (components : List Component) :
    (Line.ofCode (overrideClause components)).tokens =
      word "override" :: mark '(' :: (listing (components.map Component.name) ++ [mark ')']) := by
  have hclose : Token.Parts ')' := by decide
  have hnames : ∀ name ∈ components.map Component.name, IsName name :=
    List.forall_mem_map.mpr fun c _ => c.isName_name
  have hchars : (overrideClause components).toList = "override(".toList ++
      ((", ".intercalate (components.map Component.name)).toList ++ [')']) := by
    simp [overrideClause]
  have hopen : ofChars "override(".toList = [word "override", mark '('] :=
    Token.ofChars_spelled rfl (by decide)
  rw [Line.tokens_ofCode, hchars, Token.ofChars_append_of_end (by decide), hopen,
    Token.ofChars_append (by simpa using hclose), tokens_intercalate hnames,
    Token.ofChars_cons hclose]
  rfl

lemma calm_overrideClause (components : List Component) :
    Calm (Line.ofCode (overrideClause components)) := by
  have hnames : ∀ name ∈ components.map Component.name, IsName name :=
    List.forall_mem_map.mpr fun c _ => c.isName_name
  have hunquoted : '"' ∉ "override(".toList ∧ '"' ∉ ")".toList := by decide
  have hround : Quiet [word "override", mark '('] ∧ Quiet [mark ')'] := by decide
  have hfixed : ∀ name ∈ accessWords,
      word name ∉ [word "override", mark '(', mark ')', mark ','] := by decide
  refine ⟨⟨?_, ?_⟩, fun name haccess => ?_⟩
  · simp only [Line.ofCode, overrideClause, Line.unquoted_cons, Line.unquoted_nil, and_true,
      Piece.Unquoted, String.toList_append, List.mem_append, not_or]
    exact ⟨⟨hunquoted.1, unquoted_intercalate hnames⟩, hunquoted.2⟩
  · rw [tokens_overrideClause]
    exact quiet_append.mpr ⟨hround.1, quiet_append.mpr ⟨quiet_listing hnames, hround.2⟩⟩
  · have hnot := hfixed name haccess
    simp only [List.mem_cons, List.not_mem_nil, or_false, not_or] at hnot
    rw [tokens_overrideClause]
    simp only [List.mem_cons, List.mem_append, List.not_mem_nil, or_false, not_or]
    refine ⟨hnot.1, hnot.2.1, fun h => ?_, hnot.2.2.1⟩
    rcases mem_listing h with h | ⟨component, hcomponent, h⟩
    · exact hnot.2.2.2 h
    · obtain ⟨c, -, rfl⟩ := List.mem_map.mp hcomponent
      exact component_not_mem_accessWords c (Token.word.inj h ▸ haccess)

end Layout
end TokenLaunch
