/-
# Reading a source file

What the readers find in the text of a plain source file, one whose names are names and whose
members declare nothing but themselves:

* the routines that are read off the text are the routines of the file (`functions_text`,
  `constructors_text`);
* the constants and the contract are those of the file (`constants_text`, `contracts_text`);
* whatever else is read is read member by member (`occurrences_text`).
-/
import TokenLaunch.Proofs.Source.Routine

namespace TokenLaunch
namespace Solidity

open Token (ofChars word mark)

/-! ## Members -/

namespace Member

/-- A member whose names are names and which declares nothing but itself. -/
def Plain : Member → Prop
  | nameHashes names => ∀ name ∈ names, IsName name
  | .variable declaration => (Line.ofCode (declaration ++ ";")).Plain
  | routine r => r.Plain
  | remark text => (Line.ofCode ("// " ++ text)).Plain

/-- The tokens of a member. -/
def tokens (m : Member) : List Token :=
  m.lines.flatMap Line.tokens

/-- The tokens of a constant. -/
def nameHashTokens (name : String) : List Token :=
  [word "bytes32", word "public", word "constant", word name, mark '=', word "keccak256", mark '(',
    mark '"', mark '"', mark ')', mark ';']

lemma tokens_nameHash {name : String} (h : IsName name) :
    (nameHash name).tokens = nameHashTokens name := by
  have hblank : Token.Parts ' ' := by decide
  have hchars : Line.chars (Line.blank
      [.code ("bytes32 public constant " ++ name ++ " = keccak256("), .literal name, .code ");"]) =
        "bytes32 public constant ".toList ++ (name.toList ++
          ' ' :: ("= keccak256(".toList ++ Literal.quoteChars [] ++ ");".toList)) := by
    simp [Piece.blank]
  have hstart : ofChars "bytes32 public constant ".toList =
      [word "bytes32", word "public", word "constant"] :=
    Token.ofChars_spelled rfl (by decide)
  have hend : ofChars (' ' :: ("= keccak256(".toList ++ Literal.quoteChars [] ++ ");".toList)) =
      [mark '=', word "keccak256", mark '(', mark '"', mark '"', mark ')', mark ';'] := by
    decide
  rw [nameHash, Line.tokens_indent, Line.tokens, hchars, Token.ofChars_append_of_end (by decide),
    Token.ofChars_append (by simpa using hblank), hstart, hend, h.tokens]
  rfl

lemma tokens_nameHashes {names : List String} (h : ∀ name ∈ names, IsName name) :
    (nameHashes names).tokens = names.flatMap nameHashTokens := by
  rw [tokens, lines, List.flatMap_map]
  exact List.flatMap_congr fun name hname => tokens_nameHash (h name hname)

lemma Plain.unquoted {m : Member} (h : m.Plain) : ∀ line ∈ m.lines, line.Unquoted := by
  have hmargin : (Piece.code (Line.margin 1)).Unquoted := by decide
  have hopen : '"' ∉ "bytes32 public constant ".toList ∧ '"' ∉ " = keccak256(".toList ∧
      '"' ∉ ");".toList := by decide
  cases m with
  | nameHashes names =>
    refine List.forall_mem_map.mpr fun name hname => Line.unquoted_cons.mpr ⟨hmargin, ?_⟩
    have hquote := (h name hname).unquoted
    simp only [Line.unquoted_cons, Line.unquoted_nil, Piece.Unquoted, String.toList_append,
      List.mem_append, not_or, and_true, true_and]
    exact ⟨⟨⟨hopen.1, hquote⟩, hopen.2.1⟩, hopen.2.2⟩
  | «variable» declaration =>
    exact List.forall_mem_singleton.mpr (Line.unquoted_cons.mpr ⟨hmargin, h.1⟩)
  | routine r => exact Routine.Plain.unquoted h
  | remark text => exact List.forall_mem_singleton.mpr (Line.unquoted_cons.mpr ⟨hmargin, h.1⟩)

/-- The functions among the members. -/
def functions : Member → List Declaration
  | routine r => if r.head = .creation then [] else [r.declaration]
  | _ => []

/-- The constructors among the members. -/
def constructors : Member → List Declaration
  | routine r => if r.head = .creation then [r.declaration] else []
  | _ => []

/-- The constants among the members. -/
def constants : Member → List String
  | nameHashes names => names
  | _ => []

/-- The keyword of the declarations that a member holds. -/
def keyword? : Member → Option String
  | nameHashes _ => some "constant"
  | routine r => some r.head.keyword
  | _ => none

variable {m : Member}

lemma tokens_variable (declaration : String) :
    tokens (.variable declaration) = (Line.ofCode (declaration ++ ";")).tokens := by
  rw [tokens, lines, List.flatMap_singleton, Line.tokens_indent]
  rfl

lemma tokens_remark (text : String) :
    tokens (remark text) = (Line.ofCode ("// " ++ text)).tokens := by
  rw [tokens, lines, List.flatMap_singleton, Line.tokens_indent]
  rfl

lemma tokens_routine {r : Routine} (h : r.Plain) : tokens (routine r) = r.tokens :=
  Routine.tokens_lines h

/-- A member has nothing for the readers of other declarations. -/
lemma Plain.reads_nothing {α : Type} {k : String} {read : List Token → Option α} (h : m.Plain)
    (hk : k ∈ keywords) (hm : k ∉ m.keyword?) : Reads (word k) read m.tokens [] := by
  refine reads_of_not_mem ?_
  cases m with
  | nameHashes names =>
    have hfixed : ∀ k ∈ keywords, k ≠ "constant" → word k ∉ nameHashTokens "" := by
      decide
    have hother := hfixed k hk fun heq => hm (by rw [heq]; rfl)
    rw [tokens_nameHashes h]
    intro hmem
    obtain ⟨name, hname, hmem⟩ := List.mem_flatMap.mp hmem
    have hne := (h name hname).ne_of_mem hk
    simp only [nameHashTokens, List.mem_cons, List.not_mem_nil, or_false, not_or,
      Token.word.injEq] at hmem hother
    tauto
  | «variable» declaration =>
    rw [tokens_variable]
    exact h.2.word_not_mem hk
  | remark text =>
    rw [tokens_remark]
    exact h.2.word_not_mem hk
  | routine r =>
    have hr : r.Plain := h
    have hne : k ≠ r.head.keyword := fun heq => hm (by rw [heq]; rfl)
    rw [tokens_routine hr, Routine.tokens, List.mem_append, not_or]
    exact ⟨hr.head.not_mem_opening hk hne, hr.not_mem_rest hk⟩

lemma Plain.functions (h : m.Plain) :
    Reads (word "function") Reader.function? m.tokens m.functions := by
  have hk : "function" ∈ keywords := by decide
  cases m with
  | nameHashes names => exact h.reads_nothing hk (by simp [keyword?])
  | «variable» declaration => exact h.reads_nothing hk (by simp [keyword?])
  | remark text => exact h.reads_nothing hk (by simp [keyword?])
  | routine r =>
    have hr : r.Plain := h
    cases hhead : r.head with
    | creation =>
      rw [functions, if_pos hhead]
      exact h.reads_nothing hk (by simp [keyword?, hhead, Head.keyword])
    | function name parameters =>
      have hopen : mark '{' ∉ r.headerTokens := hr.quiet_header _ (by decide)
      have hclose : mark '}' ∉ r.bodyTokens := hr.quiet_body _ (by decide)
      have hname : IsName name := by
        have hh := hr.head
        rw [hhead] at hh
        exact hh.1
      have hnot : word "function" ∉ word name :: (r.headerTokens ++ mark '{' ::
          (r.bodyTokens ++ [mark '}'])) :=
        List.not_mem_cons_of_ne_of_not_mem
          (fun heq => hname.ne_of_mem hk (Token.word.inj heq)) (hr.not_mem_rest hk)
      have htokens : r.tokens = word "function" :: (word name :: (r.headerTokens ++ mark '{' ::
          (r.bodyTokens ++ [mark '}']))) := by
        rw [Routine.tokens, hhead]
        rfl
      rw [tokens_routine hr, htokens, functions, if_neg (by simp [hhead])]
      -- the routine ends with its last brace, and what follows is not looked at
      refine reads_key_cons (x := some r.declaration) hnot fun rest => ?_
      simp only [List.cons_append, List.append_assoc, List.nil_append]
      rw [Reader.function?, Reader.routine_append name hopen hclose, Routine.declaration, hhead,
        Head.name]

lemma Plain.constructors (h : m.Plain) :
    Reads (word "constructor") (fun ts => some (Reader.routine "constructor" ts)) m.tokens
      m.constructors := by
  have hk : "constructor" ∈ keywords := by decide
  cases m with
  | nameHashes names => exact h.reads_nothing hk (by simp [keyword?])
  | «variable» declaration => exact h.reads_nothing hk (by simp [keyword?])
  | remark text => exact h.reads_nothing hk (by simp [keyword?])
  | routine r =>
    have hr : r.Plain := h
    cases hhead : r.head with
    | function name parameters =>
      rw [constructors, if_neg (by simp [hhead])]
      exact h.reads_nothing hk (by simp [keyword?, hhead, Head.keyword])
    | creation =>
      have hopen : mark '{' ∉ r.headerTokens := hr.quiet_header _ (by decide)
      have hclose : mark '}' ∉ r.bodyTokens := hr.quiet_body _ (by decide)
      have hnot := hr.not_mem_rest hk
      have htokens : r.tokens = word "constructor" :: (r.headerTokens ++ mark '{' ::
          (r.bodyTokens ++ [mark '}'])) := by
        rw [Routine.tokens, hhead]
        rfl
      rw [tokens_routine hr, htokens, constructors, if_pos hhead]
      refine reads_key_cons (x := some r.declaration) hnot fun rest => ?_
      simp only [List.cons_append, List.append_assoc, List.nil_append]
      rw [Reader.routine_append _ hopen hclose, Routine.declaration, hhead, Head.name]

lemma Plain.constants (h : m.Plain) :
    Reads (word "constant") Reader.constant? m.tokens m.constants := by
  have hk : "constant" ∈ keywords := by decide
  cases m with
  | «variable» declaration => exact h.reads_nothing hk (by simp [keyword?])
  | remark text => exact h.reads_nothing hk (by simp [keyword?])
  | routine r =>
    refine h.reads_nothing hk ?_
    cases hhead : r.head <;> simp [keyword?, hhead, Head.keyword]
  | nameHashes names =>
    have hsingle : ∀ name ∈ names,
        Reads (word "constant") Reader.constant? (nameHashTokens name) [name] := by
      intro name hname
      have hfront : word "constant" ∉ [word "bytes32", word "public"] := by decide
      have hnot : word "constant" ∉ word name :: [mark '=', word "keccak256", mark '(', mark '"',
          mark '"', mark ')', mark ';'] :=
        List.not_mem_cons_of_ne_of_not_mem
          (fun heq => (h name hname).ne_of_mem hk (Token.word.inj heq)) (by decide)
      have hname : Reads (word "constant") Reader.constant? (word "constant" :: word name ::
          [mark '=', word "keccak256", mark '(', mark '"', mark '"', mark ')', mark ';']) [name] :=
        reads_key_cons (x := some name) hnot fun _ => rfl
      exact (reads_of_not_mem hfront).append hname
    have hread := reads_flatMap hsingle
    rw [List.flatMap_singleton'] at hread
    rw [tokens_nameHashes h]
    exact hread

end Member

/-! ## Files -/

namespace Line

lemma spaced_cons_cons (block next : List Line) (rest : List (List Line)) :
    spaced (block :: next :: rest) = block ++ empty :: spaced (next :: rest) := rfl

lemma forall_mem_spaced {P : Line → Prop} (hempty : P empty) {blocks : List (List Line)}
    (h : ∀ block ∈ blocks, ∀ line ∈ block, P line) : ∀ line ∈ spaced blocks, P line := by
  match blocks with
  | [] => simp [spaced]
  | [block] => exact h block (by simp)
  | block :: next :: rest =>
    have ih : ∀ line ∈ spaced (next :: rest), P line :=
      forall_mem_spaced hempty fun b hb => h b (List.mem_cons_of_mem _ hb)
    rw [spaced_cons_cons]
    exact List.forall_mem_append.mpr ⟨h block (by simp), List.forall_mem_cons.mpr ⟨hempty, ih⟩⟩

/-- The lines between blocks leave no token. -/
lemma tokens_spaced (blocks : List (List Line)) :
    (spaced blocks).flatMap tokens = blocks.flatMap fun block => block.flatMap tokens := by
  match blocks with
  | [] => rfl
  | [block] => simp [spaced]
  | block :: next :: rest =>
    have ih := tokens_spaced (next :: rest)
    rw [spaced_cons_cons, List.flatMap_append, List.flatMap_cons, ih, tokens_empty,
      List.nil_append]
    rfl

end Line

namespace SourceFile

/-- A file whose names are names and whose members declare nothing but themselves. -/
structure Plain (f : SourceFile) : Prop where
  name : IsName f.name
  parents : ∀ parent ∈ f.parents, IsName parent
  members : ∀ m ∈ f.members, m.Plain

/-- The tokens in front of the imports. -/
def marker : List Token :=
  (Line.ofCode licenseMarker).tokens ++ (Line.ofCode pragma).tokens

/-- The tokens of an import, whatever is imported. -/
def importTokens : List Token :=
  [word "import", mark '"', mark '"', mark ';']

/-- The tokens of the line that opens the contract. -/
def declarationTokens (f : SourceFile) : List Token :=
  word "contract" :: word f.name :: word "is" :: (listing f.parents ++ [mark '{'])

variable {f : SourceFile}

lemma tokens_importLine (path : String) : (importLine path).tokens = importTokens := by
  have hclosed : (importLine "").tokens = importTokens := by decide
  exact hclosed

lemma tokens_declaration (h : f.Plain) : f.declaration.tokens = f.declarationTokens := by
  have hblank : Token.Parts ' ' := by decide
  have hchars : f.declaration.blank.chars =
      "contract ".toList ++ (f.name.toList ++ ' ' :: ("is ".toList ++
        ((", ".intercalate f.parents).toList ++ ' ' :: ['{']))) := by
    simp [declaration, Piece.blank]
  have hcontract : ofChars "contract ".toList = [word "contract"] :=
    Token.ofChars_spelled rfl (by decide)
  have his : ofChars "is ".toList = [word "is"] := Token.ofChars_spelled rfl (by decide)
  have hbrace : ofChars [' ', '{'] = [mark '{'] := by decide
  rw [Line.tokens, hchars, Token.ofChars_append_of_end (by decide), hcontract,
    Token.ofChars_append (by simpa using hblank), h.name.tokens, Token.ofChars_cons hblank,
    Token.ofChars_append_of_end (by decide), his, Token.ofChars_append (by simpa using hblank),
    tokens_intercalate h.parents, hbrace]
  rfl

lemma Plain.unquoted (h : f.Plain) : ∀ line ∈ f.lines, line.Unquoted := by
  have hfixed : (Line.ofCode licenseMarker).Unquoted ∧ (Line.ofCode pragma).Unquoted ∧
      Line.empty.Unquoted ∧ (Line.ofCode "\x7d").Unquoted := by decide
  have himport : ∀ path, (importLine path).Unquoted := by
    simp [importLine, Piece.Unquoted]
  have hdeclaration : f.declaration.Unquoted := by
    have hcode : (Piece.code "contract ").Unquoted ∧ (Piece.code " is ").Unquoted ∧
        (Piece.code " \x7b").Unquoted := by decide
    simp only [declaration, Line.unquoted_cons, Line.unquoted_nil, and_true]
    exact ⟨hcode.1, h.name.unquoted, hcode.2.1, unquoted_intercalate h.parents, hcode.2.2⟩
  have hmembers : ∀ line ∈ Line.spaced (f.members.map Member.lines), line.Unquoted :=
    Line.forall_mem_spaced hfixed.2.2.1
      (List.forall_mem_map.mpr fun m hm => (h.members m hm).unquoted)
  intro line hline
  simp only [lines, List.mem_append, List.mem_cons, List.mem_map, List.not_mem_nil,
    or_false] at hline
  rcases hline with (((hline | ⟨path, -, rfl⟩) | rfl | rfl) | hline) | rfl
  · rcases hline with rfl | rfl | rfl
    · exact hfixed.1
    · exact hfixed.2.1
    · exact hfixed.2.2.1
  · exact himport path
  · exact hfixed.2.2.1
  · exact hdeclaration
  · exact hmembers line hline
  · exact hfixed.2.2.2

/-- The tokens of a file, part by part. -/
lemma tokens_text (h : f.Plain) :
    tokensOf f.text = marker ++ f.imports.flatMap (fun _ => importTokens) ++ f.declarationTokens ++
      f.members.flatMap Member.tokens ++ [mark '}'] := by
  have himports : (f.imports.map importLine).flatMap Line.tokens =
      f.imports.flatMap fun _ => importTokens := by
    rw [List.flatMap_map]
    exact List.flatMap_congr fun path _ => tokens_importLine path
  have hmembers : (Line.spaced (f.members.map Member.lines)).flatMap Line.tokens =
      f.members.flatMap Member.tokens := by
    rw [Line.tokens_spaced, List.flatMap_map]
    rfl
  have hend : (Line.ofCode "\x7d").tokens = [mark '}'] := by decide
  rw [text, tokensOf_text h.unquoted, lines]
  simp only [List.flatMap_append, List.flatMap_cons, List.flatMap_nil, himports, hmembers, hend,
    tokens_declaration h, Line.tokens_empty, List.nil_append, List.append_nil, marker]

/-- What a reader finds in a file: something in the line that opens the contract, and what it
finds in each member. -/
lemma occurrences_text {α : Type} {key : Token} {read : List Token → Option α} {xs : List α}
    {found : Member → List α} (h : f.Plain) (hfixed : key ∉ marker ++ importTokens ++ [mark '}'])
    (hdeclaration : Reads key read f.declarationTokens xs)
    (hmembers : ∀ m ∈ f.members, Reads key read m.tokens (found m)) :
    occurrences key read (tokensOf f.text) = xs ++ f.members.flatMap found := by
  simp only [List.mem_append, not_or] at hfixed
  have himports : key ∉ f.imports.flatMap (fun _ => importTokens) := by
    intro hmem
    obtain ⟨-, -, hmem⟩ := List.mem_flatMap.mp hmem
    exact hfixed.1.2 hmem
  have hfront : key ∉ marker ++ f.imports.flatMap (fun _ => importTokens) :=
    fun hmem => (List.mem_append.mp hmem).elim hfixed.1.1 himports
  have hread : Reads key read (tokensOf f.text) ([] ++ xs ++ f.members.flatMap found ++ []) := by
    rw [tokens_text h]
    exact (((reads_of_not_mem hfront).append hdeclaration).append (reads_flatMap hmembers)).append
      (reads_of_not_mem hfixed.2)
  rw [hread.occurrences_eq, List.nil_append, List.append_nil]

/-- The line that opens the contract declares the contract and nothing else. -/
lemma Plain.not_mem_declaration (h : f.Plain) {k : String} (hk : k ∈ keywords)
    (hcontract : k ≠ "contract") : word k ∉ f.declarationTokens := by
  have his : ∀ k ∈ keywords, k ≠ "is" := by decide
  have hparents := (quiet_listing h.parents).word_not_mem hk
  simp [declarationTokens, hcontract, h.name.ne_of_mem hk, his k hk, hparents]

/-- **The functions in the text are the functions of the file.** -/
theorem functions_text (h : f.Plain) :
    functions (tokensOf f.text) = f.members.flatMap Member.functions := by
  have hdeclaration : word "function" ∉ f.declarationTokens :=
    h.not_mem_declaration (by decide) (by decide)
  exact occurrences_text h (by decide) (reads_of_not_mem hdeclaration)
    fun m hm => (h.members m hm).functions

/-- **The constructors in the text are the constructors of the file.** -/
theorem constructors_text (h : f.Plain) :
    constructors (tokensOf f.text) = f.members.flatMap Member.constructors := by
  have hdeclaration : word "constructor" ∉ f.declarationTokens :=
    h.not_mem_declaration (by decide) (by decide)
  exact occurrences_text h (by decide) (reads_of_not_mem hdeclaration)
    fun m hm => (h.members m hm).constructors

/-- **The constants in the text are the constants of the file.** -/
theorem constants_text (h : f.Plain) :
    constants (tokensOf f.text) = f.members.flatMap Member.constants := by
  have hdeclaration : word "constant" ∉ f.declarationTokens :=
    h.not_mem_declaration (by decide) (by decide)
  exact occurrences_text h (by decide) (reads_of_not_mem hdeclaration)
    fun m hm => (h.members m hm).constants

/-- **The text declares one contract, the one of the file.** -/
theorem contracts_text (h : f.Plain) :
    contracts (tokensOf f.text) = [(f.name, listing f.parents)] := by
  have hk : "contract" ∈ keywords := by decide
  have hmembers : ∀ m ∈ f.members, Reads (word "contract") Reader.contract? m.tokens [] := by
    intro m hm
    refine (h.members m hm).reads_nothing hk ?_
    cases m with
    | routine r => cases hhead : r.head <;> simp [Member.keyword?, hhead, Head.keyword]
    | _ => simp [Member.keyword?]
  have hbrace : mark '{' ∉ listing f.parents := quiet_listing h.parents _ (by decide)
  have hnot : word "contract" ∉ word f.name :: word "is" :: (listing f.parents ++ [mark '{']) := by
    have hparents := (quiet_listing h.parents).word_not_mem hk
    simp [h.name.ne_of_mem hk, hparents]
  have hdeclaration : Reads (word "contract") Reader.contract? f.declarationTokens
      [(f.name, listing f.parents)] := by
    refine reads_key_cons (x := some (f.name, listing f.parents)) hnot fun rest => ?_
    simp only [List.cons_append, List.append_assoc, List.nil_append]
    exact Reader.contract?_append f.name hbrace rest
  have hread := occurrences_text h (by decide) hdeclaration hmembers
  have hnone : (f.members.flatMap fun _ => ([] : List (String × List Token))) = [] := by simp
  rw [contracts, hread, hnone, List.append_nil]

end SourceFile

end Solidity
end TokenLaunch
