/-
# Legal literals

The language wants printable ASCII between the quotes of a plain literal, and a backslash only
where it begins an escape.  Literals keep to the second rule, whatever string they are made for, and
they hold no control character.  But they take characters beyond ASCII over as they stand, so a
literal is legal if and only if its string has none of these but what literals leave out
(`Literal.legal_body_iff`).

Of the literals of a source some are fixed, its imports and its roles, and these are legal.  The
others are the texts of users that the spec's kind has a place for (`mem_written_iff`), and legal or
not as these are (`Spec.literals_legal_iff`).
-/
import TokenLaunch.Proofs.Construction
import TokenLaunch.Proofs.Source.Imports

namespace TokenLaunch

open Solidity

/-! ## Literals -/

namespace Solidity.Literal

/-- Printable ASCII. -/
def Printable (c : Char) : Prop :=
  0x20 ≤ c.toNat ∧ c.toNat ≤ 0x7E

instance (c : Char) : Decidable (Printable c) :=
  inferInstanceAs (Decidable (_ ∧ _))

/-- What may stand between the quotes of a plain literal: printable ASCII, in which every backslash
begins an escape and no quote stands without a backslash. -/
def Legal (said : List Char) : Prop :=
  (∀ c ∈ said, Printable c) ∧ (decode? said).isSome = true

instance (said : List Char) : Decidable (Legal said) :=
  inferInstanceAs (Decidable (_ ∧ _))

/-- What is written for a character is printable ASCII, unless the character is beyond the two
blocks of control characters and what lies between them. -/
lemma printable_escape_iff (c : Char) : (∀ d ∈ escape c, Printable d) ↔ c.toNat < 0xA0 := by
  unfold escape
  split_ifs with hquote hslash hfeed hreturn htab hcontrol
  · subst hquote
    decide
  · subst hslash
    decide
  · subst hfeed
    decide
  · subst hreturn
    decide
  · subst htab
    decide
  -- control characters are left out
  · have hrange := Text.isControl_iff.mp hcontrol
    simp only [List.not_mem_nil, false_imp_iff, implies_true, true_iff]
    omega
  -- other characters stand as they are
  · have hrange := Text.isControl_iff.not.mp hcontrol
    rw [List.forall_mem_singleton, Printable]
    omega

/-- **When a literal is legal**: its string has no character beyond ASCII that it would keep. -/
theorem legal_body_iff (cs : List Char) : Legal (body cs) ↔ ∀ c ∈ cs, c.toNat < 0xA0 := by
  have hdecode : (decode? (body cs)).isSome = true := by
    rw [decode?_body]
    rfl
  rw [Legal, and_iff_left hdecode, body]
  simp only [List.mem_flatMap, forall_exists_index, and_imp]
  constructor
  · exact fun h c hc => (printable_escape_iff c).mp fun d hd => h d c hc hd
  · exact fun h d c hc hd => (printable_escape_iff c).mpr (h c hc) d hd

lemma legal_of_bare {cs : List Char} (h : ∀ c ∈ cs, Bare c) : Legal (body cs) := by
  refine (legal_body_iff cs).mpr fun c hc => ?_
  obtain ⟨-, hhigh, -⟩ := h c hc
  omega

end Solidity.Literal

lemma Capability.bare_role (c : Capability) : ∀ ch ∈ c.role.toList, Literal.Bare ch := by
  cases c <;> decide

/-! ## The literals of functions -/

namespace Layout

variable {layout : Kind} {b : Blueprint} {n : Normalized}

lemma flatMap_literals_ofCode (texts : List String) :
    (texts.map Line.ofCode).flatMap Line.literals = [] := by
  rw [List.flatMap_map]
  exact List.flatMap_eq_nil_iff.mpr fun _ _ => rfl

lemma literals_method {m : Method} {r : Routine} (hr : r ∈ methodFunctions layout b m) :
    (Member.routine r).literals = [] := by
  obtain ⟨name, parameters, body, wrapped, rfl, -⟩ := guardedBy_method r hr
  have hguard : (modifier m.guard).flatMap Line.literals = [] := by
    cases m.guard <;> rfl
  have hpublic : (Line.ofCode "public").literals = [] := rfl
  rw [Member.literals_routine, guarded, List.flatMap_cons, hpublic, hguard,
    flatMap_literals_ofCode]
  rfl

lemma literals_override (o : Override) :
    (Member.routine (overrideFunction layout o)).literals = [] := by
  have hqualifiers : (overrideFunction layout o).qualifiers =
      (hookVisibility o.hook ++ [overrideClause o.components] ++ hookReturns o.hook).map
        Line.ofCode := by
    simp [overrideFunction]
  have hbody : (overrideFunction layout o).body = [hookStatement layout o.hook].map Line.ofCode :=
    rfl
  rw [Member.literals_routine, hqualifiers, hbody, flatMap_literals_ofCode,
    flatMap_literals_ofCode]
  rfl

/-- Only the function that reports where metadata is has a literal. -/
lemma literals_functionRoutines :
    ((functionRoutines layout b n).flatMap fun r => (Member.routine r).literals) =
      if layout = .uniqueAsset then [n.baseMetadataUri] else [] := by
  have hmethods : ((b.methods.flatMap (methodFunctions layout b)).flatMap
      fun r => (Member.routine r).literals) = [] := by
    refine List.flatMap_eq_nil_iff.mpr fun r hr => ?_
    obtain ⟨m, -, hm⟩ := List.mem_flatMap.mp hr
    exact literals_method hm
  have hoverrides : ((b.overrides.map (overrideFunction layout)).flatMap
      fun r => (Member.routine r).literals) = [] :=
    List.flatMap_eq_nil_iff.mpr (List.forall_mem_map.mpr fun o _ => literals_override o)
  rw [functionRoutines, List.flatMap_append, List.flatMap_append, hmethods, hoverrides,
    List.append_nil, List.append_nil]
  cases layout with
  | fungible =>
    have hdecimals : (Member.routine (decimalsFunction n.decimals)).literals = [] := rfl
    simp only [fixedRoutines, reduceCtorEq, if_false]
    split_ifs <;> simp [hdecimals]
  | uniqueAsset => rfl
  | multiAsset => rfl

end Layout

/-! ## The texts of users -/

namespace Spec

/-- The texts of users that the source of a spec holds. -/
def written (spec : Spec) : Kind → List String
  | .fungible => [spec.name, spec.symbol]
  | .uniqueAsset => [spec.name, spec.symbol, spec.baseMetadataUri]
  | .multiAsset => [spec.baseMetadataUri]

variable {spec : Spec} {k : Kind}

/-- What other constructors are passed is passed to that of the base. -/
lemma mem_texts_base {c : Component} (hc : c ∈ spec.normalize.chain k)
    (hother : c ∈ [.erc20Permit, .ownable]) {value : String}
    (hvalue : value ∈ (spec.arguments c).filterMap Argument.text?) :
    value ∈ (spec.arguments k.catalogue.base).filterMap Argument.text? := by
  have hcomponents : .erc20Permit ∈ k.components spec.normalize.access → k = .fungible := by
    cases k <;> cases spec.normalize.access <;> decide
  simp only [List.mem_cons, List.not_mem_nil, or_false] at hother
  rcases hother with rfl | rfl
  · obtain rfl := hcomponents ((spec.normalize.chain_sublist k).subset hc)
    rw [List.mem_singleton.mp hvalue]
    exact List.mem_cons_self
  · exact absurd hvalue List.not_mem_nil

lemma mem_written_iff (hstandard : spec.standard = .known k) {value : String} :
    value ∈ spec.written k ↔
      value ∈ (spec.normalize.blueprintFor k).constructorCalls.flatMap ConstructorCall.texts ++
        (if k = .uniqueAsset then [spec.normalize.baseMetadataUri] else []) := by
  have hbase : value ∈ spec.written k ↔
      value ∈ (spec.arguments k.catalogue.base).filterMap Argument.text? ∨
        value ∈ if k = .uniqueAsset then [spec.normalize.baseMetadataUri] else [] := by
    cases k with
    | uniqueAsset =>
      have huri := baseMetadataUri_normalize hstandard (by decide)
      simp [written, arguments, Argument.text?, Kind.catalogue, huri, or_assoc]
    | _ => simp [written, arguments, Argument.text?, Kind.catalogue]
  rw [hbase, constructorCalls_blueprintFor hstandard, Normalized.filter_takesArguments,
    List.mem_append, List.flatMap_map, List.flatMap_cons, List.mem_append]
  refine or_congr_left (or_iff_left_of_imp fun hvalue => ?_).symm
  obtain ⟨c, hc, hvalue⟩ := List.mem_flatMap.mp hvalue
  obtain ⟨hother, hchain⟩ := List.mem_filter.mp hc
  exact mem_texts_base (of_decide_eq_true hchain) hother hvalue

/-- What holds of texts that need no escape holds of all literals of a source if it holds of the
texts of users. -/
lemma forall_literals_iff (hstandard : spec.standard = .known k) {P : String → Prop}
    (hbare : ∀ value : String, (∀ c ∈ value.toList, Literal.Bare c) → P value) :
    (∀ value ∈ (Layout.file k (spec.normalize.blueprintFor k) spec.normalize).lines.flatMap
        Line.literals, P value) ↔
      ∀ value ∈ spec.written k, P value := by
  have himports : ∀ path ∈ (spec.normalize.blueprintFor k).imports, P path := by
    intro path hpath
    obtain ⟨c, -, hc⟩ := List.mem_flatMap.mp (Blueprint.mem_firstOccurrences.mp hpath)
    exact hbare path (c.bare_importPaths path hc)
  have hroles : ∀ role ∈ (spec.normalize.blueprintFor k).roles.map Capability.role, P role :=
    List.forall_mem_map.mpr fun c _ => hbare _ c.bare_role
  have hwritten : ∀ value, value ∈ spec.written k ↔ _ := fun value => mem_written_iff hstandard
  rw [Layout.literals_file, Layout.literals_functionRoutines]
  simp only [hwritten, List.forall_mem_append]
  exact ⟨fun h => h.2.2, fun h => ⟨himports, hroles, h⟩⟩

lemma literalsOf_source (spec : Spec) (k : Kind) :
    literalsOf (Layout.file k (spec.normalize.blueprintFor k) spec.normalize).text =
      ((Layout.file k (spec.normalize.blueprintFor k) spec.normalize).lines.flatMap
        Line.literals).map fun value => Literal.body value.toList :=
  literalsOf_text (Layout.plain_file (sound_blueprintFor spec k)).unquoted

/-- The literals of a source are legal if and only if those for the texts of users are. -/
lemma forall_legal_iff (hstandard : spec.standard = .known k) :
    (∀ said ∈ literalsOf (Layout.file k (spec.normalize.blueprintFor k) spec.normalize).text,
        Literal.Legal said) ↔
      ∀ value ∈ spec.written k, ∀ c ∈ value.toList, c.toNat < 0xA0 := by
  rw [literalsOf_source, List.forall_mem_map,
    forall_literals_iff hstandard fun value hvalue => Literal.legal_of_bare hvalue]
  simp only [Literal.legal_body_iff]

/-- **Which sources have legal literals only.**  In every source all literals are made of escapes
and of characters that are no control characters.  They are legal if and only if no text of users in
the source has a character beyond ASCII that a literal keeps. -/
theorem literals_legal_iff (spec : Spec) (k : Kind) (hstandard : spec.standard = .known k) :
    ∃ text, spec.generate = .ok text ∧
      (∀ said ∈ literalsOf text, (Literal.decode? said).isSome = true ∧
        ∀ c ∈ said, Text.isControl c = false) ∧
      ((∀ said ∈ literalsOf text, Literal.Legal said) ↔
        ∀ value ∈ spec.written k, ∀ c ∈ value.toList, c.toNat < 0xA0) := by
  refine ⟨_, generate_known hstandard, ?_, forall_legal_iff hstandard⟩
  rw [literalsOf_source, List.forall_mem_map]
  intro value _
  refine ⟨by rw [Literal.decode?_body]; rfl, fun c hc => ?_⟩
  have hquoted : c ∈ Literal.quoteChars value.toList :=
    List.mem_cons_of_mem _ (List.mem_append_left _ hc)
  exact Literal.isControl_of_mem_quoteChars hquoted

/-- Quotes, a backslash and control characters in the texts of a spec leave its literals legal. -/
def quotedTexts : Spec :=
  { named (.known .uniqueAsset) "\"Nova\"\n\x07" "N\\" with baseMetadataUri := "ipfs://\x85" }

theorem literals_legal_quoted :
    ∃ text, quotedTexts.generate = .ok text ∧ ∀ said ∈ literalsOf text, Literal.Legal said := by
  obtain ⟨text, htext, -, hlegal⟩ := literals_legal_iff quotedTexts .uniqueAsset rfl
  exact ⟨text, htext, hlegal.mpr (by decide)⟩

/-- A name with an umlaut makes a literal that is not legal. -/
theorem literals_illegal_umlaut :
    ∃ text, (named (.known .fungible) "Ünit" "U").generate = .ok text ∧
      ¬ ∀ said ∈ literalsOf text, Literal.Legal said := by
  have hstandard : (named (.known .fungible) "Ünit" "U").standard = .known .fungible := rfl
  refine ⟨_, generate_known hstandard, (forall_legal_iff hstandard).not.mpr fun h => ?_⟩
  have hname : "Ünit" ∈ (named (.known .fungible) "Ünit" "U").written .fungible :=
    List.mem_cons_self
  have humlaut : ¬ ∀ c ∈ "Ünit".toList, c.toNat < 0xA0 := by decide
  exact humlaut (h _ hname)

end Spec
end TokenLaunch
