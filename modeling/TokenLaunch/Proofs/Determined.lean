/-
# The source determines the contract

No two contracts have the same source.  What a text says outside its literals tells the name of the
contract and its chain, the chain tells the kind, the access model and the features, and the
functions and the constructor tell the rest.  What it says inside its literals tells the string
arguments of the constructor calls, one behind the other, because the imports and the roles that
stand in front of them are known by then.  Only the characters that no literal keeps are lost.

`Spec.SameSource` is the situation of two specs with one source.  What they have in common is
collected lemma by lemma, up to the theorem `Spec.contract_determined`.
-/
import TokenLaunch.Proofs.AccessControl
import TokenLaunch.Proofs.Source.Literals
import TokenLaunch.Proofs.Supply

namespace TokenLaunch

open Solidity
open Token (word mark)

/-! ## What literals keep of a blueprint -/

/-- An argument with what a literal keeps of it. -/
def Argument.kept : Argument → Argument
  | .text value => .text (Literal.kept value)
  | .sender => .sender

/-- The string of an argument, if it is one. -/
def Argument.text? : Argument → Option String
  | .text value => some value
  | .sender => none

namespace ConstructorCall

/-- A call with what literals keep of its strings. -/
def kept (call : ConstructorCall) : ConstructorCall :=
  { call with arguments := call.arguments.map Argument.kept }

/-- The strings that a call passes on. -/
def texts (call : ConstructorCall) : List String :=
  call.arguments.filterMap Argument.text?

end ConstructorCall

/-- A blueprint with what literals keep of the strings in its constructor calls. -/
def Blueprint.kept (b : Blueprint) : Blueprint :=
  { b with constructorCalls := b.constructorCalls.map ConstructorCall.kept }

/-! ## What a text tells of its blueprint -/

namespace Solidity

/-- The text of a word. -/
def Token.text? : Token → Option String
  | .word text => some text
  | .mark _ => none

/-- A listing holds its names. -/
lemma filterMap_listing (names : List String) : (listing names).filterMap Token.text? = names := by
  match names with
  | [] => rfl
  | [name] => rfl
  | name :: next :: rest =>
    have ih := filterMap_listing (next :: rest)
    have hlisting : listing (name :: next :: rest) =
        word name :: mark ',' :: listing (next :: rest) := rfl
    have hname : (word name).text? = some name := rfl
    have hcomma : (mark ',').text? = none := rfl
    rw [hlisting, List.filterMap_cons_some hname, List.filterMap_cons_none hcomma, ih]

lemma listing_injective : Function.Injective listing :=
  Function.LeftInverse.injective filterMap_listing

end Solidity

namespace Layout

variable {layout : Kind} {b : Blueprint} {n : Normalized}

/-- A text has a function of a kind of method if and only if the blueprint has such a method. -/
lemma exists_function_iff (h : b.Sound) (kind : MethodKind) :
    (∃ d ∈ functions (tokensOf (file layout b n).text), d.name ∈ functionNames kind) ↔
      ∃ m ∈ b.methods, m.kind = kind := by
  constructor
  · rintro ⟨d, hd, hname⟩
    obtain ⟨m, hm, hkind, -⟩ := past_header_of_mem_functions h hd hname
    exact ⟨m, hm, hkind⟩
  · rintro ⟨m, hm, rfl⟩
    exact exists_function_of_mem_methods h hm

lemma literals_joinWith (separator : String) (lines : List Line) :
    (Line.joinWith separator lines).literals = lines.flatMap Line.literals := by
  match lines with
  | [] => rfl
  | [line] => simp [Line.joinWith]
  | line :: next :: rest =>
    have ih := literals_joinWith separator (next :: rest)
    have hjoin : Line.joinWith separator (line :: next :: rest) =
        line ++ .code separator :: Line.joinWith separator (next :: rest) := rfl
    rw [hjoin, Line.literals_append, Line.literals_code_cons, ih]
    rfl

lemma literals_constructorCall (call : ConstructorCall) :
    (constructorCall call).literals = call.texts := by
  have hargument : ∀ a, (argument a).literals = a.text?.toList := by
    intro a
    cases a <;> rfl
  rw [constructorCall, List.cons_append, List.cons_append, Line.literals_code_cons,
    Line.literals_code_cons, Line.literals_append, literals_joinWith, List.flatMap_map]
  simp [hargument, ConstructorCall.texts, List.filterMap_eq_flatMap_toList]

/-- The literals of the constructor are the strings of the constructor calls. -/
lemma literals_creation :
    (Member.routine (creation layout b)).literals =
      b.constructorCalls.flatMap ConstructorCall.texts := by
  have hstatement : ∀ s, (statement s).literals = [] := by
    intro s
    cases s <;> rfl
  rw [Member.literals_routine, creation, List.flatMap_map, List.flatMap_map]
  simp [literals_constructorCall, hstatement]

/-- The literals of a file in their order: imports, roles, constructor calls, and those of the
functions. -/
lemma literals_file :
    (file layout b n).lines.flatMap Line.literals =
      b.imports ++ (b.roles.map Capability.role ++
        (b.constructorCalls.flatMap ConstructorCall.texts ++
          (functionRoutines layout b n).flatMap fun r => (Member.routine r).literals)) := by
  have hstate : ∀ m ∈ stateMembers layout, m.literals = [] := by
    cases layout with
    | uniqueAsset => exact List.forall_mem_singleton.mpr rfl
    | _ => simp [stateMembers]
  have hroles : (roleMembers b).flatMap Member.literals = b.roles.map Capability.role := by
    unfold roleMembers
    split_ifs with hempty
    · simp [List.isEmpty_iff.mp hempty]
    · rw [List.flatMap_singleton, Member.literals_nameHashes]
  rw [SourceFile.literals_lines, file, flatMap_members hstate rfl, hroles, literals_creation,
    List.append_assoc]

end Layout

namespace Normalized

variable {n m : Normalized} {k : Kind}

/-- Whatever the texts of users are, the constructor of a component gets arguments of one form. -/
lemma constructorCall?_form (n m : Normalized) (c : Component) :
    (n.constructorCall? c = none ∧ m.constructorCall? c = none) ∨
      ∃ x y, n.constructorCall? c = some x ∧ m.constructorCall? c = some y ∧
        x.texts.length = y.texts.length ∧
          (x.texts.map Literal.kept = y.texts.map Literal.kept → x.kept = y.kept) := by
  cases c with
  | ownable => exact Or.inr ⟨_, _, rfl, rfl, rfl, fun _ => rfl⟩
  | erc20 | erc721 | erc1155 | erc20Permit =>
    refine Or.inr ⟨_, _, rfl, rfl, rfl, fun h => ?_⟩
    simpa [ConstructorCall.texts, ConstructorCall.kept, Argument.kept, Argument.text?] using h
  | _ => exact Or.inl ⟨rfl, rfl⟩

/-- The constructor calls of a chain can be read off their strings, whatever follows these. -/
lemma map_kept_calls {cs : List Component} {xs ys : List String}
    (h : ((cs.filterMap n.constructorCall?).flatMap ConstructorCall.texts).map Literal.kept ++ xs =
      ((cs.filterMap m.constructorCall?).flatMap ConstructorCall.texts).map Literal.kept ++ ys) :
    (cs.filterMap n.constructorCall?).map ConstructorCall.kept =
      (cs.filterMap m.constructorCall?).map ConstructorCall.kept := by
  induction cs with
  | nil => rfl
  | cons c cs ih =>
    rcases constructorCall?_form n m c with ⟨hn, hm⟩ | ⟨x, y, hn, hm, hlength, hkept⟩
    · rw [List.filterMap_cons_none hn, List.filterMap_cons_none hm] at h ⊢
      exact ih h
    · rw [List.filterMap_cons_some hn, List.filterMap_cons_some hm] at h ⊢
      simp only [List.flatMap_cons, List.map_append, List.append_assoc] at h
      -- both calls have as many strings, so the lists part at the same place
      obtain ⟨hfirst, hrest⟩ := List.append_inj h (by simpa using hlength)
      rw [List.map_cons, List.map_cons, hkept hfirst, ih hrest]

end Normalized

/-! ## Specs with one source -/

namespace Spec

/-- The source of a spec has a function that mints if and only if the feature for it is active. -/
lemma mints_iff_has (spec : Spec) (k : Kind) :
    (∃ d ∈ functions (tokensOf
      (Layout.file k (spec.normalize.blueprintFor k) spec.normalize).text),
        d.name ∈ Layout.functionNames .mint) ↔ spec.normalize.has .mintable = true :=
  (Layout.exists_function_iff (sound_blueprintFor spec k) .mint).trans Normalized.exists_method_iff

/-- Two specs of which one text is the source. -/
structure SameSource (s t : Spec) (k l : Kind) : Prop where
  left : s.standard = .known k
  right : t.standard = .known l
  text : (Layout.file k (s.normalize.blueprintFor k) s.normalize).text =
    (Layout.file l (t.normalize.blueprintFor l) t.normalize).text

namespace SameSource

variable {s t : Spec} {k l : Kind} (h : SameSource s t k l)

include h

/-- Their contracts have one name and inherit the same. -/
lemma contract_eq : Identifier.ofSymbol s.symbol k.catalogue.suffix =
      Identifier.ofSymbol t.symbol l.catalogue.suffix ∧
    s.normalize.chain k = t.normalize.chain l := by
  have hcontracts : ∀ (spec : Spec) (k : Kind), contracts (tokensOf
      (Layout.file k (spec.normalize.blueprintFor k) spec.normalize).text) =
        [(Identifier.ofSymbol spec.symbol k.catalogue.suffix,
          listing ((spec.normalize.chain k).map Component.name))] :=
    fun spec k => Layout.contracts_file (sound_blueprintFor spec k)
  have heq := hcontracts s k
  rw [h.text, hcontracts t l] at heq
  obtain ⟨hname, hparents⟩ := Prod.mk.inj (List.singleton_inj.mp heq)
  have hnames : Function.Injective Component.name := fun _ _ => Component.name_injective
  exact ⟨hname.symm, (hnames.list_map (listing_injective hparents)).symm⟩

lemma kind_eq : k = l :=
  Kind.base_injective (List.cons.inj h.contract_eq.2).1

lemma access_eq : s.normalize.access = t.normalize.access := by
  obtain rfl := h.kind_eq
  exact Normalized.access_eq_of_chain_eq h.contract_eq.2

/-- They have the same features. -/
lemma has_eq (f : Feature) : s.normalize.has f = t.normalize.has f := by
  obtain rfl := h.kind_eq
  -- normalization has switched off what the kind does not know
  by_cases hf : f.appliesTo k = true
  · rw [Bool.eq_iff_iff]
    rcases Kind.eq_mintable_or_mem_extensions hf with rfl | hf
    -- the functions tell whether the contract mints, the chain tells the rest
    · rw [← mints_iff_has s k, ← mints_iff_has t k, h.text]
    · obtain ⟨e, he, rfl⟩ := List.mem_map.mp hf
      rw [← Normalized.mem_chain_iff_has he, ← Normalized.mem_chain_iff_has he, h.contract_eq.2]
  · rw [Bool.not_eq_true] at hf
    rw [has_normalize_of_not_appliesTo h.left hf, has_normalize_of_not_appliesTo h.right hf]

/-- Fungible ones report the same decimals. -/
lemma decimals_eq (hk : k = .fungible) : s.normalize.decimals = t.normalize.decimals := by
  obtain rfl := h.kind_eq
  subst hk
  rw [← UInt8.toNat_inj, ← Layout.reportedDecimals_file (sound_blueprintFor s .fungible),
    ← Layout.reportedDecimals_file (sound_blueprintFor t .fungible), h.text]

/-- Fungible ones mint the same. -/
lemma supply_eq (hk : k = .fungible) :
    s.normalize.initialSupply = t.normalize.initialSupply := by
  obtain rfl := h.kind_eq
  subst hk
  have htokens : Function.Injective supplyTokens := by
    intro a b heq
    simpa [supplyTokens] using heq
  have heq := supplied_source s .fungible
  rw [h.text, supplied_source t .fungible, if_pos rfl, if_pos rfl] at heq
  have hhead := congrArg List.head? (htokens.list_map heq)
  rw [Option.head?_toList, Option.head?_toList] at hhead
  exact hhead.symm

/-- Their constructor calls differ at most in what literals leave out. -/
lemma calls_eq : (s.normalize.blueprintFor k).constructorCalls.map ConstructorCall.kept =
    (t.normalize.blueprintFor l).constructorCalls.map ConstructorCall.kept := by
  obtain rfl := h.kind_eq
  have hblueprint := Normalized.blueprintFor_congr h.has_eq h.access_eq h.supply_eq
  have himports : (t.normalize.blueprintFor k).imports = (s.normalize.blueprintFor k).imports := by
    rw [hblueprint]
  have hroles : (t.normalize.blueprintFor k).roles = (s.normalize.blueprintFor k).roles := by
    rw [hblueprint]
  have hliterals := Line.map_kept_literals
    (Layout.plain_file (sound_blueprintFor s k)).unquoted
    (Layout.plain_file (sound_blueprintFor t k)).unquoted h.text
  -- the imports and the roles in front of the calls are the same on both sides
  simp only [Layout.literals_file, himports, hroles, List.map_append] at hliterals
  have hcalls := List.append_cancel_left (List.append_cancel_left hliterals)
  rw [Normalized.blueprintFor, Normalized.blueprintFor, ← h.contract_eq.2] at hcalls ⊢
  exact Normalized.map_kept_calls hcalls

lemma kept_blueprintFor_eq :
    (s.normalize.blueprintFor k).kept = (t.normalize.blueprintFor l).kept := by
  have hcalls := h.calls_eq
  obtain rfl := h.kind_eq
  have hblueprint := Normalized.blueprintFor_congr h.has_eq h.access_eq h.supply_eq
  rw [Blueprint.kept, Blueprint.kept, hcalls, hblueprint]

lemma contractFor_eq : s.normalize.contractFor k = t.normalize.contractFor l := by
  have hname := h.contract_eq.1
  have htext := h.text
  obtain rfl := h.kind_eq
  have hstandard : s.normalize.standard = t.normalize.standard := h.left.trans h.right.symm
  have hfeatures : s.normalize.featureNames = t.normalize.featureNames := by
    rw [Normalized.featureNames, Normalized.featureNames, Normalized.enabled, Normalized.enabled,
      funext h.has_eq]
  have hdecimals : (if k = .fungible then some s.normalize.decimals else none) =
      if k = .fungible then some t.normalize.decimals else none := by
    split_ifs with hk
    · rw [h.decimals_eq hk]
    · rfl
  simp only [Normalized.contractFor, Normalized.sourceFile, htext, hstandard, hfeatures, hdecimals,
    normalize_symbol, hname]

end SameSource

/-- **The source determines the contract.**  Two specs with the same source are of one kind, have
the same blueprint up to characters that literals leave out, and stand for the same contract. -/
theorem contract_determined (s t : Spec) (k l : Kind) (hs : s.standard = .known k)
    (ht : t.standard = .known l) (hsource : s.generate = t.generate) :
    k = l ∧ (∃ b d, s.normalize.blueprint = .ok b ∧ t.normalize.blueprint = .ok d ∧
        b.kept = d.kept) ∧
      (k = .fungible → s.effectiveDecimals = t.effectiveDecimals) ∧
      ∃ c, s.contract = .ok c ∧ t.contract = .ok c := by
  rw [generate_known hs, generate_known ht] at hsource
  have h : SameSource s t k l := ⟨hs, ht, Except.ok.inj hsource⟩
  refine ⟨h.kind_eq, ⟨_, _, blueprint_known hs, blueprint_known ht, h.kept_blueprintFor_eq⟩,
    h.decimals_eq, _, contract_known hs, ?_⟩
  rw [h.contractFor_eq]
  exact contract_known ht

/-- As many decimals as a word can scale by. -/
def manyDecimals : Spec :=
  { named (.known .fungible) "Coin" "C" with decimals := 77 }

/-- More decimals than that, and a name with a character that no literal keeps. -/
def droppedCharacter : Spec :=
  { named (.known .fungible) "Co\x07in" "C" with decimals := 90 }

/-- The two have different blueprints, but one contract. -/
theorem contract_determined_dropped :
    ∃ b d c, manyDecimals.normalize.blueprint = .ok b ∧
      droppedCharacter.normalize.blueprint = .ok d ∧ b ≠ d ∧ b.kept = d.kept ∧
      manyDecimals.contract = .ok c ∧ droppedCharacter.contract = .ok c := by
  have hsource : manyDecimals.generate = droppedCharacter.generate := rfl
  obtain ⟨-, ⟨b, d, hb, hd, hkept⟩, -, c, hc, hc'⟩ :=
    contract_determined manyDecimals droppedCharacter .fungible .fungible rfl rfl hsource
  refine ⟨b, d, c, hb, hd, ?_, hkept, hc, hc'⟩
  cases hb
  cases hd
  intro heq
  have hcalls := congrArg Blueprint.constructorCalls heq
  revert hcalls
  decide

end Spec
end TokenLaunch
