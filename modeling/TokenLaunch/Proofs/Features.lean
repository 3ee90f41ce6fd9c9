/-
# What stands behind the features

The features that a contract records, the components that it inherits and the functions that it has
come about in three ways.  Normalization lists the features, the tables of the kind turn them into
components, and the toggles that are left on are turned into methods without a look at the
components.  The three agree because normalization switches off what a kind does not know.

The chain tells every feature but the one that mints (`Spec.exists_component_iff`), the methods tell
the toggles (`Normalized.exists_method_iff`), and the names of the functions in a text tell the
methods (`Layout.declares_file_iff`).  `Contract.Described` puts this together as a reader of the
source sees it, and `Spec.features_described` has it of every contract, and of what a pipeline
records of it.
-/
import TokenLaunch.Proofs.Determined
import TokenLaunch.Proofs.Launch.Admission

namespace TokenLaunch

open Solidity
open Token (ofChars word mark)

/-! ## What a text declares and inherits -/

namespace Solidity

/-- Whether a source declares a function of some name. -/
def Declares (ts : List Token) (name : String) : Prop :=
  ∃ d ∈ functions ts, d.name = name

/-- Whether a source has a contract that inherits one of some name. -/
def Inherits (ts : List Token) (parent : String) : Prop :=
  ∃ c ∈ contracts ts, word parent ∈ c.2

lemma word_mem_listing_iff {names : List String} {name : String} :
    word name ∈ listing names ↔ name ∈ names := by
  constructor
  · intro h
    rcases mem_listing h with hcomma | ⟨other, hother, heq⟩
    · cases hcomma
    · exact Token.word.inj heq ▸ hother
  · intro h
    rw [← filterMap_listing names] at h
    obtain ⟨t, ht, htext⟩ := List.mem_filterMap.mp h
    cases t with
    | word text =>
      obtain rfl := Option.some.inj htext
      exact ht
    | mark c => cases htext

end Solidity

namespace Layout

variable {layout : Kind} {b : Blueprint} {n : Normalized}

/-- A text inherits the chain of its blueprint. -/
lemma inherits_file (h : b.Sound) {c : Component} :
    Inherits (tokensOf (file layout b n).text) c.name ↔ c ∈ b.chain := by
  have hnames : Function.Injective Component.name := fun _ _ => Component.name_injective
  simp only [Inherits, contracts_file h, List.mem_singleton, exists_eq_left, word_mem_listing_iff]
  exact List.mem_map_of_injective hnames

/-- The names that a layout gives the functions of a privileged method. -/
def methodNames : Kind → MethodKind → List String
  | .fungible, .mint => ["mint"]
  | .uniqueAsset, .mint => ["safeMint"]
  | .multiAsset, .mint => ["mint", "mintBatch"]
  | _, kind => functionNames kind

lemma names_methodFunctions (layout : Kind) (b : Blueprint) (m : Method) :
    (methodFunctions layout b m).map (fun r => r.declaration.name) = methodNames layout m.kind := by
  unfold methodFunctions
  cases m.kind with
  | mint =>
    cases layout with
    | uniqueAsset =>
      simp only [mintFunctions]
      split_ifs <;> rfl
    | _ => rfl
  | _ => cases layout <;> rfl

/-- **A text declares the functions of its privileged methods**, and no others of their names. -/
theorem declares_file_iff (h : b.Sound) {kind : MethodKind} {name : String}
    (hname : name ∈ functionNames kind) :
    Declares (tokensOf (file layout b n).text) name ↔
      name ∈ methodNames layout kind ∧ ∃ m ∈ b.methods, m.kind = kind := by
  rw [Declares, functions_file h]
  constructor
  · rintro ⟨d, hd, rfl⟩
    obtain ⟨r, hr, rfl⟩ := List.mem_map.mp hd
    obtain ⟨m, hm, rfl, hr⟩ := exists_method_of_mem_functionRoutines hr hname
    rw [← names_methodFunctions layout b m]
    exact ⟨List.mem_map_of_mem hr, m, hm, rfl⟩
  · rintro ⟨hmem, m, hm, rfl⟩
    rw [← names_methodFunctions layout b m] at hmem
    obtain ⟨r, hr, rfl⟩ := List.mem_map.mp hmem
    have hroutine : r ∈ functionRoutines layout b n :=
      List.mem_append_left _ (List.mem_append_right _ (List.mem_flatMap.mpr ⟨m, hm, hr⟩))
    exact ⟨r.declaration, List.mem_map_of_mem hroutine, rfl⟩

/-! ## Where metadata is stored -/

/-- The statement that stores the URI of a new token. -/
def storing : String := "_setTokenURI(tokenId, uri);"

/-- The arguments that the statement is written with. -/
def storingTokens : List Token := [word "tokenId", mark ',', word "uri"]

/-- What a line stores. -/
def stored (line : Line) : List (List Token) :=
  if line = Line.ofCode storing then [storingTokens] else []

lemma stored_ofCode (s : String) :
    stored (Line.ofCode s) = if s = storing then [storingTokens] else [] := by
  simp [stored, Line.ofCode]

/-- What a routine stores. -/
def storedBy (r : Routine) : List (List Token) :=
  r.qualifiers.flatMap stored ++ r.body.flatMap stored

lemma isRoutineWord_setTokenURI : IsRoutineWord "_setTokenURI" := by
  decide

lemma FunctionLine.reads_stored {line : Line} (h : FunctionLine line) :
    Reads (word "_setTokenURI") Reader.arguments? line.tokens (stored line) := by
  unfold stored
  split_ifs with hline
  · have htokens : (Line.ofCode storing).tokens =
        word "_setTokenURI" :: mark '(' :: (storingTokens ++ mark ')' :: [mark ';']) := by
      rw [Line.tokens_ofCode]
      exact Token.ofChars_spelled rfl (by decide)
    rw [hline, htokens]
    exact reads_call (by decide) (by decide) (by decide)
  · -- no other line of a function has the word
    have hcode : ∀ s ∈ functionCode, line = Line.ofCode s →
        word "_setTokenURI" ∉ ofChars s.toList := by
      intro s hs heq
      have hne : s ≠ storing := fun h => hline (h ▸ heq)
      simp only [functionCode, List.mem_cons, List.not_mem_nil, or_false] at hs
      casesm* _ ∨ _
      -- one of the cases is the statement itself
      all_goals
        subst s
        first
        | exact absurd rfl hne
        | exact not_mem_spelled rfl (by decide)
    exact reads_of_not_mem
      (h.word_not_mem isRoutineWord_setTokenURI hcode ⟨'s', by decide, rfl⟩ (by decide))

lemma IsFunction.reads_stored {r : Routine} (h : IsFunction r) :
    Reads (word "_setTokenURI") Reader.arguments? r.tokens (storedBy r) := by
  obtain ⟨p, hp, hhead⟩ := h.head
  have hopening : ∀ h ∈ functionHeads, word "_setTokenURI" ∉
      (Head.function h.1 h.2).opening ++ (Head.function h.1 h.2).parameters := by
    intro h hh
    simp only [functionHeads, List.mem_cons, List.not_mem_nil, or_false] at hh
    casesm* _ ∨ _
    all_goals
      subst h
      exact not_mem_head (by decide) rfl (by decide)
  exact Routine.reads_tokens (hhead ▸ hopening p hp)
    (reads_flatMap fun q hq => (h.qualifiers q hq).reads_stored)
    (reads_flatMap fun line hline => (h.body line hline).reads_stored)

lemma setTokenURI_not_mem_creation (h : b.Sound) :
    word "_setTokenURI" ∉ (creation layout b).tokens := by
  have hhead : word "_setTokenURI" ∉ Head.creation.opening ++ Head.creation.parameters := by decide
  have hcalls : ∀ call, word "_setTokenURI" ∉ (constructorCall call).tokens :=
    isRoutineWord_setTokenURI.not_mem_constructorCall (by decide)
  refine Routine.not_mem_tokens hhead (List.forall_mem_map.mpr fun call _ => hcalls call)
    (List.forall_mem_map.mpr fun s hs => ?_)
  cases s with
  | grantRole c =>
    rw [tokens_grantRole]
    cases c <;> decide
  | mintSupply amount =>
    obtain ⟨m, rfl⟩ := h.amounts amount hs
    have hamount : "_setTokenURI" ≠ m.repr := (repr_ne (c := 's') (by decide) (by decide)).symm
    rw [tokens_mintSupply]
    simp [supplyTokens, hamount]

lemma storedBy_fixed : ∀ r ∈ fixedRoutines layout n, storedBy r = [] := by
  cases layout with
  | fungible =>
    unfold fixedRoutines
    split_ifs
    · simp
    · simp [storedBy, decimalsFunction, stored, Line.ofCode, storing]
  | uniqueAsset => simp [fixedRoutines, storedBy, baseUriFunction, stored, Line.ofCode, storing]
  | multiAsset => simp [fixedRoutines]

lemma storedBy_override (layout : Kind) (o : Override) :
    storedBy (overrideFunction layout o) = [] := by
  have hclause : overrideClause o.components ≠ "_setTokenURI(tokenId, uri);" := by
    intro heq
    have hhead := congrArg (fun text : String => text.toList.head?) heq
    simp [overrideClause] at hhead
  rw [storedBy, overrideFunction]
  cases layout <;> cases o.hook <;>
    simp [stored_ofCode, hclause, hookVisibility, hookReturns, hookStatement, storing]

/-- Of the privileged methods only that of minting stores something, in the layout of unique assets
and if there is a place for it. -/
lemma storedBy_method (layout : Kind) (b : Blueprint) (m : Method) :
    (methodFunctions layout b m).flatMap storedBy =
      if m.kind = .mint ∧ layout = .uniqueAsset ∧ b.inherits .erc721UriStorage = true then
        [storingTokens] else [] := by
  have hguard : (modifier m.guard).flatMap stored = [] := by
    cases m.guard with
    | role c => cases c <;> decide
    | _ => decide
  unfold methodFunctions
  cases m.kind <;> cases layout <;>
    simp [mintFunctions, guarded, storedBy, hguard, stored_ofCode, storing]
  split_ifs <;> simp [storedBy, hguard, stored_ofCode, storing]

/-- **A text stores URIs where it mints unique assets**, if it inherits a place for them. -/
theorem calls_setTokenURI_file (h : b.Sound) :
    calls "_setTokenURI" (tokensOf (file layout b n).text) =
      b.methods.flatMap fun m =>
        if m.kind = .mint ∧ layout = .uniqueAsset ∧ b.inherits .erc721UriStorage = true then
          [storingTokens] else [] := by
  have hcreation : Reads (word "_setTokenURI") Reader.arguments? (creation layout b).tokens [] :=
    reads_of_not_mem (setTokenURI_not_mem_creation h)
  have hfixed : (fixedRoutines layout n).flatMap storedBy = [] :=
    List.flatMap_eq_nil_iff.mpr storedBy_fixed
  have hoverrides : (b.overrides.map (overrideFunction layout)).flatMap storedBy = [] :=
    List.flatMap_eq_nil_iff.mpr (List.forall_mem_map.mpr fun o _ => storedBy_override layout o)
  rw [calls, isRoutineWord_setTokenURI.occurrences_file h hcreation
    fun r hr => (isFunction r hr).reads_stored, functionRoutines, List.flatMap_append,
    List.flatMap_append, hfixed, hoverrides, List.append_nil, List.nil_append, List.nil_append,
    List.flatMap_assoc]
  exact List.flatMap_congr fun m _ => storedBy_method layout b m

/-- A text stores something if and only if there is a method that does. -/
lemma calls_setTokenURI_ne_nil_iff (h : b.Sound) :
    calls "_setTokenURI" (tokensOf (file layout b n).text) ≠ [] ↔
      layout = .uniqueAsset ∧ .erc721UriStorage ∈ b.chain ∧ ∃ m ∈ b.methods, m.kind = .mint := by
  rw [calls_setTokenURI_file h, ne_eq, List.flatMap_eq_nil_iff]
  push Not
  constructor
  · rintro ⟨m, hm, hstored⟩
    split_ifs at hstored with hstores
    · exact ⟨hstores.2.1, List.contains_iff_mem.mp hstores.2.2, m, hm, hstores.1⟩
    · exact absurd rfl hstored
  · rintro ⟨hlayout, hinherits, m, hm, hmint⟩
    refine ⟨m, hm, ?_⟩
    rw [if_pos ⟨hmint, hlayout, List.contains_iff_mem.mpr hinherits⟩]
    exact List.cons_ne_nil _ _

end Layout

/-! ## Features and their components -/

namespace Feature

lemma displayName_injective : Function.Injective displayName := by
  intro f g
  cases f <;> cases g <;> decide

/-- The components that the tables of the kinds have for a feature. -/
def components (f : Feature) : List Component :=
  Kind.all.flatMap fun k => (k.catalogue.extensions.filter fun e => e.1 = f).map Prod.snd

/-- Each of them has its place in the table of a kind whose contracts can inherit it. -/
lemma mem_extensions {f : Feature} {c : Component} (hc : c ∈ f.components) {k : Kind}
    {access : Access} (hk : c ∈ k.components access) : (f, c) ∈ k.catalogue.extensions := by
  have hclosed : ∀ c ∈ f.components, c ∈ k.components access → (f, c) ∈ k.catalogue.extensions := by
    cases k <;> cases access <;> cases f <;> decide
  exact hclosed c hc hk

lemma mem_components {k : Kind} {e : Feature × Component} (he : e ∈ k.catalogue.extensions) :
    e.2 ∈ e.1.components := by
  have hmem : e ∈ k.catalogue.extensions.filter fun e' => e'.1 = e.1 :=
    List.mem_filter.mpr ⟨he, decide_eq_true rfl⟩
  exact List.mem_flatMap.mpr ⟨k, k.mem_all, List.mem_map_of_mem hmem⟩

end Feature

namespace Normalized

variable {n : Normalized} {k : Kind} {f : Feature}

lemma mem_featureNames_iff : f.displayName ∈ n.featureNames ↔ n.has f = true := by
  rw [featureNames, List.mem_map_of_injective Feature.displayName_injective, enabled,
    List.mem_filter]
  exact and_iff_right f.mem_all

lemma nodup_featureNames (n : Normalized) : n.featureNames.Nodup := by
  have hall : Feature.all.Nodup := by decide
  exact (hall.filter _).map Feature.displayName_injective

lemma sublist_featureNames (n : Normalized) :
    n.featureNames.Sublist (Feature.all.map Feature.displayName) :=
  List.filter_sublist.map _

/-- Of the components of a feature a contract can inherit that which the table of its kind has. -/
lemma exists_extension_iff : (∃ e ∈ k.catalogue.extensions, e.1 = f ∧ e.2 ∈ n.chain k) ↔
    ∃ c ∈ f.components, c ∈ n.chain k := by
  constructor
  · rintro ⟨e, he, rfl, hmem⟩
    exact ⟨e.2, Feature.mem_components he, hmem⟩
  · rintro ⟨c, hc, hmem⟩
    exact ⟨(f, c), Feature.mem_extensions hc ((n.chain_sublist k).subset hmem), rfl, hmem⟩

/-- The base of a kind is in no chain of another. -/
lemma erc1155_mem_chain_iff : .erc1155 ∈ n.chain k ↔ k = .multiAsset := by
  constructor
  · intro hmem
    have hclosed : .erc1155 ∈ k.components n.access → k = .multiAsset := by
      cases k <;> cases n.access <;> decide
    exact hclosed ((n.chain_sublist k).subset hmem)
  · rintro rfl
    exact List.mem_cons_self

end Normalized

/-! ## What is recorded of a contract -/

/-- What is recorded of a contract describes its source, as a reader finds it outside literals. -/
structure Contract.Described (k : Kind) (c : Contract) : Prop where
  /-- The one contract of the source has the recorded name. -/
  name : (contracts (tokensOf c.source)).map Prod.fst = [c.name]
  /-- No feature is recorded twice. -/
  nodup : c.features.Nodup
  /-- The features are recorded in the order in which features are listed. -/
  order : c.features.Sublist (Feature.all.map Feature.displayName)
  mintable : Feature.mintable.displayName ∈ c.features ↔
    Declares (tokensOf c.source) "mint" ∨ Declares (tokensOf c.source) "safeMint"
  /-- Any other feature is recorded if and only if the component is inherited that the table of the
  kind has for it. -/
  extension : ∀ f ≠ Feature.mintable, f.displayName ∈ c.features ↔
    ∃ e ∈ k.catalogue.extensions, e.1 = f ∧ Inherits (tokensOf c.source) e.2.name
  pause : ∀ name ∈ ["pause", "unpause"], Declares (tokensOf c.source) name ↔
    ∃ parent ∈ ["ERC20Pausable", "ERC721Pausable", "ERC1155Pausable"],
      Inherits (tokensOf c.source) parent
  snapshot : Declares (tokensOf c.source) "snapshot" ↔
    Inherits (tokensOf c.source) "ERC20Snapshot"
  setURI : Declares (tokensOf c.source) "setURI" ↔ Inherits (tokensOf c.source) "ERC1155"
  setTokenURI : calls "_setTokenURI" (tokensOf c.source) ≠ [] ↔
    Inherits (tokensOf c.source) "ERC721URIStorage" ∧ Declares (tokensOf c.source) "safeMint"

namespace Spec

variable {spec : Spec} {k : Kind}

/-- A feature of a spec is active if and only if a component of it is inherited; the feature of
minting has none. -/
lemma exists_component_iff (hstandard : spec.standard = .known k) {f : Feature}
    (hf : f ≠ .mintable) :
    (∃ c ∈ f.components, c ∈ spec.normalize.chain k) ↔ spec.normalize.has f = true := by
  rw [← Normalized.exists_extension_iff]
  constructor
  · rintro ⟨e, he, rfl, hmem⟩
    exact (Normalized.mem_chain_iff_has he).mp hmem
  · intro hhas
    have happlies : f.appliesTo k = true := by
      by_contra hnot
      rw [has_normalize_of_not_appliesTo hstandard (Bool.eq_false_of_not_eq_true hnot)] at hhas
      cases hhas
    obtain ⟨e, he, rfl⟩ :=
      List.mem_map.mp ((Kind.eq_mintable_or_mem_extensions happlies).resolve_left hf)
    exact ⟨e, he, rfl, (Normalized.mem_chain_iff_has he).mpr hhas⟩

/-- **The contract of a spec is described by its record.** -/
lemma described_contractFor (hstandard : spec.standard = .known k) :
    (spec.normalize.contractFor k).Described k := by
  have hsound := sound_blueprintFor spec k
  have hinherits : ∀ c : Component,
      Inherits (tokensOf (spec.normalize.contractFor k).source) c.name ↔
        c ∈ spec.normalize.chain k :=
    fun c => Layout.inherits_file hsound
  have hparents : ∀ f ≠ Feature.mintable, ((∃ parent ∈ f.components.map Component.name,
      Inherits (tokensOf (spec.normalize.contractFor k).source) parent) ↔
        spec.normalize.has f = true) := by
    intro f hf
    simp only [List.mem_map, exists_exists_and_eq_and, hinherits]
    exact exists_component_iff hstandard hf
  have hdeclares : ∀ kind, ∀ name ∈ Layout.functionNames kind,
      (Declares (tokensOf (spec.normalize.contractFor k).source) name ↔
        name ∈ Layout.methodNames k kind ∧
          ∃ m ∈ (spec.normalize.blueprintFor k).methods, m.kind = kind) :=
    fun _ _ hname => Layout.declares_file_iff hsound hname
  constructor
  case name =>
    have hcontracts : contracts (tokensOf (spec.normalize.contractFor k).source) = _ :=
      Layout.contracts_file hsound
    rw [hcontracts]
    rfl
  case nodup => exact spec.normalize.nodup_featureNames
  case order => exact spec.normalize.sublist_featureNames
  case mintable =>
    have hnamed : "mint" ∈ Layout.methodNames k .mint ∨
        "safeMint" ∈ Layout.methodNames k .mint := by
      cases k <;> decide
    rw [hdeclares .mint _ (by decide), hdeclares .mint _ (by decide), ← or_and_right,
      and_iff_right hnamed, Normalized.exists_method_iff]
    exact Normalized.mem_featureNames_iff
  case extension =>
    intro f hf
    simp only [hinherits, Normalized.exists_extension_iff]
    exact Normalized.mem_featureNames_iff.trans (exists_component_iff hstandard hf).symm
  case pause =>
    intro name hname
    have hnamed : name ∈ Layout.methodNames k .pause := by
      cases k <;> exact hname
    rw [hdeclares .pause _ hname, and_iff_right hnamed, Normalized.exists_method_iff]
    exact (hparents .pausable (by decide)).symm
  case snapshot =>
    have hnamed : "snapshot" ∈ Layout.methodNames k .snapshot := by
      cases k <;> decide
    have hparent : (∃ parent ∈ ["ERC20Snapshot"], _) ↔ _ := hparents .snapshots (by decide)
    rw [hdeclares .snapshot _ (by decide), and_iff_right hnamed, Normalized.exists_method_iff,
      ← hparent]
    simp only [List.mem_singleton, exists_eq_left]
  case setURI =>
    have hnamed : "setURI" ∈ Layout.methodNames k .setUri := by
      cases k <;> decide
    rw [hdeclares .setUri _ (by decide), and_iff_right hnamed, Normalized.exists_method_iff,
      ← Normalized.erc1155_mem_chain_iff (n := spec.normalize)]
    exact (hinherits .erc1155).symm
  case setTokenURI =>
    have hnamed : "safeMint" ∈ Layout.methodNames k .mint ↔ k = .uniqueAsset := by
      cases k <;> decide
    have hparent : Inherits (tokensOf (spec.normalize.contractFor k).source)
        "ERC721URIStorage" ↔ _ := hinherits .erc721UriStorage
    rw [hdeclares .mint _ (by decide), hnamed, hparent]
    exact (Layout.calls_setTokenURI_ne_nil_iff hsound).trans and_left_comm

/-- **What stands behind the features.**  Every spec with a standard has a contract, whatever its
strings are, and the record of it describes the source: the features are recorded once each and in
order, each of them because the contract mints or inherits what the feature stands for, and the
contract has the functions that go with what it inherits.  A pipeline that launches the spec records
the features of that contract, and puts the record into its store. -/
theorem features_described (spec : Spec) (k : Kind) (hstandard : spec.standard = .known k) :
    ∃ c, spec.contract = .ok c ∧ spec.generate = .ok c.source ∧ c.Described k ∧
      ∀ {ω σ τ : Type} (p : Pipeline ω σ τ) (stamp : Stamp) (s : Session ω σ τ) (report : Report),
        (p.run stamp spec s).result = .ok report →
          report.contract = c ∧ report.record.features = c.features ∧
            p.store.update (Store.adding report.record) s.store =
              (.ok (), (p.run stamp spec s).session.store) := by
  have hcontract := contract_known hstandard
  refine ⟨_, hcontract, generate_known hstandard, described_contractFor hstandard, ?_⟩
  intro ω σ τ p stamp s report hreport
  cases p.stored_run stamp spec s with
  | unused hresult => cases hresult.symm.trans hreport
  | refused _ _ hresult => cases hresult.symm.trans hreport
  | accepted hc hupdate hresult =>
    obtain rfl := Except.ok.inj (hresult.symm.trans hreport)
    have heq := Except.ok.inj (hc.symm.trans hcontract)
    refine ⟨heq, ?_, hupdate⟩
    rw [Pipeline.record, heq]

/-- Unique assets that can be paused, with a name that looks like a function that mints, and with
features that they cannot have. -/
def disguised : Spec :=
  { named (.known .uniqueAsset) "function mint(address to) public is ERC20Snapshot" "D" with
    features := { pausable := true, permit := true, snapshots := true }
    baseMetadataUri := "ipfs://" }

/-- The contract can be paused and has a place for URIs, but neither mints nor stores any, and this
is what a pipeline records. -/
theorem features_described_disguised :
    ∃ c report, disguised.contract = .ok c ∧ c.features = ["Pausable", "URI Storage"] ∧
      ¬ Declares (tokensOf c.source) "mint" ∧ ¬ Declares (tokensOf c.source) "safeMint" ∧
      Declares (tokensOf c.source) "unpause" ∧ calls "_setTokenURI" (tokensOf c.source) = [] ∧
      (Pipeline.willing.run ⟨"a", .epoch⟩ disguised Pipeline.hesitant).result = .ok report ∧
      report.record.features = ["Pausable", "URI Storage"] := by
  obtain ⟨c, hc, -, hdescribed, hrecorded⟩ := features_described disguised .uniqueAsset rfl
  have hfeatures : c.features = ["Pausable", "URI Storage"] := by
    cases hc
    decide
  obtain ⟨report, hreport⟩ : ∃ report,
      (Pipeline.willing.run ⟨"a", .epoch⟩ disguised Pipeline.hesitant).result = .ok report := by
    have hsome : (Pipeline.willing.run ⟨"a", .epoch⟩ disguised
        Pipeline.hesitant).result.toOption.isSome = true := by
      decide +kernel
    cases hresult : (Pipeline.willing.run ⟨"a", .epoch⟩ disguised Pipeline.hesitant).result with
    | error f =>
      rw [hresult] at hsome
      cases hsome
    | ok report => exact ⟨report, rfl⟩
  obtain ⟨-, hsame, -⟩ := hrecorded _ _ _ report hreport
  have hmints : ¬ (Declares (tokensOf c.source) "mint" ∨
      Declares (tokensOf c.source) "safeMint") := by
    rw [← hdescribed.mintable, hfeatures]
    decide
  rw [not_or] at hmints
  have hunpause : Declares (tokensOf c.source) "unpause" := by
    have hpausable : Feature.pausable.displayName ∈ c.features := by
      rw [hfeatures]
      decide
    obtain ⟨e, he, hfeature, hinherits⟩ := (hdescribed.extension .pausable (by decide)).mp hpausable
    have hname : ∀ e ∈ Kind.uniqueAsset.catalogue.extensions, e.1 = .pausable →
        e.2.name ∈ ["ERC20Pausable", "ERC721Pausable", "ERC1155Pausable"] := by
      decide
    exact (hdescribed.pause _ (by decide)).mpr ⟨_, hname e he hfeature, hinherits⟩
  have hstores : calls "_setTokenURI" (tokensOf c.source) = [] := by
    by_contra hne
    exact hmints.2 (hdescribed.setTokenURI.mp hne).2
  exact ⟨c, report, hc, hfeatures, hmints.1, hmints.2, hunpause, hstores, hreport,
    hsame.trans hfeatures⟩

end Spec
end TokenLaunch
