/-
# Fields that do not apply

A spec has the fields of every kind of token, and each kind uses some of them only.  Fungible
tokens have no metadata and unique assets no decimals; a contract with many assets does not even
have the token's name, and of the symbol it has what is left in its own name.  What a kind does not
use has no influence on the contract: `Spec.Agree` lists for each kind what two specs must have in
common, and then they stand for the same contract, whatever else they say
(`Spec.contract_relevant`).

The proof asks of each part of a contract which fields it looks at.  `Normalized.SameFor` is the
answer for normalized specs, and normalization establishes it from the agreement of the specs.
-/
import TokenLaunch.Proofs.Chain
import TokenLaunch.Proofs.Supply

namespace TokenLaunch

open Solidity

/-! ## What the parts of a contract look at -/

/-- Only constructors of components that are not for many assets are given name and symbol. -/
lemma Kind.ne_multiAsset_of_mem {k : Kind} {access : Access} {c : Component}
    (hc : c ∈ k.components access) (hnamed : c ∈ [.erc20, .erc20Permit, .erc721]) :
    k ≠ .multiAsset := by
  rintro rfl
  revert hc hnamed
  cases access <;> cases c <;> decide

/-- Only constructors of components that are not fungible are given a base URI. -/
lemma Kind.ne_fungible_of_mem {k : Kind} {access : Access} (hc : .erc1155 ∈ k.components access) :
    k ≠ .fungible := by
  rintro rfl
  revert hc
  cases access <;> decide

namespace Normalized

/-- Two normalized specs have in common what the contract of a kind is made of. -/
structure SameFor (k : Kind) (n m : Normalized) : Prop where
  standard : n.standard = m.standard
  access : n.access = m.access
  has : ∀ f, n.has f = m.has f
  /-- The contracts have one name. -/
  contract : Identifier.ofSymbol n.symbol k.catalogue.suffix =
    Identifier.ofSymbol m.symbol k.catalogue.suffix
  name : k ≠ .multiAsset → n.name = m.name
  symbol : k ≠ .multiAsset → n.symbol = m.symbol
  uri : k ≠ .fungible → n.baseMetadataUri = m.baseMetadataUri
  decimals : k = .fungible → n.decimals = m.decimals
  supply : k = .fungible → n.initialSupply = m.initialSupply

namespace SameFor

variable {k : Kind} {n m : Normalized} (h : SameFor k n m)

include h

lemma constructorCall?_eq {c : Component} (hc : c ∈ k.components n.access) :
    n.constructorCall? c = m.constructorCall? c := by
  cases c with
  | erc20 | erc721 =>
    have hk := Kind.ne_multiAsset_of_mem hc (by decide)
    rw [constructorCall?, constructorCall?, h.name hk, h.symbol hk]
  | erc20Permit =>
    have hk := Kind.ne_multiAsset_of_mem hc (by decide)
    rw [constructorCall?, constructorCall?, h.name hk]
  | erc1155 =>
    have hk := Kind.ne_fungible_of_mem hc
    rw [constructorCall?, constructorCall?, h.uri hk]
  | _ => rfl

lemma constructorCalls_eq :
    (n.blueprintFor k).constructorCalls = (m.blueprintFor k).constructorCalls := by
  rw [blueprintFor, blueprintFor, ← chain_congr h.has h.access]
  refine List.filterMap_congr fun c hc => ?_
  exact h.constructorCall?_eq ((n.chain_sublist k).subset hc)

lemma blueprintFor_eq : n.blueprintFor k = m.blueprintFor k := by
  rw [blueprintFor_congr h.has h.access h.supply, ← h.constructorCalls_eq]

lemma fixedRoutines_eq : Layout.fixedRoutines k n = Layout.fixedRoutines k m := by
  cases k with
  | fungible => rw [Layout.fixedRoutines, Layout.fixedRoutines, h.decimals rfl]
  | uniqueAsset => rw [Layout.fixedRoutines, Layout.fixedRoutines, h.uri (by decide)]
  | multiAsset => rfl

lemma sourceFile_eq : n.sourceFile k = m.sourceFile k := by
  have hname : Identifier.ofSymbol n.symbol (m.blueprintFor k).suffix =
      Identifier.ofSymbol m.symbol (m.blueprintFor k).suffix := h.contract
  rw [sourceFile, sourceFile, h.blueprintFor_eq, Layout.file, Layout.file, hname, Layout.members,
    Layout.members, h.fixedRoutines_eq]

/-- **A contract is made of nothing else.** -/
theorem contractFor_eq : n.contractFor k = m.contractFor k := by
  have hfeatures : n.featureNames = m.featureNames := by
    rw [featureNames, featureNames, enabled, enabled, funext h.has]
  have hdecimals : (if k = .fungible then some n.decimals else none) =
      if k = .fungible then some m.decimals else none := by
    split_ifs with hk
    · rw [h.decimals hk]
    · rfl
  rw [contractFor, contractFor, h.sourceFile_eq, h.standard, h.contract, hfeatures, hdecimals]

end SameFor
end Normalized

/-! ## What specs must agree in -/

namespace Spec

/-- What matters for fungible tokens. -/
structure AgreeFungible (s t : Spec) : Prop where
  name : s.name = t.name
  symbol : s.symbol = t.symbol
  decimals : min s.decimals.toNat 77 = min t.decimals.toNat 77
  /-- The supplies come to the same number of smallest units, or neither of them to any. -/
  supply : s.normalize.initialSupply = t.normalize.initialSupply
  features : s.features = t.features

/-- What matters for the features of a token that is not fungible. -/
structure AgreeFeatures (s t : Spec) : Prop where
  uri : s.baseMetadataUri = t.baseMetadataUri
  mintable : s.features.mintable = t.features.mintable
  burnable : s.features.burnable = t.features.burnable
  pausable : s.features.pausable = t.features.pausable

/-- What matters for unique assets. -/
structure AgreeUnique (s t : Spec) : Prop extends AgreeFeatures s t where
  name : s.name = t.name
  symbol : s.symbol = t.symbol

/-- What matters for many assets in one contract. -/
structure AgreeMulti (s t : Spec) : Prop extends AgreeFeatures s t where
  /-- The contracts have one name. -/
  contract : Identifier.ofSymbol s.symbol Kind.multiAsset.catalogue.suffix =
    Identifier.ofSymbol t.symbol Kind.multiAsset.catalogue.suffix

/-- Two specs agree in what matters for a kind. -/
def Agree : Kind → Spec → Spec → Prop
  | .fungible => AgreeFungible
  | .uniqueAsset => AgreeUnique
  | .multiAsset => AgreeMulti

variable {s t : Spec} {k : Kind}

/-- Beside the base URI three toggles decide on the features of a token that is not fungible. -/
lemma AgreeFeatures.has_eq (h : AgreeFeatures s t) (hs : s.standard = .known k)
    (ht : t.standard = .known k) (hk : k ≠ .fungible) (f : Feature) :
    s.normalize.has f = t.normalize.has f := by
  rw [has_normalize hs, has_normalize ht]
  cases f with
  | mintable => simp [Flags.isOn, h.mintable]
  | burnable => simp [Flags.isOn, h.burnable]
  | pausable => simp [Flags.isOn, h.pausable]
  | uriStorage => simp [h.uri]
  | _ => simp [Feature.appliesTo, hk]

/-- Normalization leaves two specs that agree with the same of all that matters. -/
lemma Agree.sameFor (h : Agree k s t) (hs : s.standard = .known k) (ht : t.standard = .known k)
    (haccess : s.access = t.access) : Normalized.SameFor k s.normalize t.normalize := by
  have hstandard : s.standard = t.standard := hs.trans ht.symm
  cases k with
  | fungible =>
    obtain ⟨hname, hsymbol, hdecimals, hsupply, hfeatures⟩ := h
    have heffective : s.effectiveDecimals = t.effectiveDecimals := by
      rw [← UInt8.toNat_inj, toNat_effectiveDecimals, toNat_effectiveDecimals]
      exact hdecimals
    refine
      { standard := hstandard
        access := haccess
        has := fun f => ?_
        contract := by rw [normalize_symbol, normalize_symbol, hsymbol]
        name := fun _ => hname
        symbol := fun _ => hsymbol
        uri := fun hk => absurd rfl hk
        decimals := fun _ => heffective
        supply := fun _ => hsupply }
    rw [has_normalize hs, has_normalize ht, hfeatures]
    cases f <;> rfl
  | uniqueAsset =>
    obtain ⟨hagree, hname, hsymbol⟩ := h
    exact
      { standard := hstandard
        access := haccess
        has := hagree.has_eq hs ht (by decide)
        contract := by rw [normalize_symbol, normalize_symbol, hsymbol]
        name := fun _ => hname
        symbol := fun _ => hsymbol
        uri := fun hk => by
          rw [baseMetadataUri_normalize hs hk, baseMetadataUri_normalize ht hk, hagree.uri]
        decimals := nofun
        supply := nofun }
  | multiAsset =>
    obtain ⟨hagree, hcontract⟩ := h
    exact
      { standard := hstandard
        access := haccess
        has := hagree.has_eq hs ht (by decide)
        contract := hcontract
        name := fun hk => absurd rfl hk
        symbol := fun hk => absurd rfl hk
        uri := fun hk => by
          rw [baseMetadataUri_normalize hs hk, baseMetadataUri_normalize ht hk, hagree.uri]
        decimals := nofun
        supply := nofun }

/-- The supplies of fungible tokens agree exactly if the same numbers of units are asked for, in
whatever spelling. -/
lemma initialSupply_eq_iff (hs : s.standard = .known .fungible)
    (ht : t.standard = .known .fungible) :
    s.normalize.initialSupply = t.normalize.initialSupply ↔
      ∀ units, s.AsksFor units ↔ t.AsksFor units := by
  have hasks : ∀ {spec : Spec}, spec.standard = .known .fungible → ∀ units : ℕ,
      spec.AsksFor units ↔ spec.normalize.initialSupply = some units.repr := by
    intro spec hspec units
    rw [initialSupply_eq_some hspec]
    constructor
    · exact fun h => ⟨units, h, rfl⟩
    · rintro ⟨other, h, hrepr⟩
      -- a number can be read off its digits
      have hvalue := congrArg (fun text : String => Nat.ofDigitChars 10 text.toList 0) hrepr
      simp only [Nat.toList_repr, Nat.ofDigitChars_ten_toDigits] at hvalue
      rwa [hvalue]
  constructor
  · intro h units
    rw [hasks hs, hasks ht, h]
  · intro h
    refine Option.ext fun amount => ?_
    rw [initialSupply_eq_some hs, initialSupply_eq_some ht]
    exact exists_congr fun units => and_congr_left fun _ => h units

/-- **What does not apply has no influence.**  Two specs of one kind with one access model that
agree in what matters for the kind stand for the same contract: one source, one fingerprint, one
name, the same decimals and the same features.  The supplies of fungible tokens agree if they come
to the same amount, however it is spelled, or if neither comes to any.  And where roles are asked
for, it does not matter whether an owner is asked for as well. -/
theorem contract_relevant :
    (∀ (k : Kind) (s t : Spec), s.standard = .known k → t.standard = .known k →
      s.access = t.access → Agree k s t → ∃ c, s.contract = .ok c ∧ t.contract = .ok c) ∧
    (∀ s t : Spec, s.standard = .known .fungible → t.standard = .known .fungible →
      (s.normalize.initialSupply = t.normalize.initialSupply ↔
        ∀ units, s.AsksFor units ↔ t.AsksFor units)) ∧
    ∀ (s : Spec) (ownable : Bool), s.roleBased = true →
      s.access = .roles ∧ { s with ownable := ownable }.access = .roles ∧
        { s with ownable := ownable }.contract = s.contract := by
  refine ⟨?_, ?_, ?_⟩
  · intro k s t hs ht haccess hagree
    refine ⟨_, contract_known hs, ?_⟩
    rw [contract_known ht, (hagree.sameFor hs ht haccess).contractFor_eq]
  · intro s t hs ht
    exact initialSupply_eq_iff hs ht
  · intro s ownable hroles
    have haccess : s.access = .roles := by
      rw [access, hroles, Access.resolve_roleBased]
    have haccess' : { s with ownable := ownable }.access = .roles := by
      rw [access, hroles, Access.resolve_roleBased]
    have hnormalize : { s with ownable := ownable }.normalize = s.normalize := by
      rw [normalize, normalize, haccess, haccess']
      rfl
    refine ⟨haccess, haccess', ?_⟩
    rw [contract, contract, hnormalize]

/-- Many assets, with nothing filled in that does not apply. -/
def sparse : Spec :=
  { named (.known .multiAsset) "" "C-1" with
    baseMetadataUri := "ipfs://", ownable := false, roleBased := true }

/-- The same, with all filled in that does not apply. -/
def cluttered : Spec :=
  { named (.known .multiAsset) "Coin\"" "C1\n" with
    decimals := 200, initialSupply := "12", maxSupply := "?", baseMetadataUri := "ipfs://",
    features := { permit := true, votes := true, flashMint := true, snapshots := true },
    roleBased := true }

/-- Fungible tokens with as many decimals as a word can scale by. -/
def widest : Spec :=
  { named (.known .fungible) "Coin" "C" with decimals := 77, initialSupply := "1" }

/-- The same, with more decimals than that, the supply in another spelling, and a base URI. -/
def widestRespelled : Spec :=
  { widest with decimals := 255, initialSupply := " 0_1.0", baseMetadataUri := "ipfs://" }

theorem contract_relevant_cluttered :
    sparse ≠ cluttered ∧ (∃ c, sparse.contract = .ok c ∧ cluttered.contract = .ok c) ∧
      widest ≠ widestRespelled ∧
      ∃ c, widest.contract = .ok c ∧ widestRespelled.contract = .ok c := by
  have hname : Identifier.ofSymbol sparse.symbol Kind.multiAsset.catalogue.suffix =
      Identifier.ofSymbol cluttered.symbol Kind.multiAsset.catalogue.suffix := by decide
  have hsupply : widest.normalize.initialSupply = widestRespelled.normalize.initialSupply := by
    decide +kernel
  refine ⟨by decide, ?_, by decide, ?_⟩
  · exact contract_relevant.1 .multiAsset sparse cluttered rfl rfl rfl
      ⟨⟨rfl, rfl, rfl, rfl⟩, hname⟩
  · exact contract_relevant.1 .fungible widest widestRespelled rfl rfl rfl
      ⟨rfl, rfl, rfl, hsupply, rfl⟩

end Spec
end TokenLaunch
