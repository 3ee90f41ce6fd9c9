/-
# The inheritance chain

Whatever the features are, a chain is made of the components that the tables of its kind hold, in
their order, and of the component of its access model.  So it inherits nothing twice, and of the
two access components it inherits the one that its access model asks for.

What a contract is made with can be seen in its chain: the kind (`Kind.base_injective`), the access
model (`access_eq_of_chain_eq`) and each feature that has a component (`mem_chain_iff_has`).
Conversely features and access model make the chain, and with the supply the rest of the blueprint,
constructor calls apart (`blueprintFor_congr`).  Which features those are that normalization leaves
of a spec is said by `Spec.has_normalize`.
-/
import Mathlib.Tactic
import TokenLaunch.Contract.Bundle

namespace TokenLaunch

/-- The components of a kind and an access model, whatever the features are. -/
def Kind.components (k : Kind) (access : Access) : List Component :=
  k.catalogue.base :: (k.catalogue.extensions.map Prod.snd ++ k.catalogue.required ++
    Blueprint.accessComponents access)

lemma Kind.nodup_components (k : Kind) (access : Access) : (k.components access).Nodup := by
  cases k <;> cases access <;> decide

/-- Of the access components only that of the access model is there. -/
lemma Kind.mem_components (k : Kind) (access : Access) {c : Component}
    (hc : c ∈ k.components access) (haccess : c = .ownable ∨ c = .accessControl) :
    c ∈ Blueprint.accessComponents access := by
  have hclosed : ∀ c ∈ k.components access, c = .ownable ∨ c = .accessControl →
      c ∈ Blueprint.accessComponents access := by
    cases k <;> cases access <;> decide
  exact hclosed c hc haccess

/-- The base tells the kind. -/
lemma Kind.base_injective {k l : Kind} (h : k.catalogue.base = l.catalogue.base) : k = l := by
  revert h
  cases k <;> cases l <;> decide

/-- A feature that a kind knows has a component, or it lets the contract mint. -/
lemma Kind.eq_mintable_or_mem_extensions {k : Kind} {f : Feature} (h : f.appliesTo k = true) :
    f = .mintable ∨ f ∈ k.catalogue.extensions.map Prod.fst := by
  revert h
  cases k <;> cases f <;> decide

namespace Normalized

variable {n : Normalized} {k : Kind}

lemma chain_sublist (n : Normalized) (k : Kind) : (n.chain k).Sublist (k.components n.access) := by
  refine List.Sublist.cons_cons _ (List.Sublist.append_right (List.Sublist.append_right ?_ _) _)
  exact List.filter_sublist.map _

/-- No component is inherited twice. -/
lemma nodup_chain (n : Normalized) (k : Kind) : (n.chain k).Nodup :=
  (k.nodup_components n.access).sublist (n.chain_sublist k)

lemma mem_chain_of_mem_accessComponents {c : Component}
    (h : c ∈ Blueprint.accessComponents n.access) : c ∈ n.chain k :=
  List.mem_cons_of_mem _ (List.mem_append_right _ h)

lemma not_mem_chain {c : Component} (haccess : c = .ownable ∨ c = .accessControl)
    (h : c ∉ Blueprint.accessComponents n.access) : c ∉ n.chain k :=
  fun hmem => h (k.mem_components n.access ((n.chain_sublist k).subset hmem) haccess)

/-- A feature is active if and only if its component is inherited. -/
lemma mem_chain_iff_has {e : Feature × Component} (he : e ∈ k.catalogue.extensions) :
    e.2 ∈ n.chain k ↔ n.has e.1 = true := by
  have hmem : e.2 ∈ k.catalogue.extensions.map Prod.snd := List.mem_map_of_mem he
  obtain ⟨hbase, hrest⟩ := List.nodup_cons.mp (k.nodup_components n.access)
  rw [List.append_assoc] at hrest
  obtain ⟨hextensions, -, hapart⟩ := List.nodup_append.mp hrest
  -- no component is in two of the tables, so only the extensions can hold this one
  rw [chain, List.append_assoc, List.mem_cons, List.mem_append]
  constructor
  · rintro (h | h | h)
    · exact absurd (List.mem_append_left _ (List.mem_append_left _ (h ▸ hmem))) hbase
    · -- and there every feature has a component of its own
      obtain ⟨d, hd, heq⟩ := List.mem_map.mp h
      obtain ⟨hd, hon⟩ := List.mem_filter.mp hd
      rwa [List.inj_on_of_nodup_map hextensions hd he heq] at hon
    · exact absurd rfl (hapart _ hmem _ h)
  · intro h
    exact Or.inr (Or.inl (List.mem_map_of_mem (List.mem_filter.mpr ⟨he, h⟩)))

/-- The access component tells the access model. -/
lemma access_eq_of_chain_eq {m : Normalized} (h : n.chain k = m.chain k) : n.access = m.access := by
  have htells : ∀ a b : Access,
      (∀ c ∈ [Component.ownable, .accessControl],
        (c ∈ Blueprint.accessComponents a ↔ c ∈ Blueprint.accessComponents b)) → a = b := by
    intro a b
    cases a <;> cases b <;> decide
  refine htells _ _ fun c hc => ?_
  have haccess : c = .ownable ∨ c = .accessControl := by simpa using hc
  have hmem : ∀ n : Normalized, c ∈ Blueprint.accessComponents n.access ↔ c ∈ n.chain k :=
    fun n => ⟨mem_chain_of_mem_accessComponents, not_imp_not.mp (not_mem_chain haccess)⟩
  rw [hmem, hmem, h]

section Congr

variable {m : Normalized} (hhas : ∀ f, n.has f = m.has f) (haccess : n.access = m.access)

include hhas haccess

lemma chain_congr : n.chain k = m.chain k := by
  have hextensions : (fun e : Feature × Component => n.has e.1) = fun e => m.has e.1 :=
    funext fun e => hhas e.1
  rw [chain, chain, hextensions, haccess]

/-- Features, access model and supply make a blueprint, but for the constructor calls. -/
lemma blueprintFor_congr (hsupply : k = .fungible → n.initialSupply = m.initialSupply) :
    m.blueprintFor k =
      { n.blueprintFor k with constructorCalls := (m.blueprintFor k).constructorCalls } := by
  have hchain : m.chain k = n.chain k := (chain_congr hhas haccess).symm
  have hmint : m.features.mintable = n.features.mintable := (hhas .mintable).symm
  have hpause : m.features.pausable = n.features.pausable := (hhas .pausable).symm
  have hsnapshot : m.features.snapshots = n.features.snapshots := (hhas .snapshots).symm
  have huses : m.uses k = n.uses k := by
    funext c
    cases c <;> simp [uses, hmint, hpause]
  have hmints : (if k = .fungible then m.initialSupply.toList.map Statement.mintSupply else []) =
      if k = .fungible then n.initialSupply.toList.map Statement.mintSupply else [] := by
    split_ifs with hk
    · rw [hsupply hk]
    · rfl
  simp only [blueprintFor, constructorBody, privileged, capabilities, hchain, hmints, huses, hmint,
    hpause, hsnapshot, haccess]

end Congr

end Normalized

/-! ## Features of a spec -/

namespace Spec

variable {spec : Spec} {k : Kind} (hstandard : spec.standard = .known k)

include hstandard

/-- The features of a normalized spec are the toggles of those that its kind knows, and the one
that follows from the base URI. -/
lemma has_normalize (f : Feature) : spec.normalize.has f =
    if f = .uriStorage then decide (k = .uniqueAsset) && !spec.baseMetadataUri.isEmpty
    else spec.features.isOn f && f.appliesTo k := by
  have htoggle : spec.normalize.features.isOn f = (spec.features.isOn f && f.appliesTo k) := by
    rw [normalize, Flags.isOn_restrict, Feature.appliesToStandard, hstandard]
    rfl
  cases f with
  | uriStorage =>
    rw [if_pos rfl, Normalized.has, normalize_standard, hstandard]
    cases k with
    | uniqueAsset => simp [normalize, isFungible, hstandard]
    | _ => rfl
  | _ =>
    rw [if_neg (by decide)]
    exact htoggle

/-- A spec has no feature that its kind does not know. -/
lemma has_normalize_of_not_appliesTo {f : Feature} (hf : f.appliesTo k = false) :
    spec.normalize.has f = false := by
  rw [has_normalize hstandard]
  split_ifs with huri
  · subst huri
    have hk : decide (k = .uniqueAsset) = false := hf
    rw [hk, Bool.false_and]
  · rw [hf, Bool.and_false]

/-- The base URI is kept where there can be one. -/
lemma baseMetadataUri_normalize (hk : k ≠ .fungible) :
    spec.normalize.baseMetadataUri = spec.baseMetadataUri := by
  simp [normalize, isFungible, hstandard, hk]

end Spec
end TokenLaunch
