/-
# Overrides are complete

Where two inherited components implement one method, the contract has to override it and to name
the implementors, all of them and no other.  Which components meet depends on the tables of the
kind, on the features and on the access model; `Override.Complete` says what the overrides of a
blueprint must be.  They are, in the blueprint and in the text:

* for each conflict of the kind there is one override, or none if fewer than two components meet
  (`complete_blueprintFor`);
* the functions of the text that bear the name of a hook are those overrides, each with the clause
  that lists its components (`hookClauses_file`).
-/
import TokenLaunch.Proofs.Chain
import TokenLaunch.Proofs.Source.Contract

namespace TokenLaunch

open Solidity
open Token (ofChars word mark)

/-- The components of a chain that implement the hook of a conflict. -/
def Conflict.meeting (rule : Conflict) (chain : List Component) : List Component :=
  chain.filter fun c => c ∈ rule.implementors

/-- What the overrides of a chain must be. -/
structure Override.Complete (rules : List Conflict) (chain : List Component)
    (overrides : List Override) : Prop where
  /-- They stand in the order of the conflicts, and each is there on account of one. -/
  order : (overrides.map Override.hook).Sublist (rules.map Conflict.hook)
  /-- A conflict has one override as soon as two components meet, which names them all. -/
  block : ∀ rule ∈ rules, overrides.filter (fun o => o.hook = rule.hook) =
    if 2 ≤ (rule.meeting chain).length then [⟨rule.hook, rule.meeting chain⟩] else []

/-! ## The overrides of a blueprint -/

section Conflicts

variable {chain : List Component} {rules : List Conflict} {rule : Conflict}

lemma overrideFor?_eq (rule : Conflict) (chain : List Component) :
    Blueprint.overrideFor? chain rule =
      if 2 ≤ (rule.meeting chain).length then some ⟨rule.hook, rule.meeting chain⟩ else none := by
  have hmeeting : (chain.filter fun c => rule.implementors.contains c) = rule.meeting chain := by
    simp [Conflict.meeting]
  rw [Blueprint.overrideFor?, hmeeting]

lemma hook_of_overrideFor? {o : Override} (h : Blueprint.overrideFor? chain rule = some o) :
    o.hook = rule.hook := by
  rw [overrideFor?_eq] at h
  split_ifs at h
  rw [← Option.some.inj h]

/-- Rules are gone through in their order; each leaves an override of its own hook or nothing. -/
lemma sublist_overrides (rules : List Conflict) :
    ((rules.filterMap (Blueprint.overrideFor? chain)).map Override.hook).Sublist
      (rules.map Conflict.hook) := by
  induction rules with
  | nil => exact List.Sublist.slnil
  | cons rule rules ih =>
    cases h : Blueprint.overrideFor? chain rule with
    | none =>
      rw [List.filterMap_cons_none h]
      exact ih.cons _
    | some o =>
      rw [List.filterMap_cons_some h, List.map_cons, List.map_cons, hook_of_overrideFor? h]
      exact ih.cons_cons _

/-- Of the overrides for rules with other hooks none has the hook. -/
lemma filter_overrides_eq_nil {hook : Hook} (h : hook ∉ rules.map Conflict.hook) :
    (rules.filterMap (Blueprint.overrideFor? chain)).filter (fun o => o.hook = hook) = [] := by
  refine List.filter_eq_nil_iff.mpr fun o ho => ?_
  obtain ⟨rule, hrule, hoverride⟩ := List.mem_filterMap.mp ho
  have hhook := hook_of_overrideFor? hoverride
  rintro heq
  exact h (List.mem_map.mpr ⟨rule, hrule, by simpa [hhook] using heq⟩)

lemma filter_overrides (hnodup : (rules.map Conflict.hook).Nodup) (hrule : rule ∈ rules) :
    (rules.filterMap (Blueprint.overrideFor? chain)).filter (fun o => o.hook = rule.hook) =
      (Blueprint.overrideFor? chain rule).toList := by
  induction rules with
  | nil => exact absurd hrule List.not_mem_nil
  | cons first rules ih =>
    obtain ⟨hfirst, hrest⟩ := List.nodup_cons.mp hnodup
    rcases List.mem_cons.mp hrule with rfl | hmem
    · -- the rule itself: none of the later rules has its hook
      have hnone : (rules.filterMap (Blueprint.overrideFor? chain)).filter
          (fun o => o.hook = rule.hook) = [] := filter_overrides_eq_nil hfirst
      cases h : Blueprint.overrideFor? chain rule with
      | none => rw [List.filterMap_cons_none h, hnone, Option.toList_none]
      | some o =>
        rw [List.filterMap_cons_some h,
          List.filter_cons_of_pos (by simpa using hook_of_overrideFor? h), hnone,
          Option.toList_some]
    · -- an earlier rule: what it leaves is of another hook
      have hne : first.hook ≠ rule.hook := by
        rintro heq
        exact hfirst (heq ▸ List.mem_map_of_mem hmem)
      cases h : Blueprint.overrideFor? chain first with
      | none =>
        rw [List.filterMap_cons_none h]
        exact ih hrest hmem
      | some o =>
        rw [List.filterMap_cons_some h,
          List.filter_cons_of_neg (by simpa [hook_of_overrideFor? h] using hne)]
        exact ih hrest hmem

end Conflicts

lemma Kind.nodup_hooks (k : Kind) : (k.catalogue.conflicts.map Conflict.hook).Nodup := by
  cases k <;> decide

/-- The overrides of a blueprint are complete. -/
lemma Normalized.complete_blueprintFor (n : Normalized) (k : Kind) :
    Override.Complete k.catalogue.conflicts (n.chain k) (n.blueprintFor k).overrides where
  order := sublist_overrides _
  block rule hrule := by
    rw [Normalized.blueprintFor, filter_overrides k.nodup_hooks hrule, overrideFor?_eq]
    split_ifs <;> rfl

/-! ## The overrides in the text -/

namespace Layout

variable {layout : Kind} {b : Blueprint} {n : Normalized}

/-- The header of an override has one clause, and that lists the components. -/
lemma overrideClause_header (layout : Kind) (o : Override) :
    calls "override" (overrideFunction layout o).headerTokens =
      [listing (o.components.map Component.name)] := by
  have hbefore : ∀ (layout : Kind) (h : Hook), word "override" ∉
      (Head.function h.method (hookParameters layout h)).parameters ++
        ((hookVisibility h).map Line.ofCode).flatMap Line.tokens := by
    intro layout h
    cases layout <;> cases h <;> decide
  have hafter : ∀ h : Hook,
      word "override" ∉ ((hookReturns h).map Line.ofCode).flatMap Line.tokens := by
    intro h
    cases h <;> decide
  have hname : ∀ c : Component, c.name ≠ "override" := by
    intro c
    cases c <;> decide
  have hclose : mark ')' ∉ listing (o.components.map Component.name) := by
    intro hmem
    rcases mem_listing hmem with h | ⟨name, -, h⟩
    · exact absurd h (by decide)
    · exact Token.noConfusion h
  have hclause : word "override" ∉ listing (o.components.map Component.name) := by
    intro hmem
    rcases mem_listing hmem with h | ⟨name, hcomponent, h⟩
    · exact Token.noConfusion h
    · obtain ⟨c, -, rfl⟩ := List.mem_map.mp hcomponent
      exact hname c (Token.word.inj h).symm
  have htokens : (overrideFunction layout o).headerTokens =
      ((Head.function o.hook.method (hookParameters layout o.hook)).parameters ++
        ((hookVisibility o.hook).map Line.ofCode).flatMap Line.tokens) ++
        (word "override" :: mark '(' :: (listing (o.components.map Component.name) ++ mark ')' ::
          ((hookReturns o.hook).map Line.ofCode).flatMap Line.tokens)) := by
    rw [Routine.headerTokens, overrideFunction, List.flatMap_append, List.flatMap_append,
      List.flatMap_singleton, tokens_overrideClause]
    simp only [List.append_assoc, List.cons_append, List.nil_append]
  rw [htokens]
  exact ((reads_of_not_mem (hbefore layout o.hook)).append
    (reads_call hclose hclause (hafter o.hook))).occurrences_eq

/-- Besides overrides no function bears the name of a hook. -/
lemma name_ne_method {r : Routine}
    (h : r ∈ fixedRoutines layout n ++ b.methods.flatMap (methodFunctions layout b)) (hook : Hook) :
    r.declaration.name ≠ hook.method := by
  rcases List.mem_append.mp h with hr | hr
  · -- a fixed function
    have hfixed : hook.method ∉ ["decimals", "_baseURI"] := by
      cases hook <;> decide
    exact fun heq => hfixed (heq ▸ name_fixed hr)
  · -- a function of a privileged method
    obtain ⟨m, -, hr⟩ := List.mem_flatMap.mp hr
    obtain ⟨name, parameters, body, wrapped, rfl, hname, -⟩ := guardedBy_method r hr
    have hmethod : hook.method ∉ functionNames m.kind := by
      cases hook <;> cases m.kind <;> decide
    exact fun heq => hmethod (heq ▸ hname)

/-- **The functions of a text that bear the name of a hook** are the overrides of the hook, and the
clause of each lists its components. -/
theorem hookClauses_file (h : b.Sound) (hook : Hook) :
    ((functions (tokensOf (file layout b n).text)).filter
        (fun d => d.name = hook.method)).map (fun d => calls "override" d.header) =
      (b.overrides.filter fun o => o.hook = hook).map fun o =>
        [listing (o.components.map Component.name)] := by
  have hothers : ((fixedRoutines layout n ++ b.methods.flatMap (methodFunctions layout b)).map
      Routine.declaration).filter (fun d => d.name = hook.method) = [] := by
    refine List.filter_eq_nil_iff.mpr (List.forall_mem_map.mpr fun r hr => ?_)
    simpa using name_ne_method hr hook
  have hown : ∀ o : Override, (overrideFunction layout o).declaration.name = hook.method ↔
      o.hook = hook := fun o => ⟨Hook.method_injective, congrArg Hook.method⟩
  rw [functions_file h, functionRoutines, List.map_append, List.filter_append, hothers,
    List.nil_append, List.map_map, List.filter_map, List.map_map]
  simp only [Function.comp_def, hown]
  exact List.map_congr_left fun o _ => overrideClause_header layout o

end Layout

/-- **Overrides are complete**, in every blueprint of a kind and in every source.  The chain is what
the tables say and inherits nothing twice; the overrides are those that the conflicts of the kind
ask for, no more and no fewer; and the text declares just these functions under the names of
hooks, with the components in the order of the chain. -/
theorem overrides_complete (k : Kind) :
    (∀ n : Normalized, n.standard = .known k → ∃ b, n.blueprint = .ok b ∧ b.chain.Nodup ∧
      b.chain = k.catalogue.base :: ((k.catalogue.extensions.filter fun e => n.has e.1).map Prod.snd
        ++ k.catalogue.required ++ Blueprint.accessComponents n.access) ∧
      Override.Complete k.catalogue.conflicts b.chain b.overrides) ∧
    ∀ spec : Spec, spec.standard = .known k → ∃ b text, spec.normalize.blueprint = .ok b ∧
      spec.generate = .ok text ∧ ∀ hook : Hook,
        ((functions (tokensOf text)).filter
            (fun d => d.name = hook.method)).map (fun d => calls "override" d.header) =
          (b.overrides.filter fun o => o.hook = hook).map fun o =>
            [listing (o.components.map Component.name)] := by
  constructor
  · intro n hn
    refine ⟨n.blueprintFor k, ?_, n.nodup_chain k, rfl, n.complete_blueprintFor k⟩
    rw [Normalized.blueprint, hn]
    rfl
  · intro spec hspec
    refine ⟨spec.normalize.blueprintFor k, _, ?_, Spec.generate_known hspec, fun hook => ?_⟩
    · rw [Normalized.blueprint, Spec.normalize_standard, hspec]
      rfl
    · exact Layout.hookClauses_file (Spec.sound_blueprintFor spec k) hook

/-- A name that looks like a function, on unique assets with a base URI and roles. -/
def overridesExample : Spec :=
  { Spec.named (.known .uniqueAsset) "\"function tokenURI\"" "T" with
    baseMetadataUri := "ipfs://", roleBased := true }

/-- Three components meet in the query of interfaces. -/
theorem overrides_complete_uniqueAsset :
    ∃ b text, overridesExample.normalize.blueprint = .ok b ∧
      b.chain = [.erc721, .erc721UriStorage, .accessControl] ∧
      overridesExample.generate = .ok text ∧
      ((functions (tokensOf text)).filter
          (fun d => d.name = "supportsInterface")).map (fun d => calls "override" d.header) =
        [[listing ["ERC721", "ERC721URIStorage", "AccessControl"]]] := by
  obtain ⟨b, hb, -, hchain, -⟩ :=
    (overrides_complete .uniqueAsset).1 overridesExample.normalize rfl
  obtain ⟨b', text, hb', htext, hclauses⟩ :=
    (overrides_complete .uniqueAsset).2 overridesExample rfl
  cases hb
  cases hb'
  exact ⟨_, text, rfl, hchain, htext, hclauses .interfaceQuery⟩

end TokenLaunch
