/-
# Constructor calls

A contract calls the constructors of its components that take arguments, and no others.  These are
the base, which comes first, and two more if they are inherited (`filter_takesArguments`).  What the
calls pass on are texts of the spec and the deploying account (`constructorCalls_blueprintFor`).
-/
import TokenLaunch.Proofs.Features

namespace TokenLaunch

open Solidity

/-- The components whose constructors take arguments. -/
def Component.takesArguments : Component → Bool
  | erc20 | erc20Permit | erc721 | erc1155 | ownable => true
  | _ => false

namespace Normalized

variable (n : Normalized) (k : Kind)

lemma isSome_constructorCall? (c : Component) :
    (n.constructorCall? c).isSome = c.takesArguments := by
  cases c <;> rfl

/-- The constructors that a contract calls take arguments, and no others do. -/
lemma filterMap_takesArguments : ((n.chain k).filter Component.takesArguments).filterMap
    n.constructorCall? = (n.blueprintFor k).constructorCalls := by
  rw [blueprintFor, List.filterMap_filter]
  refine List.filterMap_congr fun c _ => ?_
  have hsome := n.isSome_constructorCall? c
  cases htakes : c.takesArguments with
  | true => rfl
  | false =>
    rw [htakes, Option.isSome_eq_false_iff, Option.isNone_iff_eq_none] at hsome
    rw [hsome]
    rfl

/-- The base is among them and first, and only two others may be. -/
lemma filter_takesArguments : (n.chain k).filter Component.takesArguments =
    k.catalogue.base ::
      [Component.erc20Permit, .ownable].filter fun c => decide (c ∈ n.chain k) := by
  have hcomponents : (k.components n.access).filter Component.takesArguments =
      k.catalogue.base ::
        [Component.erc20Permit, .ownable].filter fun c => decide (c ∈ k.components n.access) := by
    cases k <;> cases n.access <;> decide
  have hbase : k.catalogue.base ∈ n.chain k := List.mem_cons_self
  have hsubset : ∀ c ∈ n.chain k, c ∈ k.components n.access :=
    fun c hc => (n.chain_sublist k).subset hc
  -- a chain picks its components from those of its kind, in their order
  have hchain : (k.components n.access).filter (fun c => decide (c ∈ n.chain k)) = n.chain k := by
    have hsublist := (n.chain_sublist k).filter fun c => decide (c ∈ n.chain k)
    rw [List.filter_eq_self.mpr fun c hc => decide_eq_true hc] at hsublist
    have hnodup := (k.nodup_components n.access).filter fun c => decide (c ∈ n.chain k)
    have hback : (k.components n.access).filter (fun c => decide (c ∈ n.chain k)) ⊆ n.chain k :=
      fun c hc => of_decide_eq_true (List.mem_filter.mp hc).2
    exact (hsublist.eq_of_length_le (hnodup.subperm hback).length_le).symm
  calc (n.chain k).filter Component.takesArguments
      = ((k.components n.access).filter Component.takesArguments).filter
          (fun c => decide (c ∈ n.chain k)) := by rw [List.filter_comm, hchain]
    _ = k.catalogue.base :: [Component.erc20Permit, .ownable].filter
          (fun c => decide (c ∈ n.chain k)) := by
      rw [hcomponents, List.filter_cons, if_pos (decide_eq_true hbase), List.filter_filter]
      refine congrArg _ (List.filter_congr fun c _ => ?_)
      by_cases hc : c ∈ n.chain k
      · simp [hc, hsubset c hc]
      · simp [hc]

end Normalized

/-! ## What is passed on -/

namespace Spec

/-- The arguments that a component's constructor takes, where it takes any. -/
def arguments (spec : Spec) : Component → List Argument
  | .erc20 | .erc721 => [.text spec.name, .text spec.symbol]
  | .erc20Permit => [.text spec.name]
  | .erc1155 => [.text spec.baseMetadataUri]
  | .ownable => [.sender]
  | _ => []

variable {spec : Spec} {k : Kind} (hstandard : spec.standard = .known k)

include hstandard

/-- The constructor calls of a contract, one for each constructor that takes arguments. -/
lemma constructorCalls_blueprintFor : (spec.normalize.blueprintFor k).constructorCalls =
    ((spec.normalize.chain k).filter Component.takesArguments).map
      fun c => ⟨c, spec.arguments c⟩ := by
  rw [← Normalized.filterMap_takesArguments, ← List.filterMap_eq_map]
  refine List.filterMap_congr fun c hc => ?_
  obtain ⟨hchain, htakes⟩ := List.mem_filter.mp hc
  cases c with
  | erc1155 =>
    obtain rfl := Normalized.erc1155_mem_chain_iff.mp hchain
    have huri := baseMetadataUri_normalize hstandard (by decide)
    rw [Normalized.constructorCall?, huri]
    rfl
  | erc20 | erc20Permit | erc721 | ownable => rfl
  -- the constructors of all others take no arguments
  | _ => cases htakes

end Spec
end TokenLaunch
