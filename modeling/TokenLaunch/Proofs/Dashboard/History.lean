/-
# The history of a dashboard

What a dashboard holds after many edits is told token by token.  A single edit does to each token
what it would do to it alone (`Edit.on`), and brings at most one new token (`Edit.brings`), so what
becomes of a token is decided by the edits that were made after it was put there
(`tokens_applyAll`).  Of these only two kinds matter: one that removes its id, and the last one that
says of its address whether it is verified (`foldlM_on`).

The result is a history (`applyAll_history`): which tokens are there, in which order and in which
form, which node is talked to, and what every edit answered when it was made.
-/
import TokenLaunch.Proofs.Dashboard.Refinement

namespace TokenLaunch
namespace Store
namespace Edit

open Dashboard (isAt)

/-! ## One edit -/

/-- What an edit makes of a token, if it leaves the token there. -/
def on : Edit → Record → Option Record
  | remove id, r => if r.id = id then none else some r
  | verify address verified, r =>
    some (if isAt address r then { r with verified := verified } else r)
  | add _, r | redirect _, r => some r

/-- The tokens that an edit puts there. -/
def brings : Edit → List Record
  | add r => [r]
  | remove _ | verify _ _ | redirect _ => []

/-- The node that an edit chooses. -/
def endpoint? : Edit → Option String
  | redirect endpoint => some endpoint
  | add _ | remove _ | verify _ _ => none

/-- What an edit says about whether a token is verified. -/
def verdict? (r : Record) : Edit → Option Bool
  | verify address verified => if isAt address r then some verified else none
  | add _ | remove _ | redirect _ => none

/-- An edit treats every token alike, wherever it stands. -/
lemma tokens_apply (e : Edit) (d : Dashboard) :
    (e.apply d).2.tokens = e.brings ++ d.tokens.filterMap e.on := by
  cases e with
  | add r => exact congrArg (List.cons r) List.filterMap_some.symm
  | remove id =>
    have hon : (remove id).on = Option.guard fun r => r.id != id := by
      funext r
      by_cases h : r.id = id <;> simp [on, Option.guard, h]
    rw [hon, List.filterMap_eq_filter]
    rfl
  | verify address verified =>
    exact congrFun (List.filterMap_eq_map (f := fun r : Record =>
      if isAt address r then { r with verified := verified } else r)).symm d.tokens
  | redirect endpoint => exact List.filterMap_some.symm

lemma rpcEndpoint_apply (e : Edit) (d : Dashboard) :
    (e.apply d).2.rpcEndpoint = e.endpoint?.getD d.rpcEndpoint := by
  cases e <;> rfl

/-! ## Edits one after another -/

/-- The dashboard after edits. -/
def applyAll (es : List Edit) (d : Dashboard) : Dashboard :=
  es.foldl (fun d e => (e.apply d).2) d

/-- What edits answer that are made one after another. -/
def answers : List Edit → Dashboard → List Answer
  | [], _ => []
  | e :: es, d => (e.apply d).1 :: answers es (e.apply d).2

/-- Every edit answers for the dashboard as it is at that moment. -/
lemma getElem?_answers (before after : List Edit) (e : Edit) (d : Dashboard) :
    (answers (before ++ e :: after) d)[before.length]? = some (e.apply (applyAll before d)).1 := by
  induction before generalizing d with
  | nil => rfl
  | cons e' before ih => exact ih (e'.apply d).2

/-- The last node that was chosen stays. -/
lemma rpcEndpoint_applyAll (es : List Edit) (d : Dashboard) :
    (applyAll es d).rpcEndpoint = ((es.filterMap endpoint?).getLast?).getD d.rpcEndpoint := by
  induction es generalizing d with
  | nil => rfl
  | cons e es ih =>
    have hstep : (applyAll (e :: es) d).rpcEndpoint = _ := ih (e.apply d).2
    rw [hstep, rpcEndpoint_apply]
    cases h : e.endpoint? with
    | none => rw [List.filterMap_cons_none h, Option.getD_none]
    | some endpoint =>
      rw [List.filterMap_cons_some h, List.getLast?_cons, Option.getD_some, Option.getD_some]

/-! ## One token -/

/-- A token that was put there, with the edits that were made after that. -/
structure Insertion where
  record : Record
  /-- The edits after it was put there, in order. -/
  later : List Edit

namespace Insertion

/-- Whether the token has been forgotten: its id was removed after it was put there. -/
def isForgotten (i : Insertion) : Bool :=
  i.later.any fun
    | remove id => id == i.record.id
    | _ => false

/-- The token as it is after the edits: the last of them that says of its address whether it is
verified decides that, and nothing else changes. -/
def token (i : Insertion) : Record :=
  { i.record with
    verified := (i.later.reverse.findSome? (verdict? i.record)).getD i.record.verified }

/-- The token after the edits, unless it has been forgotten. -/
def survivor? (i : Insertion) : Option Record :=
  if i.isForgotten then none else some i.token

end Insertion

/-- The verdict on a token does not depend on whether it is verified. -/
lemma verdict?_verified (r : Record) (verified : Bool) :
    verdict? { r with verified := verified } = verdict? r := by
  funext e
  cases e <;> rfl

/-- **What becomes of one token.**  Edits that treat it one after another remove it exactly if one
of them removes its id, and else leave it with the last verdict on its address. -/
lemma foldlM_on (later : List Edit) (r : Record) :
    later.foldlM (fun r e => e.on r) r = Insertion.survivor? ⟨r, later⟩ := by
  induction later generalizing r with
  | nil => rfl
  | cons e later ih =>
    rw [List.foldlM_cons]
    cases e with
    | add r' =>
      refine (ih r).trans ?_
      simp [Insertion.survivor?, Insertion.isForgotten, Insertion.token, verdict?]
    | redirect endpoint =>
      refine (ih r).trans ?_
      simp [Insertion.survivor?, Insertion.isForgotten, Insertion.token, verdict?]
    | remove id =>
      by_cases h : r.id = id
      · simp [on, h, Insertion.survivor?, Insertion.isForgotten]
      · have hid : (id == r.id) = false := beq_false_of_ne (Ne.symm h)
        have hon : (remove id).on r = some r := if_neg h
        rw [hon]
        refine (ih r).trans ?_
        simp [Insertion.survivor?, Insertion.isForgotten, Insertion.token, verdict?, hid]
    | verify address verified =>
      -- a verdict counts only where no later one does
      by_cases h : isAt address r
      · have hon : (verify address verified).on r = some { r with verified := verified } :=
          congrArg some (if_pos h)
        rw [hon]
        refine (ih _).trans ?_
        simp only [Insertion.survivor?, Insertion.isForgotten, Insertion.token, verdict?_verified]
        cases hlater : later.reverse.findSome? (verdict? r) <;>
          simp [List.findSome?_append, verdict?, h, hlater]
      · have hon : (verify address verified).on r = some r := congrArg some (if_neg h)
        rw [hon]
        refine (ih r).trans ?_
        simp [Insertion.survivor?, Insertion.isForgotten, Insertion.token, verdict?, h,
          List.findSome?_append]

/-! ## All tokens -/

/-- The tokens that edits put there, in order. -/
def insertions : List Edit → List Insertion
  | [] => []
  | e :: es => e.brings.map (⟨·, es⟩) ++ insertions es

/-- Every token that was there at any time, the latest first: those that edits put there, in front
of those that were there before all edits. -/
def everHeld (es : List Edit) (d : Dashboard) : List Insertion :=
  (insertions es).reverse ++ d.tokens.map (⟨·, es⟩)

/-- The edits that come after a token was put there are those after the edit that put it there. -/
lemma mem_insertions {es : List Edit} {i : Insertion} :
    i ∈ insertions es ↔ ∃ before, es = before ++ add i.record :: i.later := by
  induction es with
  | nil => simp [insertions]
  | cons e es ih =>
    rw [insertions, List.mem_append, ih]
    constructor
    · rintro (hnew | ⟨before, rfl⟩)
      · obtain ⟨r, hr, rfl⟩ := List.mem_map.mp hnew
        cases e with
        | add r' =>
          obtain rfl := List.mem_singleton.mp hr
          exact ⟨[], rfl⟩
        | _ => cases hr
      · exact ⟨e :: before, rfl⟩
    · rintro ⟨_ | ⟨e', before⟩, h⟩
      · obtain ⟨rfl, rfl⟩ := List.cons.inj h
        exact .inl (by simp [brings])
      · obtain ⟨rfl, rfl⟩ := List.cons.inj h
        exact .inr ⟨before, rfl⟩

/-- The records that were ever put there, the latest first. -/
lemma map_record_everHeld (es : List Edit) (d : Dashboard) :
    (everHeld es d).map Insertion.record = (es.flatMap brings).reverse ++ d.tokens := by
  have hadded : (insertions es).map Insertion.record = es.flatMap brings := by
    induction es with
    | nil => rfl
    | cons e es ih => simp [insertions, ih, Function.comp_def]
  simp [everHeld, hadded, Function.comp_def]

/-- The tokens after edits are those that were ever there and that survive. -/
lemma tokens_applyAll (es : List Edit) (d : Dashboard) :
    (applyAll es d).tokens = (everHeld es d).filterMap Insertion.survivor? := by
  induction es generalizing d with
  | nil =>
    have hkept : (fun r : Record => Insertion.survivor? ⟨r, []⟩) = some := rfl
    simp [applyAll, everHeld, insertions, List.filterMap_map, hkept]
  | cons e es ih =>
    have hstep : (applyAll (e :: es) d).tokens = _ := ih (e.apply d).2
    have hnew : (e.brings.map (⟨·, es⟩)).filterMap Insertion.survivor? =
        (e.brings.map (⟨·, es⟩)).reverse.filterMap Insertion.survivor? := by
      cases e <;> rfl
    -- what the first edit leaves of an old token goes through the other edits
    have hold : ((d.tokens.filterMap e.on).map (⟨·, es⟩)).filterMap Insertion.survivor? =
        (d.tokens.map (⟨·, e :: es⟩)).filterMap Insertion.survivor? := by
      rw [List.filterMap_map, List.filterMap_map, List.filterMap_filterMap]
      refine List.filterMap_congr fun r _ => ?_
      refine Eq.trans ?_ (foldlM_on (e :: es) r)
      exact congrArg (Option.bind (e.on r)) (funext fun r' => (foldlM_on es r').symm)
    rw [hstep, everHeld, everHeld, tokens_apply, insertions, List.reverse_append,
      List.filterMap_append, List.map_append, List.filterMap_append, hnew, hold,
      List.filterMap_append, List.filterMap_append, List.append_assoc]

/-- **The history of a dashboard.**  After any edits it holds the tokens that were ever put there,
latest first, and behind them those that were there before, but for those whose id was removed after
they were put there.  A token that is left is as it was put there, but that it is verified exactly
if the last edit after that with its address, in any letter case, says so, where there is one.  The
node is the last one that was chosen, or the one from before.  To remove answers whether there was a
token with the id at that moment, and to verify answers how many tokens were at the address. -/
theorem applyAll_history (es : List Edit) (d : Dashboard) :
    (applyAll es d).tokens =
        ((everHeld es d).filter fun i => !i.isForgotten).map Insertion.token ∧
      (everHeld es d).map Insertion.record = (es.flatMap brings).reverse ++ d.tokens ∧
      (∀ i, i ∈ everHeld es d ↔
        (∃ before, es = before ++ add i.record :: i.later) ∨ i.record ∈ d.tokens ∧ i.later = es) ∧
      (applyAll es d).rpcEndpoint = ((es.filterMap endpoint?).getLast?).getD d.rpcEndpoint ∧
      (∀ before id after, (answers (before ++ remove id :: after) d)[before.length]? =
          some (.removed (decide (∃ r ∈ (applyAll before d).tokens, r.id = id)))) ∧
      ∀ before address verified after,
        (answers (before ++ verify address verified :: after) d)[before.length]? =
          some (.verified ((applyAll before d).tokens.filter fun r =>
            Text.lowerCase r.address = Text.lowerCase address).length) := by
  refine ⟨?_, map_record_everHeld es d, fun i => ?_, rpcEndpoint_applyAll es d, ?_, ?_⟩
  · rw [tokens_applyAll, ← List.filterMap_eq_map, List.filterMap_filter]
    refine List.filterMap_congr fun i _ => ?_
    cases h : i.isForgotten <;> simp [Insertion.survivor?, h]
  · rw [everHeld, List.mem_append, List.mem_reverse, mem_insertions]
    refine or_congr_right ⟨fun h => ?_, fun h => ?_⟩
    · obtain ⟨r, hr, rfl⟩ := List.mem_map.mp h
      exact ⟨hr, rfl⟩
    · exact List.mem_map.mpr ⟨i.record, h.1, by rw [← h.2]⟩
  · intro before id after
    rw [getElem?_answers]
    simp [apply, removing, Dashboard.contains, List.any_eq]
  · intro before address verified after
    rw [getElem?_answers, apply, verifying, Dashboard.countAt, List.countP_eq_length_filter]
    have haddress : isAt address = fun r => decide (Text.lowerCase r.address =
        Text.lowerCase address) := by
      funext r
      rw [isAt, Bool.eq_iff_iff, Text.sameIgnoringCase_iff, decide_eq_true_iff]
    rw [haddress]

end Edit
end Store
end TokenLaunch
