/-
# Steps on the wire

A step is written as an object, and its status as an object in it: the name of the status, and the
reason if it is a failure.  Both are read field by field, so neither the order of the members
matters, the reason may come before the name that it belongs to, nor members that nobody asks for
(`Status.ofJson?_alike`, `Step.ofJson?_alike`).  What reads as a status is said in full
(`Status.ofJson?_eq_some_iff`): a failure has a string for its reason and keeps it, and any other
status has no reason, or null.  So steps are read back from what is written for them, and different
ones are written differently (`Step.wire_faithful`).
-/
import TokenLaunch.Launch.Step
import TokenLaunch.Proofs.Json.Fields
import TokenLaunch.Proofs.Json.ReadBack

namespace TokenLaunch

/-! ## Objects arranged in another way -/

namespace Json

open Fields (under)

/-- An object is arranged in another way: its members change places, a member is put in under a name
that is none of the given ones, or the value of a member is arranged in another way itself. -/
inductive Rearranged (names : List String) (inner : String → Json → Json → Prop) :
    Json → Json → Prop
  | reorder {ms ms' : List (String × Json)} (h : ms.Perm ms') :
    Rearranged names inner (.object ms) (.object ms')
  | insert {n : String} (h : n ∉ names) (x : Json) (front rest : List (String × Json)) :
    Rearranged names inner (.object (front ++ rest)) (.object (front ++ (n, x) :: rest))
  | within {n : String} {j j' : Json} (h : inner n j j') (front rest : List (String × Json)) :
    Rearranged names inner (.object (front ++ (n, j) :: rest)) (.object (front ++ (n, j') :: rest))

/-- Under each of the given names stand values that read the same, in some order. -/
lemma Rearranged.exists_members {names : List String} {inner : String → Json → Json → Prop}
    {j j' : Json} (h : Rearranged names inner j j') :
    ∃ ms ms', j = .object ms ∧ j' = .object ms' ∧ ∀ n ∈ names, ∀ (α : Type) (read : Json → α),
      (∀ x x', inner n x x' → read x' = read x) →
        ((under [n] ms').map read).Perm ((under [n] ms).map read) := by
  cases h with
  | @reorder ms ms' h =>
    exact ⟨ms, ms', rfl, rfl, fun n _ α read _ => (Fields.under_perm h.symm).map read⟩
  | @insert m h x front rest =>
    refine ⟨_, _, rfl, rfl, fun n hn α read _ => ?_⟩
    have hm : m ∉ [n] := fun hm => h (List.mem_singleton.mp hm ▸ hn)
    rw [Fields.under_append, Fields.under_append, Fields.under_cons_of_not_mem hm]
  | @within m j j' h front rest =>
    refine ⟨_, _, rfl, rfl, fun n hn α read hread => ?_⟩
    rw [Fields.under_append, Fields.under_append]
    by_cases hm : m ∈ [n]
    · obtain rfl := List.mem_singleton.mp hm
      rw [Fields.under_cons_of_mem hm, Fields.under_cons_of_mem hm, List.map_append,
        List.map_append, List.map_cons, List.map_cons, hread j j' h]
    · rw [Fields.under_cons_of_not_mem hm, Fields.under_cons_of_not_mem hm]

/-- What one rearrangement leaves as it is, any number of them leave as it is. -/
lemma eq_of_eqvGen {α : Type} {r : Json → Json → Prop} {f : Json → α}
    (hstep : ∀ j j', r j j' → f j' = f j) {j j' : Json} (h : Relation.EqvGen r j j') :
    f j' = f j := by
  induction h with
  | rel j j' h => exact hstep j j' h
  | refl => rfl
  | symm _ _ _ ih => exact ih.symm
  | trans _ _ _ _ _ ih ih' => exact ih'.trans ih

end Json

/-! ## Statuses -/

namespace Status

open Json (Rearranged)
open Json.Fields (under required? lookup? required?_congr lookup?_congr lookup?_eq_some_iff
  required?_eq_some_iff)

/-- Objects that are the same but for the order of their members and for members that a status does
not have. -/
def Alike : Json → Json → Prop :=
  Relation.EqvGen (Rearranged ["status", "reason"] fun _ _ _ => False)

/-- The values that may stand as reasons beside the name of a status. -/
def Reasons : Status → List Json → Prop
  | failed r, found => found = [.string r]
  | _, found => found = [] ∨ found = [.null]

/-- There is one reason at most. -/
lemma Reasons.exists_toList {s : Status} {found : List Json} (h : s.Reasons found) :
    ∃ reason : Option Json, found = reason.toList := by
  cases s with
  | failed r => exact ⟨some (.string r), h⟩
  | _ => exact h.elim (fun h => ⟨none, h⟩) fun h => ⟨some .null, h⟩

lemma ofParts?_eq_some_iff {n : String} {reason : Option Json} {s : Status} :
    ofParts? n reason = some s ↔ n = s.name ∧ s.Reasons reason.toList := by
  constructor
  · intro h
    unfold ofParts? at h
    split at h
    case isTrue hn =>
      split at h
      case h_1 =>
        obtain rfl := Option.some.inj h
        exact ⟨hn, rfl⟩
      case h_2 => cases h
    case isFalse =>
      split at h
      case h_3 => cases h
      all_goals
        split_ifs at h with hpending hinProgress hcompleted
        · obtain rfl := Option.some.inj h
          exact ⟨hpending, by simp [Reasons]⟩
        · obtain rfl := Option.some.inj h
          exact ⟨hinProgress, by simp [Reasons]⟩
        · obtain rfl := Option.some.inj h
          exact ⟨hcompleted, by simp [Reasons]⟩
  · rintro ⟨rfl, hreason⟩
    cases s with
    | failed r =>
      obtain rfl : reason = some (.string r) := by
        cases reason <;> simp_all [Reasons]
      rfl
    | _ =>
      obtain rfl | rfl : reason = none ∨ reason = some .null := by
        cases reason <;> simp_all [Reasons]
      · rfl
      · rfl

lemma ofJson?_eq {j : Json} {ms : List (String × Json)}
    (h : j.members? ["status", "reason"] 2 = some ms) :
    ofJson? j = (required? ["status"] Json.choice? ms).bind fun n =>
      (lookup? ["reason"] ms).bind (ofParts? n) := by
  rw [ofJson?, h]
  rfl

/-- **What reads as a status**: its name with a reason that goes with it. -/
lemma ofJson?_eq_some_iff {j : Json} {s : Status} :
    ofJson? j = some s ↔ ∃ ms, j.members? ["status", "reason"] 2 = some ms ∧
      (∃ tag, under ["status"] ms = [tag] ∧ tag.choice? = some s.name) ∧
      s.Reasons (under ["reason"] ms) := by
  constructor
  · intro h
    obtain ⟨ms, hms, -⟩ := Option.bind_eq_some_iff.mp h
    rw [ofJson?_eq hms] at h
    obtain ⟨n, hn, h⟩ := Option.bind_eq_some_iff.mp h
    obtain ⟨reason, hreason, h⟩ := Option.bind_eq_some_iff.mp h
    obtain ⟨rfl, hgoes⟩ := ofParts?_eq_some_iff.mp h
    exact ⟨ms, hms, required?_eq_some_iff.mp hn, lookup?_eq_some_iff.mp hreason ▸ hgoes⟩
  · rintro ⟨ms, hms, hname, hgoes⟩
    obtain ⟨reason, hreason⟩ := hgoes.exists_toList
    rw [ofJson?_eq hms, required?_eq_some_iff.mpr hname, lookup?_eq_some_iff.mpr hreason]
    exact ofParts?_eq_some_iff.mpr ⟨rfl, hreason ▸ hgoes⟩

/-- **The arrangement of a status does not matter.** -/
lemma ofJson?_alike {j j' : Json} (h : Alike j j') : ofJson? j' = ofJson? j := by
  refine Json.eq_of_eqvGen (fun j j' h => ?_) h
  obtain ⟨ms, ms', rfl, rfl, hunder⟩ := h.exists_members
  have hname := hunder "status" (by decide) _ Json.choice? nofun
  have hreason := hunder "reason" (by decide) _ id nofun
  rw [List.map_id, List.map_id] at hreason
  rw [ofJson?_eq rfl, ofJson?_eq rfl, required?_congr hname, lookup?_congr hreason]

/-- A status is read back from what is written for it. -/
lemma ofJson?_toJson (s : Status) : ofJson? s.toJson = some s := by
  rw [ofJson?_eq_some_iff]
  cases s <;> exact ⟨_, rfl, ⟨_, rfl, rfl⟩, by simp [Reasons, under]⟩

lemma isReadable_toJson (s : Status) : s.toJson.isReadable = true := by
  cases s <;> rfl

end Status

/-! ## Steps -/

namespace Step

open Json (Rearranged nullable? text?)
open Json.Fields (under required? optional? required?_congr lookup?_congr required?_eq_some_iff
  optional?_eq_some_iff)

/-- Objects that are the same but for the order of their members, for the arrangement of the status,
and for members that a step does not have. -/
def Alike : Json → Json → Prop :=
  Relation.EqvGen (Rearranged ["phase", "status", "detail"] fun n j j' =>
    n = "status" ∧ Status.Alike j j')

lemma ofJson?_object (ms : List (String × Json)) : ofJson? (.object ms) =
    (required? ["phase"] (fun j => j.choice?.bind Phase.ofName?) ms).bind fun phase =>
      (required? ["status"] Status.ofJson? ms).bind fun status =>
        (optional? ["detail"] (nullable? text?) none ms).bind fun detail =>
          some { phase, status, detail } := rfl

/-- **The arrangement of a step does not matter.** -/
lemma ofJson?_alike {j j' : Json} (h : Alike j j') : ofJson? j' = ofJson? j := by
  refine Json.eq_of_eqvGen (fun j j' h => ?_) h
  obtain ⟨ms, ms', rfl, rfl, hunder⟩ := h.exists_members
  have hphase := hunder "phase" (by decide) _ (fun j => j.choice?.bind Phase.ofName?)
    fun _ _ h => absurd h.1 (by decide)
  have hstatus := hunder "status" (by decide) _ Status.ofJson? fun _ _ h =>
    Status.ofJson?_alike h.2
  have hdetail := hunder "detail" (by decide) _ id fun _ _ h => absurd h.1 (by decide)
  rw [List.map_id, List.map_id] at hdetail
  rw [ofJson?_object, ofJson?_object, required?_congr hphase, required?_congr hstatus,
    optional?, optional?, lookup?_congr hdetail]

/-- A step is read back from what is written for it. -/
lemma ofJson?_toJson (s : Step) : ofJson? s.toJson = some s := by
  rw [toJson, ofJson?_object]
  refine Option.bind_eq_some_iff.mpr
    ⟨s.phase, required?_eq_some_iff.mpr ⟨_, rfl, Phase.ofName?_name s.phase⟩, ?_⟩
  refine Option.bind_eq_some_iff.mpr
    ⟨s.status, required?_eq_some_iff.mpr ⟨_, rfl, s.status.ofJson?_toJson⟩, ?_⟩
  refine Option.bind_eq_some_iff.mpr
    ⟨s.detail, optional?_eq_some_iff.mpr ⟨some (.ofString? s.detail), rfl, ?_⟩, rfl⟩
  cases s.detail <;> rfl

lemma isReadable_toJson (s : Step) : s.toJson.isReadable = true := by
  simp only [toJson, Json.isReadable, Json.membersReadable, s.status.isReadable_toJson,
    Bool.true_and, Bool.and_true]
  cases s.detail <;> rfl

/-! ## All of it -/

/-- **Steps survive the wire.**  Statuses and steps are read back from what is written for them, as
values and as texts.  What is read does not depend on the order of the members, in the step or in its
status, nor on members that nobody asks for.  A status is read from its name, and from a string that
it keeps as its reason if it is a failure, and from null or nothing otherwise.  No two statuses and
no two steps are written alike. -/
theorem wire_faithful :
    (∀ s : Status, Status.ofJson? s.toJson = some s ∧
      (Json.parse? s.toJson.pretty).bind Status.ofJson? = some s) ∧
    (∀ s : Step, ofJson? s.toJson = some s ∧
      (Json.parse? s.toJson.pretty).bind ofJson? = some s) ∧
    (∀ j j', Status.Alike j j' → Status.ofJson? j' = Status.ofJson? j) ∧
    (∀ j j', Alike j j' → ofJson? j' = ofJson? j) ∧
    (∀ j s, Status.ofJson? j = some s ↔ ∃ ms, j.members? ["status", "reason"] 2 = some ms ∧
      (∃ tag, under ["status"] ms = [tag] ∧ tag.choice? = some s.name) ∧
      s.Reasons (under ["reason"] ms)) ∧
    (Function.Injective fun s : Status => s.toJson.pretty) ∧
    Function.Injective fun s : Step => s.toJson.pretty := by
  have hstatus := Json.bind_parse?_pretty Status.isReadable_toJson Status.ofJson?_toJson
  have hstep := Json.bind_parse?_pretty isReadable_toJson ofJson?_toJson
  refine ⟨fun s => ⟨s.ofJson?_toJson, hstatus s⟩, fun s => ⟨s.ofJson?_toJson, hstep s⟩,
    fun _ _ => Status.ofJson?_alike, fun _ _ => ofJson?_alike,
    fun _ _ => Status.ofJson?_eq_some_iff, ?_, ?_⟩
  · exact Json.pretty_injective Status.isReadable_toJson Status.ofJson?_toJson
  · exact Json.pretty_injective isReadable_toJson ofJson?_toJson

/-- A step that has failed for a reason that says nothing. -/
def mute : Step := ⟨.verify, .failed "", none⟩

/-- The same step, with its members and those of its status the other way around. -/
def muteRearranged : Json :=
  .object [("detail", .null),
    ("status", .object [("reason", .string ""), ("since", .natural 3), ("status", .string "failed")]),
    ("reason", .bool true), ("phase", .string "Verify")]

theorem wire_faithful_mute : ofJson? muteRearranged = some mute := by
  have hstatus : Status.Alike mute.status.toJson (.object [("reason", .string ""),
      ("since", .natural 3), ("status", .string "failed")]) :=
    .trans _ _ _ (.rel _ _ (.reorder (List.Perm.swap _ _ _)))
      (.rel _ _ (.insert (n := "since") (by decide) _ [("reason", .string "")] [_]))
  have hstep : Alike mute.toJson muteRearranged := by
    refine .trans _ _ _ (.rel _ _ (.within ⟨rfl, hstatus⟩ [("phase", .string "Verify")] [_])) ?_
    refine .trans _ _ _ (.rel _ _ (.reorder (List.reverse_perm _).symm)) ?_
    exact .rel _ _ (.insert (n := "reason") (by decide) _ [("detail", .null), ("status", _)] [_])
  exact (wire_faithful.2.2.2.1 _ _ hstep).trans (wire_faithful.2.1 mute).1

end Step
end TokenLaunch
