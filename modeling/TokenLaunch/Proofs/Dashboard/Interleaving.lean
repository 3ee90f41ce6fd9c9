/-
# Edits at the same time

A call of `update` loads, edits and saves.  If nobody else uses the store, that is one step; but the
store is only ever asked to load or to save, and a store that is shared may be used in between.
This file takes calls apart into these steps (`Call.step`) and lets any number of them take turns
(`Calls.run`).

Two turns in a row are the whole call, on any store, so calls that do not overlap do what they do
one after another (`Calls.run_serial`).  In memory more is true: nothing is lost as long as every
call that saves still finds what it loaded (`Calls.store_run`).  But nothing sees to that.  Of two
calls that overlap, both begin with the same dashboard, the one that saves last overwrites what the
other one saved, and both are told that all went well (`update_interleaved`).
-/
import Mathlib.Tactic
import TokenLaunch.Dashboard.Store

namespace TokenLaunch
namespace Store

variable {τ : Type}

/-! ## A call, step by step -/

/-- How far a call of `update` has come. -/
inductive Call (α : Type)
  /-- It has not begun. -/
  | waiting
  /-- It has loaded a dashboard, and not saved it. -/
  | loaded (d : Dashboard)
  | answered (result : Except StoreError α)

namespace Call

variable {α : Type}

/-- The next step of a call: to load, or to edit what was loaded and save it. -/
def step (s : Store τ) (edit : Dashboard → α × Dashboard) : Call α → τ → Call α × τ
  | waiting, t =>
    match s.load t with
    | (.error e, t) => (answered (.error e), t)
    | (.ok d, t) => (loaded d, t)
  | loaded d, t =>
    match s.save (edit d).2 t with
    | (.error e, t) => (answered (.error e), t)
    | (.ok (), t) => (answered (.ok (edit d).1), t)
  | answered result, t => (answered result, t)

/-- Two steps in a row are the whole call. -/
lemma step_step (s : Store τ) (edit : Dashboard → α × Dashboard) (t : τ) :
    (waiting.step s edit t).1.step s edit (waiting.step s edit t).2 =
      (answered (s.update edit t).1, (s.update edit t).2) := by
  unfold update
  rcases hload : s.load t with ⟨_ | d, t'⟩
  · simp only [step, hload]
  · rcases hsave : s.save (edit d).2 t' with ⟨_ | _, t''⟩ <;> simp only [step, hload, hsave]

/-- Whether the next step of a call is to save. -/
def saves : Call α → Bool
  | loaded _ => true
  | _ => false

end Call

/-! ## Calls that take turns -/

/-- Calls, and the store that they share. -/
structure Calls {ι : Type} (α : ι → Type) (τ : Type) where
  call : ∀ i, Call (α i)
  store : τ

namespace Calls

variable {ι : Type} {α : ι → Type}

/-- Before any call. -/
def start (t : τ) : Calls α τ := ⟨fun _ => .waiting, t⟩

variable [DecidableEq ι] (s : Store τ) (edit : ∀ i, Dashboard → α i × Dashboard)

/-- One of the calls takes a step. -/
def step (x : Calls α τ) (i : ι) : Calls α τ where
  call := Function.update x.call i ((x.call i).step s (edit i) x.store).1
  store := ((x.call i).step s (edit i) x.store).2

/-- The calls take their turns. -/
def run (x : Calls α τ) (turns : List ι) : Calls α τ :=
  turns.foldl (step s edit) x

/-- One of the calls is made as a whole. -/
def complete (x : Calls α τ) (i : ι) : Calls α τ where
  call := Function.update x.call i (.answered (s.update (edit i) x.store).1)
  store := (s.update (edit i) x.store).2

/-- The calls are made one after another. -/
def inOrder (x : Calls α τ) (order : List ι) : Calls α τ :=
  order.foldl (complete s edit) x

variable {x : Calls α τ}

/-- A call that takes both its turns at once is made as a whole. -/
lemma step_step {i : ι} (h : x.call i = .waiting) :
    step s edit (step s edit x i) i = complete s edit x i := by
  have hsteps := Call.step_step s (edit i) x.store
  rw [← h] at hsteps
  simp only [step, complete, Function.update_self, Function.update_idem, hsteps]

/-- **Calls that do not overlap** are made one after another, on any store. -/
theorem run_serial {order : List ι} (hnodup : order.Nodup)
    (hwaiting : ∀ i ∈ order, x.call i = .waiting) :
    run s edit x (order.flatMap fun i => [i, i]) = inOrder s edit x order := by
  induction order generalizing x with
  | nil => rfl
  | cons i order ih =>
    rw [List.nodup_cons] at hnodup
    rw [List.forall_mem_cons] at hwaiting
    -- the calls after this one have not begun
    have hnext : ∀ j ∈ order, (complete s edit x i).call j = .waiting := by
      intro j hj
      have hne : j ≠ i := fun heq => hnodup.1 (heq ▸ hj)
      exact (Function.update_of_ne hne _ _).trans (hwaiting.2 j hj)
    have hsteps : run s edit x ((i :: order).flatMap fun i => [i, i]) =
        run s edit (step s edit (step s edit x i) i) (order.flatMap fun i => [i, i]) := rfl
    rw [hsteps, step_step s edit hwaiting.1, ih hnodup.2 hnext]
    rfl

/-! ### In memory -/

section Memory

variable (x : Calls α Dashboard)

/-- Whether every call that saves still finds what it loaded. -/
def Undisturbed (x : Calls α Dashboard) : List ι → Prop
  | [] => True
  | i :: turns =>
    (∀ d, x.call i = .loaded d → x.store = d) ∧ (step memory edit x i).Undisturbed turns

/-- The calls that save, in order. -/
def saving (x : Calls α Dashboard) : List ι → List ι
  | [] => []
  | i :: turns => (if (x.call i).saves then [i] else []) ++ (step memory edit x i).saving turns

/-- **Nothing is lost as long as every call that saves still finds what it loaded**: all edits that
are saved are made, in the order in which they are saved. -/
theorem store_run {turns : List ι} (h : x.Undisturbed edit turns) :
    (run memory edit x turns).store =
      (x.saving edit turns).foldl (fun d i => (edit i d).2) x.store := by
  induction turns generalizing x with
  | nil => rfl
  | cons i turns ih =>
    obtain ⟨hfound, hrest⟩ := h
    have hturn : run memory edit x (i :: turns) =
        run memory edit (step memory edit x i) turns := rfl
    rw [hturn, ih _ hrest, saving, List.foldl_append]
    congr 1
    cases hcall : x.call i with
    | waiting => simp [step, hcall, Call.step, Call.saves, memory]
    | answered result => simp [step, hcall, Call.step, Call.saves]
    | loaded d =>
      obtain rfl := hfound d hcall
      simp [step, hcall, Call.step, Call.saves, memory]

end Memory

end Calls

/-! ## Two calls -/

/-- One of two calls. -/
inductive Caller
  | first
  | second
deriving DecidableEq

/-- Each of two calls takes its two turns. -/
def IsInterleaving (turns : List Caller) : Prop :=
  turns.Perm [.first, .first, .second, .second]

/-- Each call begins before the other one has saved. -/
def Overlap (turns : List Caller) : Prop :=
  turns.take 2 ≠ [.first, .first] ∧ turns.take 2 ≠ [.second, .second]

instance (turns : List Caller) : Decidable (IsInterleaving turns) :=
  inferInstanceAs (Decidable (turns.Perm _))

instance (turns : List Caller) : Decidable (Overlap turns) :=
  inferInstanceAs (Decidable (_ ∧ _))

/-- Two turns each make six interleavings, and in four of them the calls overlap. -/
lemma IsInterleaving.cases {turns : List Caller} (h : IsInterleaving turns) :
    turns = [.first, .first, .second, .second] ∨ turns = [.second, .second, .first, .first] ∨
      Overlap turns ∧ (turns = [.first, .second, .first, .second] ∨
        turns = [.first, .second, .second, .first] ∨ turns = [.second, .first, .first, .second] ∨
        turns = [.second, .first, .second, .first]) := by
  obtain ⟨a, b, c, d, rfl⟩ := List.length_eq_four.mp h.length_eq
  revert h
  cases a <;> cases b <;> cases c <;> cases d <;> decide

section Two

open Calls (start run inOrder)

variable {α : Caller → Type} (edit : ∀ i, Dashboard → α i × Dashboard) (d : Dashboard)
  {turns : List Caller}

/-- Calls that do not overlap are made one after another. -/
lemma run_of_not_overlap (h : IsInterleaving turns) (hoverlap : ¬ Overlap turns) :
    run memory edit (start d) turns = inOrder memory edit (start d) [.first, .second] ∨
      run memory edit (start d) turns = inOrder memory edit (start d) [.second, .first] := by
  have hfirst : [Caller.first, Caller.second].Nodup := by decide
  have hsecond : [Caller.second, Caller.first].Nodup := by decide
  rcases h.cases with rfl | rfl | ⟨hov, -⟩
  · exact .inl (Calls.run_serial memory edit hfirst fun _ _ => rfl)
  · exact .inr (Calls.run_serial memory edit hsecond fun _ _ => rfl)
  · exact absurd hov hoverlap

/-- Calls that overlap both edit the dashboard that was there at first, and what is saved last
stays. -/
lemma run_of_overlap (h : IsInterleaving turns) (hoverlap : Overlap turns) :
    (∀ i, (run memory edit (start d) turns).call i = .answered (.ok (edit i d).1)) ∧
      ∀ i, turns.getLast? = some i → (run memory edit (start d) turns).store = (edit i d).2 := by
  rcases h.cases with rfl | rfl | ⟨-, rfl | rfl | rfl | rfl⟩
  · exact absurd hoverlap (by decide)
  · exact absurd hoverlap (by decide)
  all_goals
    refine ⟨fun i => ?_, ?_⟩
    · cases i <;> rfl
    · rintro _ ⟨⟩
      rfl

/-- Whether a dashboard is what two edits make of another one, in one order or the other. -/
def Serial (d' : Dashboard) : Prop :=
  d' = (edit .second (edit .first d).2).2 ∨ d' = (edit .first (edit .second d).2).2

lemma serial_of_not_overlap (h : IsInterleaving turns) (hoverlap : ¬ Overlap turns) :
    Serial edit d (run memory edit (start d) turns).store := by
  rcases run_of_not_overlap edit d h hoverlap with hrun | hrun
  · exact .inl (congrArg Calls.store hrun)
  · exact .inr (congrArg Calls.store hrun)

/-- One of the two calls takes the last turn. -/
lemma IsInterleaving.exists_last (h : IsInterleaving turns) : ∃ i, turns.getLast? = some i := by
  have hne : turns ≠ [] := by
    rintro rfl
    exact absurd h (by decide)
  exact ⟨_, List.getLast?_eq_some_getLast hne⟩

/-- No interleaving loses anything exactly if each of the edits alone makes what both make. -/
lemma forall_serial_iff :
    (∀ turns, IsInterleaving turns → Serial edit d (run memory edit (start d) turns).store) ↔
      ∀ i, Serial edit d (edit i d).2 := by
  constructor
  · intro h i
    cases i with
    | first => exact h [.first, .second, .second, .first] (by decide)
    | second => exact h [.first, .second, .first, .second] (by decide)
  · intro h turns hturns
    by_cases hoverlap : Overlap turns
    · obtain ⟨i, hlast⟩ := hturns.exists_last
      rw [(run_of_overlap edit d hturns hoverlap).2 i hlast]
      exact h i
    · exact serial_of_not_overlap edit d hturns hoverlap

/-- Two records are both remembered exactly if the calls that add them do not overlap. -/
lemma serial_adding_iff (r : Caller → Record) (h : IsInterleaving turns) :
    Serial (fun i => adding (r i)) d (run memory (fun i => adding (r i)) (start d) turns).store ↔
      ¬ Overlap turns := by
  refine ⟨fun hserial hoverlap => ?_, serial_of_not_overlap _ d h⟩
  obtain ⟨i, hlast⟩ := h.exists_last
  rw [(run_of_overlap _ d h hoverlap).2 i hlast] at hserial
  -- there is one more token than at first, and should be two more
  have hlength : ∀ d', Serial (fun i => adding (r i)) d d' →
      d'.tokens.length = d.tokens.length + 2 := by
    rintro _ (rfl | rfl) <;> rfl
  have hone : (adding (r i) d).2.tokens.length = d.tokens.length + 1 := rfl
  have htwo := hlength _ hserial
  omega

/-- **Two edits at the same time.**  Two calls on one store in memory that do not overlap are made
one after another.  If they overlap, both are told that all went well, with the answers for the
dashboard that was there at first, but only the edit that is saved last has been made.  So nothing
is lost in any interleaving exactly if each of the edits alone makes of the dashboard what both
make; and two records are both remembered exactly if the calls do not overlap. -/
theorem update_interleaved :
    (∀ turns, IsInterleaving turns → ¬ Overlap turns →
      run memory edit (start d) turns = inOrder memory edit (start d) [.first, .second] ∨
        run memory edit (start d) turns = inOrder memory edit (start d) [.second, .first]) ∧
    (∀ turns, IsInterleaving turns → Overlap turns →
      (∀ i, (run memory edit (start d) turns).call i = .answered (.ok (edit i d).1)) ∧
        ∀ i, turns.getLast? = some i →
          (run memory edit (start d) turns).store = (edit i d).2) ∧
    ((∀ turns, IsInterleaving turns → Serial edit d (run memory edit (start d) turns).store) ↔
      ∀ i, Serial edit d (edit i d).2) ∧
    ∀ (r : Caller → Record) (turns : List Caller), IsInterleaving turns →
      (Serial (fun i => adding (r i)) d
          (run memory (fun i => adding (r i)) (start d) turns).store ↔ ¬ Overlap turns) :=
  ⟨fun _ => run_of_not_overlap edit d, fun _ => run_of_overlap edit d, forall_serial_iff edit d,
    fun r _ => serial_adding_iff d r⟩

/-! ### A record that is lost -/

/-- A token that was launched. -/
def nova : Record where
  id := "a"
  address := "0xA"
  standard := .known .fungible
  name := "Nova"
  symbol := "NVA"
  decimals := some 18
  deployedAt := .epoch
  deployer := "0x0"
  transaction := "0x1"
  network := .testnet
  verified := true
  features := ["Mintable"]

/-- One call adds a record, the other one chooses another node. -/
def addingAndRedirecting : Caller → Dashboard → Unit × Dashboard
  | .first => adding nova
  | .second => redirecting "http://node:8545"

/-- Each call begins before the other one has saved, and the record is in the dashboard exactly if
the call that adds it is the last to save. -/
theorem update_interleaved_nova :
    (run memory addingAndRedirecting (start {}) [.first, .second, .second, .first]).store =
        { tokens := [nova] } ∧
      (run memory addingAndRedirecting (start {}) [.first, .second, .first, .second]).store =
        { rpcEndpoint := "http://node:8545" } := by
  have hoverlap := (update_interleaved addingAndRedirecting {}).2.1
  exact ⟨(hoverlap [.first, .second, .second, .first] (by decide) (by decide)).2 .first rfl,
    (hoverlap [.first, .second, .first, .second] (by decide) (by decide)).2 .second rfl⟩

/-- A record is lost: both calls are told that all went well, and the dashboard is not what they
make of it in any order. -/
theorem update_loses_record :
    ∃ turns, IsInterleaving turns ∧
      (∀ i, (run memory addingAndRedirecting (start {}) turns).call i = .answered (.ok ())) ∧
      ¬ Serial addingAndRedirecting {}
        (run memory addingAndRedirecting (start {}) turns).store := by
  refine ⟨[.first, .second, .first, .second], by decide, fun i => by cases i <;> rfl, ?_⟩
  -- both orders leave the record in the dashboard
  rintro (h | h) <;> exact absurd (congrArg Dashboard.tokens h) nofun

end Two

end Store
end TokenLaunch
