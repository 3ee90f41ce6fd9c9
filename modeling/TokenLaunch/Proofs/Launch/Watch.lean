/-
# What a watcher sees

Whoever watches a run sees a step each time that one changes, as it is then.  What may change next
is said once, by the relation `Step.Turn`: one step moves on, those before it are completed and
those after it are pending.  The phases of a run make a story of such turns
(`Progress.story_through`), whatever the executor answers.  What a turn keeps holds at any moment of
a story, so a watcher who puts every step that is seen in the place of the one for the same phase
knows the steps of the run at any moment, and they are in order (`Pipeline.run_watched`).
-/
import TokenLaunch.Proofs.Launch.Admission

namespace TokenLaunch

/-! ## Steps in order -/

/-- How the status of a step may change within a run. -/
inductive Status.Moves : Status → Status → Prop
  | begins : Moves .pending .inProgress
  | completes : Moves .inProgress .completed
  | fails (reason : String) : Moves .inProgress (.failed reason)

/-- A step that is over does not move on. -/
lemma Status.Moves.isTerminal_eq_false {before after : Status} (h : before.Moves after) :
    before.isTerminal = false := by
  cases h <;> rfl

lemma Phase.nodup_all : Phase.all.Nodup := by decide

namespace Step

/-- How the steps of a run may stand at any moment. -/
structure InOrder (steps : List Step) : Prop where
  /-- There is one step for each phase, in order. -/
  phases : steps.map Step.phase = Phase.all
  /-- Of two steps, the earlier one is completed or the later one is pending. -/
  pairwise : steps.Pairwise fun earlier later =>
    earlier.status = .completed ∨ later.status = .pending
  /-- A step tells what came out of it if and only if it is completed. -/
  detail : ∀ step ∈ steps, step.detail.isSome ↔ step.status = .completed

namespace InOrder

variable {steps before after : List Step} {step : Step}

lemma freshRun : InOrder Step.freshRun where
  phases := rfl
  pairwise := by decide
  detail := by decide

/-- Around a step that is in progress all is completed before and pending after. -/
lemma around (h : InOrder (before ++ step :: after)) (hstep : step.status = .inProgress) :
    (∀ step ∈ before, step.status = .completed) ∧ ∀ step ∈ after, step.status = .pending := by
  obtain ⟨-, hafter, hcross⟩ := List.pairwise_append.mp h.pairwise
  refine ⟨fun old hold => ?_, fun next hnext => ?_⟩
  · refine (hcross old hold step List.mem_cons_self).resolve_right ?_
    simp [hstep]
  · refine ((List.pairwise_cons.mp hafter).1 next hnext).resolve_left ?_
    simp [hstep]

/-- No two steps are in progress. -/
lemma countP_inProgress_le_one (h : InOrder steps) :
    steps.countP (fun step => step.status = .inProgress) ≤ 1 := by
  by_cases hnone : ∃ step ∈ steps, step.status = .inProgress
  · obtain ⟨step, hmem, hstep⟩ := hnone
    obtain ⟨before, after, rfl⟩ := List.append_of_mem hmem
    obtain ⟨hbefore, hafter⟩ := h.around hstep
    have hzero : before.countP (fun step => step.status = .inProgress) = 0 ∧
        after.countP (fun step => step.status = .inProgress) = 0 := by
      simp only [List.countP_eq_zero, decide_eq_true_eq]
      exact ⟨fun old hold => by simp [hbefore old hold],
        fun next hnext => by simp [hafter next hnext]⟩
    rw [List.countP_append, List.countP_cons, hzero.1, hzero.2]
    split <;> omega
  · refine (List.countP_eq_zero.mpr fun step hmem hstep => ?_).trans_le zero_le_one
    exact hnone ⟨step, hmem, by simpa using hstep⟩

end InOrder

/-! ## Turns -/

/-- A turn of a run: one step moves on.  All before it is completed and all after it is pending, and
it tells what came out of it if it is completed now. -/
inductive Turn : List Step → Step → List Step → Prop
  | intro {done old new todo} (hdone : ∀ step ∈ done, step.status = .completed)
    (htodo : ∀ step ∈ todo, step.status = .pending) (hphase : new.phase = old.phase)
    (hmoves : old.status.Moves new.status)
    (hdetail : new.detail.isSome ↔ new.status = .completed) :
    Turn (done ++ old :: todo) new (done ++ new :: todo)

/-- Steps with a step in the place of the one for the same phase. -/
def putIn (steps : List Step) (new : Step) : List Step :=
  steps.map fun old => if old.phase = new.phase then new else old

namespace Turn

variable {steps steps' : List Step} {new step : Step}

/-- A turn keeps the order. -/
lemma inOrder (h : Turn steps new steps') (hin : InOrder steps) : InOrder steps' := by
  obtain ⟨hdone, htodo, hphase, -, hdetail⟩ := h
  constructor
  case phases =>
    rw [← hin.phases]
    simp [hphase]
  case pairwise =>
    obtain ⟨hearlier, hlater, -⟩ := List.pairwise_append.mp hin.pairwise
    refine List.pairwise_append.mpr ⟨hearlier, List.pairwise_cons.mpr ⟨fun later hmem => ?_,
      (List.pairwise_cons.mp hlater).2⟩, fun earlier hmem _ _ => .inl (hdone earlier hmem)⟩
    exact .inr (htodo later hmem)
  case detail =>
    intro step hstep
    rcases List.mem_append.mp hstep with hmem | hmem
    · exact hin.detail step (List.mem_append_left _ hmem)
    · rcases List.mem_cons.mp hmem with rfl | hmem
      · exact hdetail
      · exact hin.detail step (List.mem_append_right _ (List.mem_cons_of_mem _ hmem))

/-- A step that is over stays as it is. -/
lemma mem_of_isTerminal (h : Turn steps new steps') (hmem : step ∈ steps)
    (hover : step.status.isTerminal = true) : step ∈ steps' := by
  obtain ⟨-, -, -, hmoves, -⟩ := h
  rcases List.mem_append.mp hmem with hmem | hmem
  · exact List.mem_append_left _ hmem
  · rcases List.mem_cons.mp hmem with rfl | hmem
    · cases hmoves.isTerminal_eq_false.symm.trans hover
    · exact List.mem_append_right _ (List.mem_cons_of_mem _ hmem)

/-- The step that moves on had a status from which it may. -/
lemma exists_moves (h : Turn steps new steps') :
    ∃ old ∈ steps, old.phase = new.phase ∧ old.status.Moves new.status := by
  obtain ⟨-, -, hphase, hmoves, -⟩ := h
  exact ⟨_, by simp, hphase.symm, hmoves⟩

/-- Whoever sees the step that moves on can follow the turn. -/
lemma putIn_eq (h : Turn steps new steps') (hin : InOrder steps) : putIn steps new = steps' := by
  obtain @⟨done, old, new, todo, -, -, hphase, -, -⟩ := h
  have hnodup : ((done ++ old :: todo).map Step.phase).Nodup := hin.phases ▸ Phase.nodup_all
  rw [List.map_append, List.map_cons, List.nodup_middle, List.nodup_cons, List.mem_append,
    not_or] at hnodup
  have hkeep : ∀ xs : List Step, old.phase ∉ xs.map Step.phase → putIn xs new = xs := by
    intro xs hxs
    calc putIn xs new
        = xs.map id := List.map_congr_left fun x hx => if_neg fun heq =>
          hxs (List.mem_map.mpr ⟨x, hx, heq.trans hphase⟩)
      _ = xs := List.map_id xs
  calc putIn (done ++ old :: todo) new
      = putIn done new ++ new :: putIn todo new := by simp [putIn, hphase]
    _ = done ++ new :: todo := by rw [hkeep done hnodup.1.1, hkeep todo hnodup.1.2]

end Turn

/-! ## Stories -/

/-- A story leads from steps to steps, turn by turn; the steps that move on are seen. -/
inductive Story : List Step → List Step → List Step → Prop
  | nil (steps) : Story steps [] steps
  | cons {steps new steps' seen steps''} (turn : Turn steps new steps')
    (rest : Story steps' seen steps'') : Story steps (new :: seen) steps''

namespace Story

variable {steps steps' steps'' seen seen' : List Step} {new step : Step}

lemma append (h : Story steps seen steps') (h' : Story steps' seen' steps'') :
    Story steps (seen ++ seen') steps'' := by
  induction h with
  | nil => exact h'
  | cons turn rest ih => exact .cons turn (ih h')

/-- A story can be stopped anywhere. -/
lemma exists_of_append (h : Story steps (seen ++ seen') steps'') :
    ∃ steps', Story steps seen steps' ∧ Story steps' seen' steps'' := by
  induction seen generalizing steps with
  | nil => exact ⟨steps, .nil steps, h⟩
  | cons new seen ih =>
    obtain _ | ⟨turn, rest⟩ := h
    obtain ⟨steps', hseen, hrest⟩ := ih rest
    exact ⟨steps', .cons turn hseen, hrest⟩

lemma inOrder (h : Story steps seen steps') (hin : InOrder steps) : InOrder steps' := by
  induction h with
  | nil => exact hin
  | cons turn rest ih => exact ih (turn.inOrder hin)

lemma mem_of_isTerminal (h : Story steps seen steps') (hmem : step ∈ steps)
    (hover : step.status.isTerminal = true) : step ∈ steps' := by
  induction h with
  | nil => exact hmem
  | cons turn rest ih => exact ih (turn.mem_of_isTerminal hmem hover)

/-- Whoever sees a story can follow it. -/
lemma foldl_putIn (h : Story steps seen steps') (hin : InOrder steps) :
    seen.foldl putIn steps = steps' := by
  induction h with
  | nil => rfl
  | cons turn rest ih => rw [List.foldl_cons, turn.putIn_eq hin, ih (turn.inOrder hin)]

end Story

/-- What whoever saw some events takes the steps of a run to be. -/
def replay (events : List Event) : List Step :=
  (events.map Event.step).foldl putIn freshRun

end Step

/-! ## Every run of phases is a story -/

namespace Progress

open Step (Story)

variable {σ : Type} {g : Progress σ} {done todo : List Step} {t : Timing} {p : Phase} {s' : σ}
  {status : Status} {detail : Option String}

/-- A step that is marked is seen as it is then. -/
lemma events_mark (step : Step) (hg : g.steps = done ++ step :: todo)
    (hb : step.phase ∉ done.map Step.phase) (status : Status) (detail : Option String) :
    (g.mark step.phase status detail).events =
      g.events ++ [⟨g.clock, ⟨step.phase, status, detail.or step.detail⟩⟩] := by
  simp [mark, step_eq step hg hb]

/-- Of a phase that is performed two steps are seen: how it began and how it ended. -/
lemma events_finish (hg : g.steps = done ++ .pending p :: todo) (hb : p ∉ done.map Step.phase)
    (ha : p ∉ todo.map Step.phase) :
    (g.finish t p s' status detail).events = g.events ++
      [⟨g.clock, ⟨p, .inProgress, none⟩⟩,
        ⟨g.clock + (t.duration p).toNat, ⟨p, status, detail⟩⟩] := by
  have hbegun : (g.mark p .inProgress none).steps = done ++ ⟨p, .inProgress, none⟩ :: todo :=
    steps_mark (.pending p) hg hb ha _ _
  have hfirst : (g.mark p .inProgress none).events =
      g.events ++ [⟨g.clock, ⟨p, .inProgress, none⟩⟩] := events_mark (.pending p) hg hb _ _
  have hsecond := events_mark
    (g := { (g.mark p .inProgress none).wait (t.duration p) with executor := s' })
    ⟨p, .inProgress, none⟩ hbegun hb status detail
  have hclock : (g.mark p .inProgress none).clock = g.clock := rfl
  simpa [finish, wait, hfirst, hclock] using hsecond

/-- To perform a phase is a story of two turns. -/
lemma story_finish (hg : g.steps = done ++ .pending p :: todo) (hb : p ∉ done.map Step.phase)
    (ha : p ∉ todo.map Step.phase) (hdone : ∀ step ∈ done, step.status = .completed)
    (htodo : ∀ step ∈ todo, step.status = .pending) (hmoves : Status.inProgress.Moves status)
    (hdetail : detail.isSome ↔ status = .completed) :
    ∃ seen, (g.finish t p s' status detail).events = g.events ++ seen ∧
      Story g.steps (seen.map Event.step) (g.finish t p s' status detail).steps := by
  refine ⟨_, events_finish hg hb ha, ?_⟩
  rw [steps_finish hg hb ha, hg]
  exact .cons (.intro hdone htodo rfl .begins (by simp))
    (.cons (.intro hdone htodo rfl hmoves hdetail) (.nil _))

/-- **Every run of phases is a story**, provided that their steps are pending, the steps before them
are completed, and no phase has two steps. -/
theorem story_through (t : Timing) (ex : Executor σ) (source : String) (ps : List Phase)
    (found : Findings) (g : Progress σ) (done : List Step) (hg : g.steps = done ++ ps.map .pending)
    (hn : (done.map Step.phase ++ ps).Nodup) (hdone : ∀ step ∈ done, step.status = .completed) :
    ∃ seen, (through t ex source ps found g).2.events = g.events ++ seen ∧
      Story g.steps (seen.map Event.step) (through t ex source ps found g).2.steps := by
  -- a phase that goes well joins those before it, so these are part of the induction
  induction ps generalizing found g done with
  | nil => exact ⟨[], by simp [through, Work.answer], .nil _⟩
  | cons p ps ih =>
    obtain ⟨hb, ha⟩ := not_mem_of_nodup hn
    have htodo : ∀ step ∈ ps.map Step.pending, step.status = .pending := by
      intro step hstep
      obtain ⟨q, -, rfl⟩ := List.mem_map.mp hstep
      rfl
    obtain ⟨⟨answer, s'⟩, hw⟩ : ∃ outcome, ex.work source found p g.executor = outcome := ⟨_, rfl⟩
    cases answer with
    | error f =>
      rw [through_cons_error hw]
      exact story_finish hg hb ha hdone htodo (.fails f.message) (by simp)
    | ok found' =>
      obtain ⟨found', text⟩ := found'
      rw [through_cons_ok hw]
      have hfinish : ∃ seen, (g.finish t p s' .completed (some text)).events = g.events ++ seen ∧
          Story g.steps (seen.map Event.step) (g.finish t p s' .completed (some text)).steps :=
        story_finish hg hb ha hdone htodo .completes (by simp)
      obtain ⟨seen, hevents, hstory⟩ := hfinish
      have hsteps : (g.finish t p s' .completed (some text)).steps =
          (done ++ [⟨p, .completed, some text⟩]) ++ ps.map .pending := by
        simpa using steps_finish hg hb ha
      obtain ⟨seen', hevents', hstory'⟩ := ih found' (g.finish t p s' .completed (some text)) _
        hsteps (by simpa using hn) (by simpa [or_imp, forall_and] using hdone)
      refine ⟨seen ++ seen', by rw [hevents', hevents, List.append_assoc], ?_⟩
      rw [List.map_append]
      exact hstory.append hstory'

end Progress

/-! ## Every run -/

variable {ω σ τ : Type}

/-- What a watcher saw of a run, and what the watcher makes of it. -/
structure Outcome.Watched (o : Outcome ω σ τ) : Prop where
  /-- At the end the watcher knows the steps that the run leaves. -/
  replay_events : Step.replay o.events = o.session.steps
  /-- At any moment there is one step for each phase, in order. -/
  phases : ∀ seen, seen <+: o.events → (Step.replay seen).map Step.phase = Phase.all
  /-- At any moment at most one step is in progress. -/
  inProgress_le : ∀ seen, seen <+: o.events →
    (Step.replay seen).countP (fun step => step.status = .inProgress) ≤ 1
  /-- At any moment all steps before the one in progress are completed, and all after it are
  pending. -/
  around : ∀ seen, seen <+: o.events → ∀ before step after,
    Step.replay seen = before ++ step :: after → step.status = .inProgress →
      (∀ step ∈ before, step.status = .completed) ∧ ∀ step ∈ after, step.status = .pending
  /-- Every step that is seen has moved on from pending to in progress, or from there to completed
  or failed. -/
  moves : ∀ seen e, seen ++ [e] <+: o.events → ∃ old ∈ Step.replay seen,
    old.phase = e.step.phase ∧ old.status.Moves e.step.status
  /-- A step that is over never changes again. -/
  settled : ∀ seen later, seen <+: later → later <+: o.events → ∀ step ∈ Step.replay seen,
    step.status.isTerminal = true → step ∈ Step.replay later
  /-- At any moment a step tells what came out of it if and only if it is completed. -/
  detail : ∀ seen, seen <+: o.events → ∀ step ∈ Step.replay seen,
    step.detail.isSome ↔ step.status = .completed
  /-- Nothing is seen exactly of those runs that fail before the first phase. -/
  events_eq_nil_iff : o.events = [] ↔ ∃ f, o.result = .error f ∧ f.IsRefusal

namespace Pipeline

variable (p : Pipeline ω σ τ) (stamp : Stamp) (spec : Spec) (s : Session ω σ τ)

/-- What is seen of a run is a story from fresh steps to those that the run leaves. -/
lemma story_run : Step.Story Step.freshRun ((p.run stamp spec s).events.map Event.step)
    (p.run stamp spec s).session.steps := by
  rcases hpre : preflight p.wallet spec s.wallet with ⟨f | c, w⟩
  · rw [p.run_of_preflight_error stamp spec s (congrArg Prod.fst hpre)]
    exact .nil _
  · obtain ⟨-, -, hsteps, hevents, -⟩ := run_of_preflight_ok hpre stamp
    obtain ⟨seen, hseen, hstory⟩ := Progress.story_through p.timing p.executor c.contract.source
      Phase.all {} ⟨s.executor, Step.freshRun, s.clock, []⟩ [] rfl (by decide) (by simp)
    obtain rfl : (p.performed c s).2.events = seen := hseen
    rw [hsteps, hevents]
    exact hstory

/-- A run fails before the first phase exactly if the checks fail. -/
lemma isRefusal_iff : (∃ f, (p.run stamp spec s).result = .error f ∧ f.IsRefusal) ↔
    ∃ f, (preflight p.wallet spec s.wallet).1 = .error f := by
  cases p.goes stamp spec s with
  | refused hpre hf hrun => simp [hpre, hrun, hf]
  | failed hpre | unstored hpre | succeeded hpre =>
    have hnone := (run_of_preflight_ok hpre stamp).2.2.2.2
    rw [hpre]
    exact ⟨fun ⟨f, hf, hrefusal⟩ => absurd hrefusal (hnone f hf), nofun⟩

/-- Nothing is seen exactly of those runs that fail before the first phase. -/
lemma events_run_eq_nil_iff : (p.run stamp spec s).events = [] ↔
    ∃ f, (p.run stamp spec s).result = .error f ∧ f.IsRefusal := by
  rw [isRefusal_iff]
  constructor
  · intro hnone
    rcases hpre : (preflight p.wallet spec s.wallet).1 with f | c
    · exact ⟨f, rfl⟩
    · -- a phase has begun, so the steps are fresh no more
      obtain ⟨step, hstep, hstatus⟩ := p.started_of_preflight_ok stamp spec s hpre
      have hsame : Step.freshRun = (p.run stamp spec s).session.steps := by
        simpa [hnone] using (p.story_run stamp spec s).foldl_putIn .freshRun
      rw [← hsame] at hstep
      obtain ⟨q, -, rfl⟩ := List.mem_map.mp hstep
      exact absurd rfl hstatus
  · rintro ⟨f, hf⟩
    rw [p.run_of_preflight_error stamp spec s hf]

/-- **What a watcher sees** of a run is a faithful history of it, whatever the spec, the wallet, the
executor and the store are, and whatever was run before. -/
theorem run_watched : (p.run stamp spec s).Watched := by
  have hstory := p.story_run stamp spec s
  have hseen (seen : List Event) (h : seen <+: (p.run stamp spec s).events) :
      Step.Story Step.freshRun (seen.map Event.step) (Step.replay seen) := by
    obtain ⟨rest, hrest⟩ := h
    rw [← hrest, List.map_append] at hstory
    obtain ⟨steps, hfront, -⟩ := hstory.exists_of_append
    rwa [Step.replay, hfront.foldl_putIn .freshRun]
  have hin (seen : List Event) (h : seen <+: (p.run stamp spec s).events) :
      Step.InOrder (Step.replay seen) := (hseen seen h).inOrder .freshRun
  constructor
  case replay_events => exact hstory.foldl_putIn .freshRun
  case phases => exact fun seen h => (hin seen h).phases
  case inProgress_le => exact fun seen h => (hin seen h).countP_inProgress_le_one
  case around =>
    intro seen h before step after hsplit hstep
    have hsteps := hin seen h
    rw [hsplit] at hsteps
    exact hsteps.around hstep
  case moves =>
    intro seen e h
    have hnext := hseen _ h
    rw [List.map_append] at hnext
    obtain ⟨steps, hfront, hlast⟩ := hnext.exists_of_append
    obtain _ | ⟨turn, -⟩ := hlast
    rw [Step.replay, hfront.foldl_putIn .freshRun]
    exact turn.exists_moves
  case settled =>
    rintro seen later ⟨rest, rfl⟩ h step hstep hover
    have hlater := hseen _ h
    rw [List.map_append] at hlater
    obtain ⟨steps, hfront, hrest⟩ := hlater.exists_of_append
    rw [Step.replay, hfront.foldl_putIn .freshRun] at hstep
    exact hrest.mem_of_isTerminal hstep hover
  case detail => exact fun seen h => (hin seen h).detail
  case events_eq_nil_iff => exact p.events_run_eq_nil_iff stamp spec s

end Pipeline
end TokenLaunch
