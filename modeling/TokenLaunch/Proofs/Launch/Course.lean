/-
# The course of a run

An executor is watched by writing down every call to it together with its answer.  Watching changes
nothing but the record itself.  What the phases of a run can do is said once, by the relation
`Course`: phases go well one after another until one fails or none is left.  Every run of phases
takes a course (`course_through`), and what holds of all courses is shown by induction on them.
-/
import Mathlib.Tactic
import TokenLaunch.Launch.Progress

namespace TokenLaunch

/-! ## Calls -/

/-- A call to an executor, with what it was given and its answer. -/
inductive Call
  | compile (source : String) (answer : Except Failure String)
  | estimateGas (answer : Except Failure String)
  | confirm (answer : Except Failure Unit)
  | deploy (answer : Except Failure Receipt)
  | verify (address source : String) (answer : Except Failure Bool)

namespace Call

/-- The phase that makes a call. -/
def phase : Call → Phase
  | compile .. => .compile
  | estimateGas .. => .estimateGas
  | confirm .. => .confirm
  | deploy .. => .deploy
  | verify .. => .verify

/-- The source that a call passes on. -/
def source? : Call → Option String
  | compile source _ | verify _ source _ => some source
  | estimateGas _ | confirm _ | deploy _ => none

/-- The failure that a call is answered with. -/
def failure? : Call → Option Failure
  | compile _ (.error f) | estimateGas (.error f) | confirm (.error f) | deploy (.error f)
  | verify _ _ (.error f) => some f
  | _ => none

end Call

namespace Work

variable {σ α : Type}

/-- Write down what a work answers. -/
def recorded (call : Except Failure α → Call) (work : Work σ α) : Work (σ × List Call) α :=
  fun s => ((work s.1).1, ((work s.1).2, s.2 ++ [call (work s.1).1]))

/-- What is made of the answer of a work is made of an answer. -/
lemma of_map_ok {β : Type} {f : α → β} {work : Work σ α} {s s' : σ} {b : β}
    (h : work.map f s = (.ok b, s')) : ∃ a, work s = (.ok a, s') ∧ f a = b := by
  rcases hwork : work s with ⟨e | a, t⟩
  · simp [map, hwork, Except.map] at h
  · simp only [map, hwork, Except.map, Prod.mk.injEq, Except.ok.injEq] at h
    obtain ⟨hb, rfl⟩ := h
    exact ⟨a, rfl, hb⟩

end Work

namespace Executor

variable {σ : Type}

/-- An executor that writes down the calls to it. -/
def recorded (ex : Executor σ) : Executor (σ × List Call) where
  name := ex.name
  compile source := Work.recorded (.compile source) (ex.compile source)
  estimateGas := Work.recorded .estimateGas ex.estimateGas
  confirm := Work.recorded .confirm ex.confirm
  deploy := Work.recorded .deploy ex.deploy
  verify address source := Work.recorded (.verify address source) (ex.verify address source)

/-- The call that the work of a phase makes. -/
def call (ex : Executor σ) (source : String) (found : Findings) (s : σ) : Phase → Call
  | .compile => .compile source (ex.compile source s).1
  | .estimateGas => .estimateGas (ex.estimateGas s).1
  | .confirm => .confirm (ex.confirm s).1
  | .deploy => .deploy (ex.deploy s).1
  | .verify => .verify found.address source (ex.verify found.address source s).1

variable (ex : Executor σ) (source : String) (found : Findings) (s : σ) (p : Phase)

@[simp] lemma phase_call : (ex.call source found s p).phase = p := by
  cases p <;> rfl

/-- The work of a phase makes one call. -/
lemma work_recorded (calls : List Call) :
    ex.recorded.work source found p (s, calls) =
      ((ex.work source found p s).1,
        ((ex.work source found p s).2, calls ++ [ex.call source found s p])) := by
  cases p <;> rfl

/-- The work of a phase fails as its call fails. -/
lemma failure?_call :
    (ex.call source found s p).failure? =
      match (ex.work source found p s).1 with
      | .ok _ => none
      | .error f => some f := by
  cases p <;> simp only [work, call, Work.map]
  case compile => cases (ex.compile source s).1 <;> rfl
  case estimateGas => cases (ex.estimateGas s).1 <;> rfl
  case confirm => cases (ex.confirm s).1 <;> rfl
  case deploy => cases (ex.deploy s).1 <;> rfl
  case verify => cases (ex.verify found.address source s).1 <;> rfl

variable {ex source found s p}

/-- A call passes on no other source than that of the run. -/
lemma source?_call {text : String} (h : (ex.call source found s p).source? = some text) :
    text = source := by
  cases p <;> simp_all [call, Call.source?]

/-- Only the deployment changes what is known of the receipt. -/
lemma receipt_work {found' : Findings} {detail : String}
    (h : (ex.work source found p s).1 = .ok (found', detail)) (hp : p ≠ .deploy) :
    found'.receipt = found.receipt := by
  cases p with
  | deploy => exact absurd rfl hp
  | _ =>
    simp only [work, Work.map] at h
    revert h
    generalize Prod.fst _ = answer
    intro h
    cases answer <;> simp [Except.map] at h
    obtain ⟨rfl, -⟩ := h
    rfl

/-- The deployment finds the receipt that it is answered with. -/
lemma receipt_work_deploy {found' : Findings} {detail : String}
    (h : (ex.work source found .deploy s).1 = .ok (found', detail)) :
    ∃ receipt, found'.receipt = some receipt ∧
      ex.call source found s .deploy = .deploy (.ok receipt) := by
  simp only [work, Work.map] at h
  cases hd : (ex.deploy s).1 with
  | error f => simp [hd, Except.map] at h
  | ok receipt =>
    simp only [hd, Except.map, Except.ok.injEq, Prod.mk.injEq] at h
    exact ⟨receipt, by simp [← h.1], by simp [call, hd]⟩

end Executor

/-! ## Courses -/

/-- The course that phases take: the calls to the executor, the steps that are left, the result and
the state of the executor at the end.  The phases after one that fails do not begin. -/
inductive Course {σ : Type} (ex : Executor σ) (source : String) :
    List Phase → Findings → σ → List Call → List Step → Except Failure Findings → σ → Prop
  | done (found s) : Course ex source [] found s [] [] (.ok found) s
  | failed {found s p f s'} (ps) (h : ex.work source found p s = (.error f, s')) :
    Course ex source (p :: ps) found s [ex.call source found s p]
      (⟨p, .failed f.message, none⟩ :: ps.map .pending) (.error (.phaseFailed p f.message)) s'
  | completed {found s p found' detail s' ps calls steps result s''}
    (h : ex.work source found p s = (.ok (found', detail), s'))
    (rest : Course ex source ps found' s' calls steps result s'') :
    Course ex source (p :: ps) found s (ex.call source found s p :: calls)
      (⟨p, .completed, some detail⟩ :: steps) result s''

namespace Course

variable {σ : Type} {ex : Executor σ} {source : String} {ps : List Phase} {found : Findings}
  {s s' : σ} {calls : List Call} {steps : List Step} {result : Except Failure Findings}

/-- Every phase has its step, in order. -/
lemma map_phase_steps (h : Course ex source ps found s calls steps result s') :
    steps.map Step.phase = ps := by
  induction h with
  | done => rfl
  | failed ps h =>
    have hpending : (ps.map Step.pending).map Step.phase = ps := by
      simp [Function.comp_def, Step.pending]
    simp [hpending]
  | completed h rest ih => simp [ih]

/-- If all goes well, all steps are completed. -/
lemma status_of_ok (h : Course ex source ps found s calls steps result s') {found' : Findings}
    (hr : result = .ok found') : ∀ step ∈ steps, step.status = .completed := by
  induction h with
  | done => simp
  | failed => cases hr
  | completed h rest ih => simpa using ih hr

/-- If a phase fails, its step tells why, the steps before it are completed and those after it are
pending; and the executor was called last in that phase and failed for that reason. -/
lemma split_of_error (h : Course ex source ps found s calls steps result s') {e : Failure}
    (hr : result = .error e) :
    ∃ p f before after call earlier, e = .phaseFailed p f.message ∧
      steps = before ++ ⟨p, .failed f.message, none⟩ :: after ∧
      (∀ step ∈ before, step.status = .completed) ∧ (∀ step ∈ after, step.status = .pending) ∧
      calls = earlier ++ [call] ∧ call.phase = p ∧ call.failure? = some f := by
  induction h with
  | done => cases hr
  | @failed found s p f s' ps h =>
    cases hr
    have hcall : (ex.call source found s p).failure? = some f := by
      rw [Executor.failure?_call, h]
    refine ⟨p, f, [], ps.map .pending, ex.call source found s p, [], rfl, rfl, by simp, ?_, rfl,
      Executor.phase_call .., hcall⟩
    intro step hstep
    obtain ⟨q, -, rfl⟩ := List.mem_map.mp hstep
    rfl
  | @completed found s p found' detail _ _ _ _ _ _ h rest ih =>
    obtain ⟨q, f, before, after, call, earlier, rfl, rfl, hbefore, hafter, rfl, hq, hf⟩ := ih hr
    refine ⟨q, f, ⟨p, .completed, some detail⟩ :: before, after, call,
      ex.call source found s p :: earlier, rfl, rfl, ?_, hafter, rfl, hq, hf⟩
    simpa using hbefore

/-- A step tells what came out of it if and only if it is completed. -/
lemma detail_isSome (h : Course ex source ps found s calls steps result s') :
    ∀ step ∈ steps, step.detail.isSome ↔ step.status = .completed := by
  induction h with
  | done => simp
  | failed ps h =>
    intro step hstep
    rcases List.mem_cons.mp hstep with rfl | hstep
    · simp
    · obtain ⟨q, -, rfl⟩ := List.mem_map.mp hstep
      simp [Step.pending]
  | completed h rest ih =>
    intro step hstep
    rcases List.mem_cons.mp hstep with rfl | hstep
    · simp
    · exact ih step hstep

/-- Where there is a phase, one begins. -/
lemma exists_started (h : Course ex source ps found s calls steps result s') (hps : ps ≠ []) :
    ∃ step ∈ steps, step.status ≠ .pending := by
  cases h with
  | done => exact absurd rfl hps
  | failed => exact ⟨_, List.mem_cons_self, by simp⟩
  | completed => exact ⟨_, List.mem_cons_self, by simp⟩

/-- The executor is called once in each phase that began, in order. -/
lemma map_phase_calls (h : Course ex source ps found s calls steps result s') :
    calls.map Call.phase = (steps.filter (·.status ≠ .pending)).map Step.phase := by
  induction h with
  | done => rfl
  | failed ps h =>
    have hpending : (ps.map Step.pending).filter (·.status ≠ .pending) = [] := by
      simp [Step.pending]
    rw [List.filter_cons_of_pos (by simp), hpending]
    simp
  | completed h rest ih =>
    rw [List.filter_cons_of_pos (by simp)]
    simp only [List.map_cons, Executor.phase_call, ih]

/-- The source that the executor gets to see is the source of the run. -/
lemma source_of_mem_calls (h : Course ex source ps found s calls steps result s') :
    ∀ call ∈ calls, ∀ text, call.source? = some text → text = source := by
  induction h with
  | done => simp
  | failed ps h => simpa using fun text htext => Executor.source?_call htext
  | completed h rest ih =>
    intro call hcall text htext
    rcases List.mem_cons.mp hcall with rfl | hcall
    · exact Executor.source?_call htext
    · exact ih call hcall text htext

/-- The address that is verified was answered by a deployment in the run, or was known before it and
no deployment came first. -/
lemma address_of_mem_calls (h : Course ex source ps found s calls steps result s')
    {address text : String} {answer : Except Failure Bool}
    (hc : Call.verify address text answer ∈ calls) :
    (∃ receipt, Call.deploy (.ok receipt) ∈ calls ∧ receipt.address = address) ∨
      ∃ front back, ps = front ++ .verify :: back ∧ .deploy ∉ front ∧ address = found.address := by
  -- The call of the first phase decides the address only if that phase is the verification.
  have hhead : ∀ {found : Findings} {s : σ} {p : Phase} (ps : List Phase),
      Call.verify address text answer = ex.call source found s p →
      ∃ front back, p :: ps = front ++ .verify :: back ∧ .deploy ∉ front ∧
        address = found.address := by
    intro found s p ps heq
    cases p with
    | verify =>
      injection heq with haddress
      exact ⟨[], ps, rfl, by simp, haddress⟩
    | _ => cases heq
  induction h with
  | done => cases hc
  | failed ps h => exact .inr (hhead ps (List.mem_singleton.mp hc))
  | @completed found s p found' detail s' ps calls steps result s'' h rest ih =>
    rcases List.mem_cons.mp hc with hc | hc
    · exact .inr (hhead ps hc)
    · rcases ih hc with ⟨receipt, hmem, haddress⟩ | ⟨front, back, rfl, hfront, haddress⟩
      · exact .inl ⟨receipt, List.mem_cons_of_mem _ hmem, haddress⟩
      · by_cases hp : p = .deploy
        · subst hp
          obtain ⟨receipt, hreceipt, hcall⟩ := Executor.receipt_work_deploy (congrArg Prod.fst h)
          refine .inl ⟨receipt, by simp [hcall], ?_⟩
          rw [haddress, Findings.address, hreceipt]
          rfl
        · have hsame := Executor.receipt_work (congrArg Prod.fst h) hp
          refine .inr ⟨p :: front, back, rfl, by simp [hfront, Ne.symm hp], ?_⟩
          rw [haddress, Findings.address, Findings.address, hsame]

/-- Once the deployment has gone well there is a receipt. -/
lemma receipt_isSome (h : Course ex source ps found s calls steps result s') {found' : Findings}
    (hr : result = .ok found') (hd : .deploy ∈ ps ∨ found.receipt.isSome) :
    found'.receipt.isSome := by
  induction h with
  | done =>
    cases hr
    simpa using hd
  | failed => cases hr
  | @completed found s p next detail _ ps _ _ _ _ h rest ih =>
    apply ih hr
    by_cases hp : p = .deploy
    · subst hp
      obtain ⟨receipt, hreceipt, -⟩ := Executor.receipt_work_deploy (congrArg Prod.fst h)
      simp [hreceipt]
    · have hsame := Executor.receipt_work (congrArg Prod.fst h) hp
      rw [hsame]
      simpa [Ne.symm hp] using hd

/-- If all goes well, the first phase does. -/
lemma of_cons_ok {p : Phase} {found' : Findings}
    (h : Course ex source (p :: ps) found s calls steps (.ok found') s') :
    ∃ next detail way calls' steps', ex.work source found p s = (.ok (next, detail), way) ∧
      calls = ex.call source found s p :: calls' ∧
      steps = ⟨p, .completed, some detail⟩ :: steps' ∧
      Course ex source ps next way calls' steps' (.ok found') s' := by
  cases h with
  | completed h rest => exact ⟨_, _, _, _, _, h, rfl, rfl, rest⟩

/-- A course in which all goes well, call by call and step by step. -/
lemma eq_of_ok {found : Findings}
    (h : Course ex source Phase.all {} s calls steps (.ok found) s') :
    ∃ summary receipt, found.receipt = some receipt ∧
      calls = [.compile source (.ok summary), .estimateGas (.ok found.gasEstimate),
        .confirm (.ok ()), .deploy (.ok receipt),
        .verify receipt.address source (.ok found.verified)] ∧
      steps = [⟨.compile, .completed, some summary⟩,
        ⟨.estimateGas, .completed, some (found.gasEstimate ++ " ETH")⟩,
        ⟨.confirm, .completed, some "transaction approved"⟩,
        ⟨.deploy, .completed, some receipt.address⟩,
        ⟨.verify, .completed, some (Findings.verification found.verified)⟩] := by
  obtain ⟨_, _, _, _, _, hfirst, rfl, rfl, hcompiled⟩ := h.of_cons_ok
  obtain ⟨summary, hcompile, hfound⟩ := Work.of_map_ok hfirst
  obtain ⟨rfl, rfl⟩ := Prod.mk.inj hfound
  obtain ⟨_, _, _, _, _, hsecond, rfl, rfl, hestimated⟩ := hcompiled.of_cons_ok
  obtain ⟨gas, hgas, hfound⟩ := Work.of_map_ok hsecond
  obtain ⟨rfl, rfl⟩ := Prod.mk.inj hfound
  obtain ⟨_, _, _, _, _, hthird, rfl, rfl, hconfirmed⟩ := hestimated.of_cons_ok
  obtain ⟨⟨⟩, hconfirm, hfound⟩ := Work.of_map_ok hthird
  obtain ⟨rfl, rfl⟩ := Prod.mk.inj hfound
  obtain ⟨_, _, _, _, _, hfourth, rfl, rfl, hdeployed⟩ := hconfirmed.of_cons_ok
  obtain ⟨receipt, hdeploy, hfound⟩ := Work.of_map_ok hfourth
  obtain ⟨rfl, rfl⟩ := Prod.mk.inj hfound
  obtain ⟨_, _, _, _, _, hlast, rfl, rfl, hdone⟩ := hdeployed.of_cons_ok
  obtain ⟨verified, hverify, hfound⟩ := Work.of_map_ok hlast
  obtain ⟨rfl, rfl⟩ := Prod.mk.inj hfound
  cases hdone
  refine ⟨summary, receipt, rfl, ?_, rfl⟩
  simp only [Executor.call, hcompile, hgas, hconfirm, hdeploy, hverify]
  rfl

/-- There is no more than one course to take. -/
lemma unique {calls' : List Call} {steps' : List Step} {result' : Except Failure Findings}
    {s'' : σ} (h : Course ex source ps found s calls steps result s')
    (h' : Course ex source ps found s calls' steps' result' s'') :
    calls = calls' ∧ steps = steps' ∧ result = result' ∧ s' = s'' := by
  induction h generalizing calls' steps' with
  | done =>
    cases h'
    exact ⟨rfl, rfl, rfl, rfl⟩
  | failed ps h =>
    cases h' with
    | failed _ hsame =>
      cases h.symm.trans hsame
      exact ⟨rfl, rfl, rfl, rfl⟩
    | completed hother => cases h.symm.trans hother
  | completed h rest ih =>
    cases h' with
    | failed _ hother => cases h.symm.trans hother
    | completed hsame hrest =>
      cases h.symm.trans hsame
      obtain ⟨rfl, rfl, rfl, rfl⟩ := ih hrest
      exact ⟨rfl, rfl, rfl, rfl⟩

end Course

/-! ## Every run takes a course -/

namespace Progress

variable {σ : Type}

/-- A run whose executor has written down some calls. -/
def recorded (g : Progress σ) (calls : List Call) : Progress (σ × List Call) :=
  ⟨(g.executor, calls), g.steps, g.clock, g.events⟩

variable {g : Progress σ} {before after : List Step}

/-- The step of a phase that has no step before. -/
lemma step_eq (step : Step) (hg : g.steps = before ++ step :: after)
    (hb : step.phase ∉ before.map Step.phase) : g.step step.phase = step := by
  have hfind : before.find? (fun x => decide (x.phase = step.phase)) = none := by
    simpa using fun x hx heq => hb (List.mem_map.mpr ⟨x, hx, heq⟩)
  simp [Progress.step, hg, List.find?_append, hfind]

/-- Marking the step of a phase that has no other step. -/
lemma steps_mark (step : Step) (hg : g.steps = before ++ step :: after)
    (hb : step.phase ∉ before.map Step.phase) (ha : step.phase ∉ after.map Step.phase)
    (status : Status) (detail : Option String) :
    (g.mark step.phase status detail).steps =
      before ++ ⟨step.phase, status, detail.or step.detail⟩ :: after := by
  have hbefore : ∀ x ∈ before, x.phase ≠ step.phase := fun x hx heq =>
    hb (heq ▸ List.mem_map_of_mem hx)
  have hafter : ∀ x ∈ after, x.phase ≠ step.phase := fun x hx heq =>
    ha (heq ▸ List.mem_map_of_mem hx)
  have hkeep : ∀ xs : List Step, (∀ x ∈ xs, x.phase ≠ step.phase) → ∀ marked : Step,
      xs.map (fun x => if x.phase = step.phase then marked else x) = xs := by
    intro xs hxs marked
    calc xs.map (fun x => if x.phase = step.phase then marked else x)
        = xs.map id := List.map_congr_left fun x hx => if_neg (hxs x hx)
      _ = xs := List.map_id xs
  simp [mark, hg, step_eq step hg hb, hkeep before hbefore, hkeep after hafter]

lemma phase_step (g : Progress σ) (p : Phase) : (g.step p).phase = p := by
  unfold step
  cases h : g.steps.find? fun step => decide (step.phase = p) with
  | none => rfl
  | some found => simpa using List.find?_some h

/-- The phases that were seen to begin. -/
def begun (events : List Event) : List Phase :=
  (events.filter (·.step.status = .inProgress)).map (·.step.phase)

lemma begun_mark (g : Progress σ) (p : Phase) (status : Status) (detail : Option String) :
    begun (g.mark p status detail).events =
      begun g.events ++ if status = .inProgress then [p] else [] := by
  by_cases hs : status = .inProgress <;> simp [begun, mark, hs, phase_step]

/-- A run after one more phase, whose work left the executor in a state and its step so. -/
def finish (t : Timing) (p : Phase) (s' : σ) (status : Status) (detail : Option String)
    (g : Progress σ) : Progress σ :=
  { (g.mark p .inProgress none).wait (t.duration p) with executor := s' }.mark p status detail

variable {t : Timing} {p : Phase} {s' : σ} {status : Status} {detail : Option String}

lemma steps_finish (hg : g.steps = before ++ .pending p :: after)
    (hb : p ∉ before.map Step.phase) (ha : p ∉ after.map Step.phase) :
    (g.finish t p s' status detail).steps = before ++ ⟨p, status, detail⟩ :: after := by
  have hbegun : (g.mark p .inProgress none).steps = before ++ ⟨p, .inProgress, none⟩ :: after :=
    steps_mark (.pending p) hg hb ha _ _
  have hended := steps_mark
    (g := { (g.mark p .inProgress none).wait (t.duration p) with executor := s' })
    ⟨p, .inProgress, none⟩ hbegun hb ha status detail
  simpa [finish] using hended

lemma begun_finish (hs : status ≠ .inProgress) :
    begun (g.finish t p s' status detail).events = begun g.events ++ [p] := by
  rw [finish, begun_mark, if_neg hs, List.append_nil]
  exact begun_mark g p .inProgress none

@[simp] lemma finish_recorded (log log' : List Call) :
    (g.recorded log).finish t p (s', log') status detail =
      (g.finish t p s' status detail).recorded log' := rfl

variable {ex : Executor σ} {source : String} {found : Findings} {ps : List Phase}

lemma through_cons_error {f : Failure} (h : ex.work source found p g.executor = (.error f, s')) :
    through t ex source (p :: ps) found g =
      (.error (.phaseFailed p f.message), g.finish t p s' (.failed f.message) none) := by
  have hwork : ex.work source found p ((g.mark p .inProgress none).wait (t.duration p)).executor =
      (.error f, s') := h
  simp only [through, Work.andThen, perform, hwork]
  rfl

lemma through_cons_ok {found' : Findings} {text : String}
    (h : ex.work source found p g.executor = (.ok (found', text), s')) :
    through t ex source (p :: ps) found g =
      through t ex source ps found' (g.finish t p s' .completed (some text)) := by
  have hwork : ex.work source found p ((g.mark p .inProgress none).wait (t.duration p)).executor =
      (.ok (found', text), s') := h
  simp only [through, Work.andThen, perform, hwork]
  rfl

/-- The first of the phases that are left has no step but its own. -/
lemma not_mem_of_nodup {p : Phase} {ps : List Phase}
    (hn : (before.map Step.phase ++ p :: ps).Nodup) :
    p ∉ before.map Step.phase ∧ p ∉ (ps.map Step.pending).map Step.phase := by
  obtain ⟨-, hrest, -⟩ := List.nodup_append.mp hn
  refine ⟨fun hp => List.disjoint_of_nodup_append hn hp (by simp), ?_⟩
  simpa [Function.comp_def, Step.pending] using (List.nodup_cons.mp hrest).1

/-- **Every run of phases takes a course**, provided that their steps are pending and no phase has
two steps.  The phases that are seen to begin are those in which the executor is called, and an
executor that writes down the calls to it changes nothing else. -/
theorem course_through (t : Timing) (ex : Executor σ) (source : String) (ps : List Phase)
    (found : Findings) (g : Progress σ) (before : List Step) (log : List Call)
    (hg : g.steps = before ++ ps.map .pending) (hn : (before.map Step.phase ++ ps).Nodup) :
    ∃ calls steps,
      Course ex source ps found g.executor calls steps (through t ex source ps found g).1
        (through t ex source ps found g).2.executor ∧
      (through t ex source ps found g).2.steps = before ++ steps ∧
      begun (through t ex source ps found g).2.events = begun g.events ++ calls.map Call.phase ∧
      through t ex.recorded source ps found (g.recorded log) =
        ((through t ex source ps found g).1,
          (through t ex source ps found g).2.recorded (log ++ calls)) := by
  -- the steps before the phases that are left stay as they are, so they are part of the induction
  induction ps generalizing found g before log with
  | nil =>
    exact ⟨[], [], .done .., by simpa [through, Work.answer] using hg,
      by simp [through, Work.answer], by simp [through, Work.answer]⟩
  | cons p ps ih =>
    obtain ⟨hb, ha⟩ := not_mem_of_nodup hn
    obtain ⟨⟨answer, s'⟩, hw⟩ : ∃ outcome, ex.work source found p g.executor = outcome := ⟨_, rfl⟩
    have hrecorded := ex.work_recorded source found g.executor p log
    rw [hw] at hrecorded
    cases answer with
    | error f =>
      -- the phases after this one are never reached, and their steps stay pending
      refine ⟨[ex.call source found g.executor p], ⟨p, .failed f.message, none⟩ :: ps.map .pending,
        ?_, ?_, ?_, ?_⟩
      · rw [through_cons_error hw]
        exact .failed ps hw
      · rw [through_cons_error hw]
        exact steps_finish hg hb ha
      · rw [through_cons_error hw]
        simpa using begun_finish (by simp)
      · rw [through_cons_error hw, through_cons_error (g := g.recorded log) hrecorded]
        simp
    | ok found' =>
      obtain ⟨found', text⟩ := found'
      have hsteps : (g.finish t p s' .completed (some text)).steps =
          (before ++ [⟨p, .completed, some text⟩]) ++ ps.map .pending := by
        simpa using steps_finish hg hb ha
      obtain ⟨calls, steps, hcourse, hafter, hbegun, hlog⟩ :=
        ih found' (g.finish t p s' .completed (some text)) _
          (log ++ [ex.call source found g.executor p]) hsteps (by simpa using hn)
      refine ⟨ex.call source found g.executor p :: calls, ⟨p, .completed, some text⟩ :: steps,
        ?_, ?_, ?_, ?_⟩
      · rw [through_cons_ok hw]
        exact .completed hw hcourse
      · rw [through_cons_ok hw]
        simpa using hafter
      · rw [through_cons_ok hw, hbegun, begun_finish (by simp)]
        simp
      · rw [through_cons_ok hw, through_cons_ok (g := g.recorded log) hrecorded]
        simpa using hlog

end Progress
end TokenLaunch
