/-
# What a run leaves behind

A run of a pipeline ends in one of four ways: it is refused before the first phase, it fails in a
phase, it cannot remember the token, or it succeeds.  The result of the run, the steps that it
leaves and the calls that it made to the executor fit together (`run_orderly`), whatever was run
before and whatever wallet, executor and store do.  To its store a run comes once at most, with the
record of the contract that its spec stands for (`stored_run`).
-/
import TokenLaunch.Launch.Pipeline
import TokenLaunch.Proofs.Launch.Course

namespace TokenLaunch

variable {ω σ τ : Type}

/-- What a run for a spec leaves behind, and the calls that it made to the executor. -/
structure Outcome.Orderly (spec : Spec) (o : Outcome ω σ τ) (calls : List Call) : Prop where
  /-- There is one step for each phase, in order. -/
  phases : o.session.steps.map Step.phase = Phase.all
  /-- A run that succeeds has completed every step, and reports the steps. -/
  succeeded : ∀ report, o.result = .ok report →
    (∀ step ∈ o.session.steps, step.status = .completed) ∧ report.steps = o.session.steps
  /-- If a phase fails, it fails for the reason that the executor gives when it is called last. -/
  failed : ∀ p reason, o.result = .error (.phaseFailed p reason) →
    ∃ before step after, o.session.steps = before ++ step :: after ∧
      (∀ step ∈ before, step.status = .completed) ∧
      step.phase = p ∧ step.status = .failed reason ∧
      (∀ step ∈ after, step.status = .pending) ∧
      ∃ call f, calls.getLast? = some call ∧ call.phase = p ∧ call.failure? = some f ∧
        reason = f.message
  /-- A store fails only after every step is completed. -/
  unstored : ∀ e, o.result = .error (.store e) →
    ∀ step ∈ o.session.steps, step.status = .completed
  /-- All other failures come before the first phase. -/
  refused : ∀ f, o.result = .error f → (∀ p reason, f ≠ .phaseFailed p reason) →
    (∀ e, f ≠ .store e) → ∀ step ∈ o.session.steps, step.status = .pending
  /-- The completed steps are those that tell what came out of them. -/
  detail : ∀ step ∈ o.session.steps, step.detail.isSome ↔ step.status = .completed
  /-- The executor is called once in each phase that began, in the order of the phases. -/
  called : calls.map Call.phase =
    (o.session.steps.filter (·.status ≠ .pending)).map Step.phase
  /-- The phases in which the executor is called are those that were seen to begin. -/
  begun : calls.map Call.phase = Progress.begun o.events
  /-- The source that the executor compiles, and verifies, is the one that the spec stands for. -/
  source : ∀ call ∈ calls, ∀ text, call.source? = some text → spec.generate = .ok text
  /-- The address that is verified is the one that the deployment answered. -/
  address : ∀ address text answer, Call.verify address text answer ∈ calls →
    ∃ receipt, Call.deploy (.ok receipt) ∈ calls ∧ receipt.address = address
  /-- A deployment that goes well always leaves a receipt. -/
  receipt : ∀ p, o.result ≠ .error (.phaseFailed p "no receipt produced")

/-! ## The words of a failure -/

namespace Failure

/-- A text that starts with another character than a label does not start with the label. -/
lemma append_ne_of_head {label text : String} {c d : Char} {cs ds : List Char}
    (hl : label = String.ofList (c :: cs)) (ht : text = String.ofList (d :: ds)) (hcd : c ≠ d)
    (rest : String) : label ++ rest ≠ text := by
  intro h
  have hchars := congrArg String.toList h
  rw [hl, ht, String.toList_append, String.toList_ofList, String.toList_ofList] at hchars
  exact hcd (List.cons.inj hchars).1

/-- No failure is reported by a sentence in which there is no receipt. -/
lemma message_ne (f : Failure) : f.message ≠ "no receipt produced" := by
  have ht : "no receipt produced" = String.ofList ('n' :: "o receipt produced".toList) := rfl
  generalize "no receipt produced" = text at ht ⊢
  cases f with
  | specNotReady reason => exact append_ne_of_head rfl ht (by decide) reason
  | unknownStandard e => exact append_ne_of_head rfl ht (by decide) e.raw
  | walletNotConnected =>
    have hl : "Wallet not connected" = String.ofList ('W' :: "allet not connected".toList) := rfl
    have h := append_ne_of_head hl ht (by decide) ""
    rwa [String.append_empty] at h
  | walletUnavailable reason => exact append_ne_of_head rfl ht (by decide) reason
  | executor reason => exact append_ne_of_head rfl ht (by decide) reason
  | phaseFailed p reason =>
    have hassoc : ∀ a b c d : String, a ++ b ++ c ++ d = a ++ (b ++ c ++ d) := by
      intro a b c d
      simp only [String.append_assoc]
    have hmessage : (phaseFailed p reason).message =
        "Phase " ++ (p.title ++ " failed: " ++ reason) := hassoc ..
    rw [hmessage]
    exact append_ne_of_head rfl ht (by decide) _
  | store e => cases e <;> exact append_ne_of_head rfl ht (by decide) _

end Failure

/-! ## Before the phases -/

/-- A failure of the checks before the first phase. -/
def Failure.IsRefusal (f : Failure) : Prop :=
  (∀ p reason, f ≠ .phaseFailed p reason) ∧ ∀ e, f ≠ .store e

namespace Pipeline

lemma isRefusal_of_missing? {spec : Spec} {f : Failure} (h : missing? spec = some f) :
    f.IsRefusal := by
  unfold missing? at h
  split at h <;> cases h <;> exact ⟨nofun, nofun⟩

/-- A clearance is given for the contract that the spec stands for, or the spec is refused. -/
lemma clearance_cases (spec : Spec) (c : Connection) :
    (∃ cleared, clearance spec c = .ok cleared ∧ spec.contract = .ok cleared.contract) ∨
      ∃ f, clearance spec c = .error f ∧ f.IsRefusal := by
  unfold clearance
  cases c.address with
  | none => exact .inr ⟨_, rfl, nofun, nofun⟩
  | some deployer =>
    cases spec.contract with
    | error e => exact .inr ⟨_, rfl, nofun, nofun⟩
    | ok contract => exact .inl ⟨_, rfl, rfl⟩

lemma preflight_cases (wallet : Wallet ω) (spec : Spec) (w : ω) :
    (∃ cleared w', preflight wallet spec w = (.ok cleared, w') ∧
        spec.contract = .ok cleared.contract) ∨
      ∃ f w', preflight wallet spec w = (.error f, w') ∧ f.IsRefusal := by
  unfold preflight
  cases hmissing : missing? spec with
  | some f => exact .inr ⟨f, w, rfl, isRefusal_of_missing? hmissing⟩
  | none =>
    obtain ⟨connected, w'⟩ := ensureConnected wallet w
    cases connected with
    | false => exact .inr ⟨_, w', rfl, nofun, nofun⟩
    | true =>
      rcases clearance_cases spec (wallet.connection w') with ⟨cleared, h, hcontract⟩ | ⟨f, h, hf⟩
      · exact .inl ⟨cleared, w', by simp only [h], hcontract⟩
      · exact .inr ⟨f, w', by simp only [h], hf⟩

/-- What a run is cleared with: the contract that the spec stands for, and the account and the chain
of the wallet as it is connected then. -/
lemma of_preflight_ok {wallet : Wallet ω} {spec : Spec} {w w' : ω} {c : Clearance}
    (h : preflight wallet spec w = (.ok c, w')) :
    spec.contract = .ok c.contract ∧ (wallet.connection w').address = some c.deployer ∧
      c.chainId = (wallet.connection w').chainId.getD 0 := by
  unfold preflight at h
  split at h
  · cases h
  · split at h
    · cases h
    · obtain ⟨hclear, rfl⟩ := Prod.mk.inj h
      unfold clearance at hclear
      split at hclear
      · cases hclear
      · next deployer haddress =>
        split at hclear
        · cases hclear
        · next contract hcontract =>
          cases hclear
          exact ⟨hcontract, haddress, rfl⟩

end Pipeline

/-! ## How runs end -/

/-- The deployment comes before the verification. -/
lemma Phase.deploy_mem_of_verify {front back : List Phase}
    (h : Phase.all = front ++ .verify :: back) : .deploy ∈ front := by
  rcases front with _ | ⟨p, _ | ⟨q, _ | ⟨r, _ | ⟨t, front⟩⟩⟩⟩ <;> simp_all [Phase.all]

namespace Outcome

/-- A run that is refused before the first phase. -/
lemma orderly_of_refusal {spec : Spec} {o : Outcome ω σ τ} {f : Failure}
    (hresult : o.result = .error f) (hf : f.IsRefusal) (hsteps : o.session.steps = Step.freshRun)
    (hevents : o.events = []) : o.Orderly spec [] := by
  have hpending : ∀ step ∈ o.session.steps, step.status = .pending ∧ step.detail = none := by
    intro step hstep
    rw [hsteps] at hstep
    obtain ⟨p, -, rfl⟩ := List.mem_map.mp hstep
    exact ⟨rfl, rfl⟩
  constructor
  case phases =>
    rw [hsteps]
    rfl
  case succeeded =>
    intro report h
    cases hresult.symm.trans h
  case failed =>
    intro p reason h
    exact absurd (Except.error.inj (hresult.symm.trans h)) (hf.1 p reason)
  case unstored =>
    intro e h
    exact absurd (Except.error.inj (hresult.symm.trans h)) (hf.2 e)
  case refused => exact fun _ _ _ _ step hstep => (hpending step hstep).1
  case detail =>
    intro step hstep
    rw [(hpending step hstep).1, (hpending step hstep).2]
    simp
  case called =>
    rw [hsteps]
    rfl
  case begun =>
    rw [hevents]
    rfl
  case source => simp
  case address => simp
  case receipt =>
    intro p h
    exact absurd (Except.error.inj (hresult.symm.trans h)) (hf.1 p _)

/-- How the result of a run comes from that of its phases. -/
inductive Ends (o : Outcome ω σ τ) : Except Failure Findings → Prop
  | failed {e} (h : o.result = .error e) : o.Ends (.error e)
  | unstored {found e} (h : o.result = .error (.store e)) : o.Ends (.ok found)
  | succeeded {found report} (h : o.result = .ok report) (hsteps : report.steps = o.session.steps) :
    o.Ends (.ok found)

/-- A run that gets as far as the phases. -/
lemma orderly_of_course {spec : Spec} {o : Outcome ω σ τ} {ex : Executor σ} {source : String}
    {s s' : σ} {calls : List Call} {result : Except Failure Findings}
    (hsource : spec.generate = .ok source)
    (hcourse : Course ex source Phase.all {} s calls o.session.steps result s')
    (hbegun : Progress.begun o.events = calls.map Call.phase) (hends : o.Ends result) :
    o.Orderly spec calls := by
  constructor
  case phases => exact hcourse.map_phase_steps
  case succeeded =>
    intro report h
    cases hends with
    | failed he => cases he.symm.trans h
    | unstored he => cases he.symm.trans h
    | succeeded hr hsteps =>
      cases hr.symm.trans h
      exact ⟨hcourse.status_of_ok rfl, hsteps⟩
  case failed =>
    intro p reason h
    cases hends with
    | failed he =>
      obtain ⟨q, f, before, after, call, earlier, rfl, hsteps, hbefore, hafter, rfl, hq, hf⟩ :=
        hcourse.split_of_error rfl
      cases he.symm.trans h
      exact ⟨before, _, after, hsteps, hbefore, rfl, rfl, hafter, call, f, by simp, hq, hf, rfl⟩
    | unstored he => cases he.symm.trans h
    | succeeded hr => cases hr.symm.trans h
  case unstored =>
    intro e h
    cases hends with
    | failed he =>
      obtain ⟨q, f, -, -, -, -, rfl, -⟩ := hcourse.split_of_error rfl
      cases he.symm.trans h
    | unstored => exact hcourse.status_of_ok rfl
    | succeeded => exact hcourse.status_of_ok rfl
  case refused =>
    intro f h hphase hstore
    cases hends with
    | failed he =>
      obtain ⟨q, f', -, -, -, -, rfl, -⟩ := hcourse.split_of_error rfl
      exact absurd (Except.error.inj (h.symm.trans he)) (hphase q f'.message)
    | @unstored _ e he => exact absurd (Except.error.inj (h.symm.trans he)) (hstore e)
    | succeeded hr => cases hr.symm.trans h
  case detail => exact hcourse.detail_isSome
  case called => exact hcourse.map_phase_calls
  case begun => exact hbegun.symm
  case source =>
    intro call hcall text htext
    rw [hcourse.source_of_mem_calls call hcall text htext]
    exact hsource
  case address =>
    intro address text answer hc
    rcases hcourse.address_of_mem_calls hc with h | ⟨front, back, heq, hfront, -⟩
    · exact h
    · exact absurd (Phase.deploy_mem_of_verify heq) hfront
  case receipt =>
    intro p h
    cases hends with
    | failed he =>
      obtain ⟨q, f, -, -, -, -, rfl, -⟩ := hcourse.split_of_error rfl
      injection he.symm.trans h with h
      injection h with _ hmessage
      exact f.message_ne hmessage
    | unstored he => cases he.symm.trans h
    | succeeded hr => cases hr.symm.trans h

end Outcome

/-! ## Runs -/

/-- A pipeline whose executor writes down the calls to it. -/
def Pipeline.recorded (p : Pipeline ω σ τ) : Pipeline ω (σ × List Call) τ :=
  { timing := p.timing, wallet := p.wallet, executor := p.executor.recorded, store := p.store }

/-- A session whose executor has written down some calls. -/
def Session.recorded (s : Session ω σ τ) (calls : List Call) : Session ω (σ × List Call) τ :=
  ⟨s.wallet, (s.executor, calls), s.store, s.steps, s.clock⟩

/-- An outcome of a run whose executor has written down some calls. -/
def Outcome.recorded (o : Outcome ω σ τ) (calls : List Call) : Outcome ω (σ × List Call) τ :=
  ⟨o.result, o.session.recorded calls, o.events⟩

namespace Pipeline

/-- **What a run leaves behind.**  An executor that writes down the calls to it changes nothing else
in a run, and the outcome of the run and those calls fit together. -/
theorem run_orderly (p : Pipeline ω σ τ) (stamp : Stamp) (spec : Spec) (s : Session ω σ τ) :
    ∃ calls, p.recorded.run stamp spec (s.recorded []) = (p.run stamp spec s).recorded calls ∧
      (p.run stamp spec s).Orderly spec calls := by
  rcases preflight_cases p.wallet spec s.wallet with ⟨c, w, hpre, hcontract⟩ | ⟨f, w, hpre, hf⟩
  · have hpre' : preflight p.recorded.wallet spec (s.recorded []).wallet = (.ok c, w) := hpre
    have hsource : spec.generate = .ok c.contract.source := by
      rw [Spec.generate_eq_map_contract, hcontract]
      rfl
    obtain ⟨calls, steps, hcourse, hsteps, hbegun, hlog⟩ :=
      Progress.course_through p.timing p.executor c.contract.source Phase.all {}
        ⟨s.executor, Step.freshRun, s.clock, []⟩ [] [] rfl (by decide)
    obtain ⟨⟨result, g⟩, hg⟩ : ∃ outcome, Progress.through p.timing p.executor c.contract.source
      Phase.all {} ⟨s.executor, Step.freshRun, s.clock, []⟩ = outcome := ⟨_, rfl⟩
    rw [hg] at hcourse hsteps hbegun hlog
    have hg' : Progress.through p.recorded.timing p.recorded.executor c.contract.source
        Phase.all {} ⟨(s.recorded []).executor, Step.freshRun, (s.recorded []).clock, []⟩ =
        (result, g.recorded calls) := hlog
    refine ⟨calls, ?_⟩
    simp only [run, Progress.phases, hpre, hpre', hg, hg']
    have horderly : ∀ o : Outcome ω σ τ, o.session.steps = g.steps → o.events = g.events →
        o.Ends result → o.Orderly spec calls := by
      intro o hosteps hoevents hends
      rw [← List.nil_append steps, ← hsteps, ← hosteps] at hcourse
      exact Outcome.orderly_of_course hsource hcourse (hoevents ▸ hbegun) hends
    cases result with
    | error e => exact ⟨rfl, horderly _ rfl rfl (.failed rfl)⟩
    | ok found =>
      -- all phases went well, and the deployment among them has left a receipt
      obtain ⟨receipt, hreceipt⟩ :=
        Option.isSome_iff_exists.mp (hcourse.receipt_isSome rfl (.inl (by decide)))
      simp only [hreceipt]
      obtain ⟨⟨answer, t⟩, hupdate⟩ : ∃ outcome, p.store.update
        (Store.adding (record stamp spec c receipt found.verified)) s.store = outcome := ⟨_, rfl⟩
      have hupdate' : p.recorded.store.update
          (Store.adding (record stamp spec c receipt found.verified)) (s.recorded []).store =
          (answer, t) := hupdate
      simp only [hupdate, hupdate']
      cases answer with
      | error e => exact ⟨rfl, horderly _ rfl rfl (.unstored rfl)⟩
      | ok => exact ⟨rfl, horderly _ rfl rfl (.succeeded rfl rfl)⟩
  · have hpre' : preflight p.recorded.wallet spec (s.recorded []).wallet = (.error f, w) := hpre
    refine ⟨[], ?_⟩
    simp only [run, hpre, hpre']
    exact ⟨rfl, Outcome.orderly_of_refusal rfl hf rfl rfl⟩

end Pipeline

/-! ## How a run goes -/

namespace Pipeline

/-- The phases of a run that is cleared. -/
def performed (p : Pipeline ω σ τ) (c : Clearance) (s : Session ω σ τ) :
    Except Failure Findings × Progress σ :=
  Progress.phases p.timing p.executor c.contract.source ⟨s.executor, Step.freshRun, s.clock, []⟩

/-- The phases of a run take a course, and an executor that writes down the calls to it writes down
those of the course. -/
lemma exists_course (p : Pipeline ω σ τ) (c : Clearance) (s : Session ω σ τ) (log : List Call) :
    ∃ calls, Course p.executor c.contract.source Phase.all {} s.executor calls
        (p.performed c s).2.steps (p.performed c s).1 (p.performed c s).2.executor ∧
      p.recorded.performed c (s.recorded log) =
        ((p.performed c s).1, (p.performed c s).2.recorded (log ++ calls)) := by
  obtain ⟨calls, steps, hcourse, hsteps, -, hlog⟩ :=
    Progress.course_through p.timing p.executor c.contract.source Phase.all {}
      ⟨s.executor, Step.freshRun, s.clock, []⟩ [] log rfl (by decide)
  obtain rfl : (p.performed c s).2.steps = steps := hsteps
  exact ⟨calls, hcourse, hlog⟩

/-- How a run goes, piece by piece: the checks refuse it, a phase fails, the store does not take the
record, or all goes well. -/
inductive Goes (p : Pipeline ω σ τ) (stamp : Stamp) (spec : Spec) (s : Session ω σ τ) : Prop
  | refused {f w} (hpre : preflight p.wallet spec s.wallet = (.error f, w)) (hf : f.IsRefusal)
    (hrun : p.run stamp spec s =
      ⟨.error f, { s with wallet := w, steps := Step.freshRun }, []⟩)
  | failed {c w f g} (hpre : preflight p.wallet spec s.wallet = (.ok c, w))
    (hphases : p.performed c s = (.error f, g))
    (hrun : p.run stamp spec s =
      ⟨.error f, ⟨w, g.executor, s.store, g.steps, g.clock⟩, g.events⟩)
  | unstored {c w found g receipt e t} (hpre : preflight p.wallet spec s.wallet = (.ok c, w))
    (hphases : p.performed c s = (.ok found, g)) (hreceipt : found.receipt = some receipt)
    (hupdate : p.store.update (Store.adding (record stamp spec c receipt found.verified)) s.store =
      (.error e, t))
    (hrun : p.run stamp spec s =
      ⟨.error (.store e), ⟨w, g.executor, t, g.steps, g.clock⟩, g.events⟩)
  | succeeded {c w found g receipt t} (hpre : preflight p.wallet spec s.wallet = (.ok c, w))
    (hphases : p.performed c s = (.ok found, g)) (hreceipt : found.receipt = some receipt)
    (hupdate : p.store.update (Store.adding (record stamp spec c receipt found.verified)) s.store =
      (.ok (), t))
    (hrun : p.run stamp spec s =
      ⟨.ok ⟨record stamp spec c receipt found.verified, c.contract, found.gasEstimate, g.steps⟩,
        ⟨w, g.executor, t, g.steps, g.clock⟩, g.events⟩)

/-- **Every run goes in one of four ways.** -/
theorem goes (p : Pipeline ω σ τ) (stamp : Stamp) (spec : Spec) (s : Session ω σ τ) :
    p.Goes stamp spec s := by
  rcases preflight_cases p.wallet spec s.wallet with ⟨c, w, hpre, -⟩ | ⟨f, w, hpre, hf⟩
  · rcases hphases : p.performed c s with ⟨f | found, g⟩
    · refine .failed hpre hphases ?_
      rw [performed] at hphases
      simp only [run, hpre, hphases]
    · -- the deployment is among the phases that went well
      obtain ⟨calls, hcourse, -⟩ := p.exists_course c s []
      rw [hphases] at hcourse
      obtain ⟨receipt, hreceipt⟩ :=
        Option.isSome_iff_exists.mp (hcourse.receipt_isSome rfl (.inl (by decide)))
      rcases hupdate : p.store.update
        (Store.adding (record stamp spec c receipt found.verified)) s.store with ⟨e | ⟨⟩, t⟩
      · refine .unstored hpre hphases hreceipt hupdate ?_
        rw [performed] at hphases
        simp only [run, hpre, hphases, hreceipt, hupdate]
      · refine .succeeded hpre hphases hreceipt hupdate ?_
        rw [performed] at hphases
        simp only [run, hpre, hphases, hreceipt, hupdate]
  · exact .refused hpre hf (by simp only [run, hpre])

/-- A run that is cleared leaves the wallet, the executor, the steps and what was seen of it as the
checks and the phases leave them, and whatever it fails for is not a refusal. -/
lemma run_of_preflight_ok {p : Pipeline ω σ τ} {spec : Spec} {s : Session ω σ τ} {c : Clearance}
    {w : ω} (h : preflight p.wallet spec s.wallet = (.ok c, w)) (stamp : Stamp) :
    (p.run stamp spec s).session.wallet = w ∧
      (p.run stamp spec s).session.executor = (p.performed c s).2.executor ∧
      (p.run stamp spec s).session.steps = (p.performed c s).2.steps ∧
      (p.run stamp spec s).events = (p.performed c s).2.events ∧
      ∀ f, (p.run stamp spec s).result = .error f → ¬ f.IsRefusal := by
  cases p.goes stamp spec s with
  | refused hpre => cases hpre.symm.trans h
  | failed hpre hphases hrun =>
    cases hpre.symm.trans h
    rw [hrun, hphases]
    refine ⟨rfl, rfl, rfl, rfl, fun f hf hrefusal => ?_⟩
    obtain ⟨calls, hcourse, -⟩ := p.exists_course _ s []
    rw [hphases] at hcourse
    obtain ⟨q, f', -, -, -, -, rfl, -⟩ := hcourse.split_of_error rfl
    exact hrefusal.1 q f'.message (Except.error.inj hf).symm
  | unstored hpre hphases _ _ hrun =>
    cases hpre.symm.trans h
    rw [hrun, hphases]
    exact ⟨rfl, rfl, rfl, rfl, fun f hf hrefusal => hrefusal.2 _ (Except.error.inj hf).symm⟩
  | succeeded hpre hphases _ _ hrun =>
    cases hpre.symm.trans h
    rw [hrun, hphases]
    exact ⟨rfl, rfl, rfl, rfl, nofun⟩

end Pipeline

/-! ## Runs and their store -/

open Pipeline in
/-- How a run for a spec comes to its store, which it found in a state: not at all, or once, with
the record of the contract that the spec stands for.  It succeeds if the store takes the record. -/
inductive Outcome.Stored (store : Store τ) (stamp : Stamp) (spec : Spec) (before : τ)
    (o : Outcome ω σ τ) : Prop
  | unused {f} (hresult : o.result = .error f) (hstore : o.session.store = before)
  | refused {c receipt verified e} (hcontract : spec.contract = .ok c.contract)
      (hupdate : store.update (Store.adding (record stamp spec c receipt verified)) before =
        (.error e, o.session.store))
      (hresult : o.result = .error (.store e))
  | accepted {c receipt verified gas steps} (hcontract : spec.contract = .ok c.contract)
      (hupdate : store.update (Store.adding (record stamp spec c receipt verified)) before =
        (.ok (), o.session.store))
      (hresult : o.result =
        .ok ⟨record stamp spec c receipt verified, c.contract, gas, steps⟩)

/-- **A run comes to its store at most once**, after all phases. -/
theorem Pipeline.stored_run (p : Pipeline ω σ τ) (stamp : Stamp) (spec : Spec)
    (s : Session ω σ τ) : (p.run stamp spec s).Stored p.store stamp spec s.store := by
  cases p.goes stamp spec s with
  | refused _ _ hrun =>
    rw [hrun]
    exact .unused rfl rfl
  | failed _ _ hrun =>
    rw [hrun]
    exact .unused rfl rfl
  | unstored hpre _ _ hupdate hrun =>
    rw [hrun]
    exact .refused (of_preflight_ok hpre).1 hupdate rfl
  | succeeded hpre _ _ hupdate hrun =>
    rw [hrun]
    exact .accepted (of_preflight_ok hpre).1 hupdate rfl

end TokenLaunch
