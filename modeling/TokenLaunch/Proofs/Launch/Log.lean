/-
# What a run asks of others

A run works with a wallet, an executor and a store.  Each of the three is watched by writing down
all that is asked of it, with its answer; to look how a wallet is connected asks nothing of it.
Watching changes nothing but what is written down (`Pipeline.run_logged`), so the log of a run
(`Pipeline.log`) says all that the run did to others.  The checks before the first phase ask the
wallet to connect or ask nothing; a run that they refuse asks nothing more
(`Pipeline.log_of_refused`), and a run that they clear makes the calls of the course that its phases
take (`Pipeline.log_of_cleared`) and comes to the store at the end.
-/
import TokenLaunch.Proofs.Launch.Run

namespace TokenLaunch

variable {ω σ τ α : Type}

/-! ## Wallets -/

namespace Wallet

/-- What is asked of a wallet, with its answer. -/
inductive Use
  | connect (answer : Except Failure Connection)
  | disconnect

/-- A wallet that writes down what is asked of it. -/
def recorded (wallet : Wallet ω) : Wallet (ω × List Use) where
  connect w := ((wallet.connect w.1).1,
    ((wallet.connect w.1).2, w.2 ++ [.connect (wallet.connect w.1).1]))
  disconnect w := (wallet.disconnect w.1, w.2 ++ [.disconnect])
  connection w := wallet.connection w.1

/-- What the checks for a spec ask of a wallet: to connect, if the spec is ready and the wallet is
not connected. -/
def asked (wallet : Wallet ω) (spec : Spec) (w : ω) : List Use :=
  if spec.readiness = .ready ∧ (wallet.connection w).connected = false then
    [.connect (wallet.connect w).1]
  else []

end Wallet

/-! ## Stores -/

namespace Store

/-- What is asked of a store, with its answer. -/
inductive Use
  | load (answer : Except StoreError Dashboard)
  | save (d : Dashboard) (answer : Except StoreError Unit)

/-- A store that writes down what is asked of it. -/
def recorded (s : Store τ) : Store (τ × List Use) where
  name := s.name
  load t := ((s.load t.1).1, ((s.load t.1).2, t.2 ++ [.load (s.load t.1).1]))
  save d t := ((s.save d t.1).1, ((s.save d t.1).2, t.2 ++ [.save d (s.save d t.1).1]))

/-- What an edit asks of a store: to load, and if it does, to save what was edited. -/
def uses (s : Store τ) (edit : Dashboard → α × Dashboard) (t : τ) : List Use :=
  match s.load t with
  | (.error e, _) => [.load (.error e)]
  | (.ok d, t) => [.load (.ok d), .save (edit d).2 (s.save (edit d).2 t).1]

lemma update_recorded (s : Store τ) (edit : Dashboard → α × Dashboard) (t : τ) (log : List Use) :
    s.recorded.update edit (t, log) =
      ((s.update edit t).1, ((s.update edit t).2, log ++ s.uses edit t)) := by
  unfold update uses recorded
  rcases hload : s.load t with ⟨e | d, t'⟩
  · simp [hload]
  · rcases hsave : s.save (edit d).2 t' with ⟨e | ⟨⟩, t''⟩ <;> simp [hload, hsave]

/-- What an edit asks of a store that takes it. -/
lemma uses_of_update_ok {s : Store τ} {edit : Dashboard → α × Dashboard} {t t' : τ} {a : α}
    (h : s.update edit t = (.ok a, t')) :
    ∃ d way, s.load t = (.ok d, way) ∧ s.save (edit d).2 way = (.ok (), t') ∧ a = (edit d).1 ∧
      s.uses edit t = [.load (.ok d), .save (edit d).2 (.ok ())] := by
  unfold update at h
  unfold uses
  rcases hload : s.load t with ⟨e | d, way⟩
  · simp [hload] at h
  · rcases hsave : s.save (edit d).2 way with ⟨e | ⟨⟩, t''⟩
    · simp [hload, hsave] at h
    · simp only [hload, hsave, Prod.mk.injEq, Except.ok.injEq] at h
      obtain ⟨rfl, rfl⟩ := h
      exact ⟨d, way, rfl, hsave, rfl, by simp only [hsave]⟩

end Store

/-! ## Runs -/

/-- What was asked of those that a run works with. -/
structure Log where
  wallet : List Wallet.Use := []
  executor : List Call := []
  store : List Store.Use := []

/-- A pipeline that writes down what is asked of those that it works with. -/
def Pipeline.logged (p : Pipeline ω σ τ) :
    Pipeline (ω × List Wallet.Use) (σ × List Call) (τ × List Store.Use) :=
  { timing := p.timing, wallet := p.wallet.recorded, executor := p.executor.recorded,
    store := p.store.recorded }

/-- A session in which something has been written down. -/
def Session.logged (s : Session ω σ τ) (log : Log) :
    Session (ω × List Wallet.Use) (σ × List Call) (τ × List Store.Use) :=
  ⟨(s.wallet, log.wallet), (s.executor, log.executor), (s.store, log.store), s.steps, s.clock⟩

/-- An outcome of a run in which something was written down. -/
def Outcome.logged (o : Outcome ω σ τ) (log : Log) :
    Outcome (ω × List Wallet.Use) (σ × List Call) (τ × List Store.Use) :=
  ⟨o.result, o.session.logged log, o.events⟩

namespace Pipeline

lemma ensureConnected_recorded (wallet : Wallet ω) (w : ω) (log : List Wallet.Use) :
    ensureConnected wallet.recorded (w, log) = ((ensureConnected wallet w).1,
      ((ensureConnected wallet w).2,
        log ++ if (wallet.connection w).connected then [] else [.connect (wallet.connect w).1])) := by
  unfold ensureConnected Wallet.recorded
  by_cases hconnected : (wallet.connection w).connected = true
  · simp [hconnected]
  · rcases hconnect : wallet.connect w with ⟨e | c, w'⟩ <;> simp [hconnected, hconnect]

/-- The checks ask nothing but to connect. -/
lemma preflight_recorded (wallet : Wallet ω) (spec : Spec) (w : ω) (log : List Wallet.Use) :
    preflight wallet.recorded spec (w, log) =
      ((preflight wallet spec w).1, ((preflight wallet spec w).2, log ++ wallet.asked spec w)) := by
  unfold preflight missing? Wallet.asked
  rw [ensureConnected_recorded]
  cases hready : spec.readiness with
  | missingName | missingSymbol => simp
  | ready =>
    rcases ensureConnected wallet w with ⟨_ | _, w'⟩ <;>
      cases (wallet.connection w).connected <;> simp [Wallet.recorded]

variable (p : Pipeline ω σ τ) (stamp : Stamp) (spec : Spec) (s : Session ω σ τ)

/-- What a run asks of those that it works with. -/
def log : Log :=
  ⟨(p.logged.run stamp spec (s.logged {})).session.wallet.2,
    (p.logged.run stamp spec (s.logged {})).session.executor.2,
    (p.logged.run stamp spec (s.logged {})).session.store.2⟩

variable {p spec s}

lemma log_eq {log : Log}
    (h : p.logged.run stamp spec (s.logged {}) = (p.run stamp spec s).logged log) :
    p.log stamp spec s = log := by
  rw [Pipeline.log, h]
  rfl

lemma run_logged_of_refused {f : Failure} {w : ω}
    (h : preflight p.wallet spec s.wallet = (.error f, w)) :
    p.logged.run stamp spec (s.logged {}) =
      (p.run stamp spec s).logged { wallet := p.wallet.asked spec s.wallet } := by
  have hpre := preflight_recorded p.wallet spec s.wallet []
  rw [h] at hpre
  have hpre' : preflight p.logged.wallet spec (s.logged {}).wallet =
      (.error f, (w, p.wallet.asked spec s.wallet)) := hpre
  simp only [run, h, hpre']
  rfl

/-- A run that is refused asks nothing of the executor and of the store. -/
lemma log_of_refused {f : Failure} (h : (preflight p.wallet spec s.wallet).1 = .error f) :
    p.log stamp spec s = { wallet := p.wallet.asked spec s.wallet } :=
  log_eq stamp (run_logged_of_refused stamp (Prod.ext h rfl))

lemma run_logged_of_cleared {c : Clearance} {w : ω}
    (h : preflight p.wallet spec s.wallet = (.ok c, w)) :
    ∃ calls uses, Course p.executor c.contract.source Phase.all {} s.executor calls
        (p.performed c s).2.steps (p.performed c s).1 (p.performed c s).2.executor ∧
      (∀ found receipt, (p.performed c s).1 = .ok found → found.receipt = some receipt →
        uses = p.store.uses (Store.adding (record stamp spec c receipt found.verified)) s.store) ∧
      p.logged.run stamp spec (s.logged {}) =
        (p.run stamp spec s).logged ⟨p.wallet.asked spec s.wallet, calls, uses⟩ := by
  have hpre := preflight_recorded p.wallet spec s.wallet []
  rw [h] at hpre
  have hpre' : preflight p.logged.wallet spec (s.logged {}).wallet =
      (.ok c, (w, p.wallet.asked spec s.wallet)) := hpre
  obtain ⟨calls, hcourse, hcalls⟩ := p.exists_course c s []
  have hphases' : Progress.phases p.logged.timing p.logged.executor c.contract.source
      ⟨(s.logged {}).executor, Step.freshRun, (s.logged {}).clock, []⟩ =
        ((p.performed c s).1, (p.performed c s).2.recorded calls) := hcalls
  cases p.goes stamp spec s with
  | refused hrefused => cases hrefused.symm.trans h
  | failed hpre hphases hrun =>
    cases hpre.symm.trans h
    refine ⟨calls, [], hcourse, by simp [hphases], ?_⟩
    rw [hphases] at hphases'
    rw [hrun]
    simp only [run, hpre', hphases']
    rfl
  | @unstored c w found g receipt e t hpre hphases hreceipt hupdate hrun
  | @succeeded c w found g receipt t hpre hphases hreceipt hupdate hrun =>
    cases hpre.symm.trans h
    refine ⟨calls, p.store.uses (Store.adding (record stamp spec c receipt found.verified)) s.store,
      hcourse, ?_, ?_⟩
    · intro found' receipt' hfound' hreceipt'
      rw [hphases] at hfound'
      obtain rfl := Except.ok.inj hfound'
      obtain rfl := Option.some.inj (hreceipt.symm.trans hreceipt')
      rfl
    · have hupdate' := p.store.update_recorded
        (Store.adding (record stamp spec c receipt found.verified)) s.store []
      rw [hupdate] at hupdate'
      have hupdate'' : p.logged.store.update
        (Store.adding (record stamp spec c receipt found.verified)) (s.logged {}).store = _ := hupdate'
      rw [hphases] at hphases'
      rw [hrun]
      simp only [run, hpre', hphases', hreceipt, hupdate'']
      rfl

/-- A run that is cleared makes the calls of the course that its phases take, and if the phases go
well, it asks the store to add the record. -/
lemma log_of_cleared {c : Clearance} {w : ω}
    (h : preflight p.wallet spec s.wallet = (.ok c, w)) :
    Course p.executor c.contract.source Phase.all {} s.executor (p.log stamp spec s).executor
        (p.performed c s).2.steps (p.performed c s).1 (p.performed c s).2.executor ∧
      ∀ found receipt, (p.performed c s).1 = .ok found → found.receipt = some receipt →
        (p.log stamp spec s).store =
          p.store.uses (Store.adding (record stamp spec c receipt found.verified)) s.store := by
  obtain ⟨calls, uses, hcourse, huses, hrun⟩ := run_logged_of_cleared stamp h
  rw [log_eq stamp hrun]
  exact ⟨hcourse, huses⟩

/-- Of the wallet a run asks what the checks ask. -/
lemma wallet_log (p : Pipeline ω σ τ) (stamp : Stamp) (spec : Spec) (s : Session ω σ τ) :
    (p.log stamp spec s).wallet = p.wallet.asked spec s.wallet := by
  rcases hpre : preflight p.wallet spec s.wallet with ⟨f | c, w⟩
  · rw [log_of_refused stamp (congrArg Prod.fst hpre)]
  · obtain ⟨calls, uses, -, -, hrun⟩ := run_logged_of_cleared stamp hpre
    rw [log_eq stamp hrun]

/-- **Watching changes nothing** but what is written down. -/
theorem run_logged (p : Pipeline ω σ τ) (stamp : Stamp) (spec : Spec) (s : Session ω σ τ) :
    p.logged.run stamp spec (s.logged {}) = (p.run stamp spec s).logged (p.log stamp spec s) := by
  rcases hpre : preflight p.wallet spec s.wallet with ⟨f | c, w⟩
  · have hrun := run_logged_of_refused stamp hpre
    rw [log_eq stamp hrun, hrun]
  · obtain ⟨calls, uses, -, -, hrun⟩ := run_logged_of_cleared stamp hpre
    rw [log_eq stamp hrun, hrun]

end Pipeline
end TokenLaunch
