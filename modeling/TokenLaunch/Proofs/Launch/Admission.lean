/-
# Who may launch

Before its first phase a run makes sure that somebody pays for it.  If the wallet is not connected
it is asked to connect, and from then on the run asks for an account, not for a connection: it goes
on if the wallet was connected or accepted to connect, and shows an account then
(`Pipeline.preflight_eq_ok_iff`).  This is all that can be said of a wallet that may do anything.
A wallet that accepts and stays disconnected, but shows an account, can launch
(`Pipeline.launches_disconnected`); no wallet that is connected whenever it has accepted can
(`Outcome.Admitted.connected`).

Phases begin exactly in the runs that are let in, and a run that is not let in leaves everything as
it was, but for the wallet (`Pipeline.run_admitted`).  The same holds of every run of a pipeline
that is run again and again (`Pipeline.runAll_admitted`).
-/
import TokenLaunch.Proofs.Launch.Run

namespace TokenLaunch

variable {ω σ τ : Type}

/-! ## Wallets -/

namespace Wallet

/-- Whether a wallet lets a run go on: it is connected, or it accepts to connect. -/
def Accepts (wallet : Wallet ω) (w : ω) : Prop :=
  (wallet.connection w).connected = true ∨ ∃ c, (wallet.connect w).1 = .ok c

/-- Whether a wallet is connected whenever it has accepted to connect. -/
def KeepsWord (wallet : Wallet ω) : Prop :=
  ∀ w c, (wallet.connect w).1 = .ok c → (wallet.connection (wallet.connect w).2).connected = true

/-- The wallet after the attempt to connect, if there is need of one. -/
def attempted (wallet : Wallet ω) (w : ω) : ω :=
  if (wallet.connection w).connected then w else (wallet.connect w).2

variable {wallet : Wallet ω} {w : ω}

/-- The simulated wallet is connected whenever it has accepted. -/
lemma keepsWord_simulated : Wallet.simulated.KeepsWord := by
  intro w c h
  unfold simulated at h ⊢
  simp only at h ⊢
  split_ifs at h ⊢
  rfl

/-- A wallet that keeps its word is connected after an attempt that it accepted. -/
lemma KeepsWord.connected (h : wallet.KeepsWord) (haccepts : wallet.Accepts w) :
    (wallet.connection (wallet.attempted w)).connected = true := by
  unfold attempted
  split_ifs with hconnected
  · exact hconnected
  · obtain ⟨c, hc⟩ := haccepts.resolve_left hconnected
    exact h w c hc

end Wallet

/-! ## The checks before the first phase -/

namespace Pipeline

/-- Whether a run for a spec is let in by a wallet. -/
structure Admits (wallet : Wallet ω) (spec : Spec) (w : ω) : Prop where
  ready : spec.readiness = .ready
  accepts : wallet.Accepts w
  /-- The wallet shows an account after the attempt to connect. -/
  address : (wallet.connection (wallet.attempted w)).address.isSome = true
  recognized : spec.standard.isRecognized = true

variable {wallet : Wallet ω} {spec : Spec} {w : ω}

lemma ensureConnected_eq (wallet : Wallet ω) (w : ω) :
    ((ensureConnected wallet w).1 = true ↔ wallet.Accepts w) ∧
      (ensureConnected wallet w).2 = wallet.attempted w := by
  unfold ensureConnected Wallet.attempted Wallet.Accepts
  split_ifs with hconnected
  · simp [hconnected]
  · rcases hc : wallet.connect w with ⟨_ | c, w'⟩ <;> simp [hconnected]

lemma missing?_eq_none_iff : missing? spec = none ↔ spec.readiness = .ready := by
  unfold missing?
  cases spec.readiness <;> simp

lemma clearance_eq_ok_iff {c : Connection} : (∃ cleared, clearance spec c = .ok cleared) ↔
    c.address.isSome = true ∧ spec.standard.isRecognized = true := by
  unfold clearance Spec.contract
  cases c.address <;> cases spec.standard <;> simp [Except.map]

/-- The wallet that the checks leave behind. -/
lemma preflight_snd (h : spec.readiness = .ready) :
    (preflight wallet spec w).2 = wallet.attempted w := by
  rw [← (ensureConnected_eq wallet w).2, preflight, missing?_eq_none_iff.mpr h]
  rcases ensureConnected wallet w with ⟨_ | _, w'⟩ <;> rfl

/-- **Who passes the checks**: a spec that is ready and has a kind, with a wallet that is connected
or accepts to connect and shows an account then. -/
theorem preflight_eq_ok_iff :
    (∃ cleared, (preflight wallet spec w).1 = .ok cleared) ↔ Admits wallet spec w := by
  obtain ⟨haccepts, hattempted⟩ := ensureConnected_eq wallet w
  unfold preflight
  cases hmissing : missing? spec with
  | some f =>
    refine iff_of_false nofun fun h => ?_
    cases hmissing.symm.trans (missing?_eq_none_iff.mpr h.ready)
  | none =>
    have hready := missing?_eq_none_iff.mp hmissing
    rcases hensure : ensureConnected wallet w with ⟨_ | _, w'⟩
    · rw [hensure] at haccepts
      exact iff_of_false nofun fun h => absurd (haccepts.mpr h.accepts) nofun
    · rw [hensure] at haccepts hattempted
      obtain rfl : w' = wallet.attempted w := hattempted
      refine clearance_eq_ok_iff.trans ⟨fun h => ?_, fun h => ⟨h.address, h.recognized⟩⟩
      exact { ready := hready, accepts := haccepts.mp rfl, address := h.1, recognized := h.2 }

/-- Where nobody pays, the checks say so. -/
lemma preflight_eq_walletNotConnected (h : spec.readiness = .ready)
    (hnobody : wallet.Accepts w → (wallet.connection (wallet.attempted w)).address = none) :
    (preflight wallet spec w).1 = .error .walletNotConnected := by
  obtain ⟨haccepts, hattempted⟩ := ensureConnected_eq wallet w
  rw [preflight, missing?_eq_none_iff.mpr h]
  rcases hensure : ensureConnected wallet w with ⟨_ | _, w'⟩
  · rfl
  · rw [hensure] at haccepts hattempted
    obtain rfl : w' = wallet.attempted w := hattempted
    have hnone := hnobody (haccepts.mp rfl)
    simp only [clearance, hnone]

end Pipeline

/-! ## Runs -/

/-- Whether a phase of a run has begun. -/
def Outcome.Started (o : Outcome ω σ τ) : Prop :=
  ∃ step ∈ o.session.steps, step.status ≠ .pending

/-- What lets a run in, and what becomes of it otherwise.  The run left an outcome behind, and began
with a session. -/
structure Outcome.Admitted (wallet : Wallet ω) (spec : Spec) (before : Session ω σ τ)
    (o : Outcome ω σ τ) : Prop where
  /-- Phases begin exactly if the run is let in. -/
  started_iff : o.Started ↔ Pipeline.Admits wallet spec before.wallet
  /-- The wallet is asked to connect at most once, and not at all for a spec that is not ready. -/
  wallet_eq : o.session.wallet =
    if spec.readiness = .ready then wallet.attempted before.wallet else before.wallet
  /-- A run that is let in is paid for by an account. -/
  address : o.Started → (wallet.connection o.session.wallet).address.isSome = true
  /-- If the wallet keeps its word, it is connected then. -/
  connected : wallet.KeepsWord → o.Started →
    (wallet.connection o.session.wallet).connected = true
  /-- A run that is not let in fails before the first phase, and changes the wallet only. -/
  refused : ¬ o.Started → (∃ f, o.result = .error f ∧ f.IsRefusal) ∧ o.events = [] ∧
    o.session = { before with wallet := o.session.wallet, steps := Step.freshRun }
  /-- Where nobody pays, the run says so. -/
  notConnected : spec.readiness = .ready →
    (wallet.Accepts before.wallet →
      (wallet.connection (wallet.attempted before.wallet)).address = none) →
    o.result = .error .walletNotConnected

namespace Pipeline

variable (p : Pipeline ω σ τ) (stamp : Stamp) (spec : Spec) (s : Session ω σ τ)

/-- A run leaves the wallet as the checks before the first phase left it. -/
lemma wallet_run : (p.run stamp spec s).session.wallet = (preflight p.wallet spec s.wallet).2 := by
  rcases hpre : preflight p.wallet spec s.wallet with ⟨f | c, w⟩ <;> simp only [run, hpre]
  repeat' split
  all_goals rfl

/-- A run that fails the checks. -/
lemma run_of_preflight_error {f : Failure} (h : (preflight p.wallet spec s.wallet).1 = .error f) :
    p.run stamp spec s =
      ⟨.error f, { s with
        wallet := (preflight p.wallet spec s.wallet).2, steps := Step.freshRun }, []⟩ := by
  rcases hpre : preflight p.wallet spec s.wallet with ⟨f' | c, w⟩
  · rw [hpre] at h
    obtain rfl := Except.error.inj h
    simp only [run, hpre]
  · rw [hpre] at h
    cases h

/-- A run that passes the checks begins its first phase. -/
lemma started_of_preflight_ok {c : Clearance} (h : (preflight p.wallet spec s.wallet).1 = .ok c) :
    (p.run stamp spec s).Started := by
  have hpre : preflight p.wallet spec s.wallet = (.ok c, (preflight p.wallet spec s.wallet).2) :=
    Prod.ext h rfl
  obtain ⟨calls, hcourse, -⟩ := p.exists_course c s []
  rw [Outcome.Started, (run_of_preflight_ok hpre stamp).2.2.1]
  exact hcourse.exists_started (by decide)

/-- **Who may launch.**  Phases begin exactly if the spec is ready and has a kind, and the wallet is
connected or accepts to connect and then shows an account.  Otherwise the run fails before the first
phase and changes nothing but the wallet. -/
theorem run_admitted : (p.run stamp spec s).Admitted p.wallet spec s := by
  have hwallet : (p.run stamp spec s).session.wallet =
      if spec.readiness = .ready then p.wallet.attempted s.wallet else s.wallet := by
    rw [wallet_run]
    split_ifs with hready
    · exact preflight_snd hready
    · rcases hmissing : missing? spec with _ | f
      · exact absurd (missing?_eq_none_iff.mp hmissing) hready
      · rw [preflight, hmissing]
  have hstarted : (p.run stamp spec s).Started ↔ Admits p.wallet spec s.wallet := by
    rw [← preflight_eq_ok_iff]
    refine ⟨fun h => ?_, fun ⟨_, h⟩ => p.started_of_preflight_ok stamp spec s h⟩
    rcases hpre : (preflight p.wallet spec s.wallet).1 with f | c
    · obtain ⟨step, hstep, hstatus⟩ := h
      rw [p.run_of_preflight_error stamp spec s hpre] at hstep
      obtain ⟨q, -, rfl⟩ := List.mem_map.mp hstep
      exact absurd rfl hstatus
    · exact ⟨c, rfl⟩
  have hafter (h : Admits p.wallet spec s.wallet) :
      (p.run stamp spec s).session.wallet = p.wallet.attempted s.wallet := by
    rw [hwallet, if_pos h.ready]
  constructor
  case started_iff => exact hstarted
  case wallet_eq => exact hwallet
  case address =>
    intro h
    rw [hafter (hstarted.mp h)]
    exact (hstarted.mp h).address
  case connected =>
    intro hword h
    rw [hafter (hstarted.mp h)]
    exact hword.connected (hstarted.mp h).accepts
  case refused =>
    intro h
    rcases preflight_cases p.wallet spec s.wallet with ⟨c, w, hpre, -⟩ | ⟨f, w, hpre, hf⟩
    · exact absurd (p.started_of_preflight_ok stamp spec s (congrArg Prod.fst hpre)) h
    · rw [p.run_of_preflight_error stamp spec s (congrArg Prod.fst hpre)]
      exact ⟨⟨f, rfl, hf⟩, rfl, rfl⟩
  case notConnected =>
    intro hready hnobody
    rw [p.run_of_preflight_error stamp spec s (preflight_eq_walletNotConnected hready hnobody)]

/-! ## Runs one after another -/

/-- The session after several runs. -/
def sessionAfter (s : Session ω σ τ) (jobs : List (Stamp × Spec)) : Session ω σ τ :=
  jobs.foldl (fun s job => (p.run job.1 job.2 s).session) s

lemma getElem?_runAll (before after : List (Stamp × Spec)) :
    (p.runAll s (before ++ (stamp, spec) :: after))[before.length]? =
      some (p.run stamp spec (p.sessionAfter s before)) := by
  induction before generalizing s with
  | nil => rfl
  | cons job before ih => exact ih (p.run job.1 job.2 s).session

/-- **Who may launch, again and again.**  Each of many runs of a pipeline begins with the session
that the runs before it left, and phases of it begin exactly if it is let in by the wallet as that
session holds it.  A run that is let in is paid for by an account, and by a wallet that is connected
if the wallet keeps its word; a run that is not let in fails before the first phase and leaves
executor and store alone. -/
theorem runAll_admitted (before after : List (Stamp × Spec)) :
    ∃ o, (p.runAll s (before ++ (stamp, spec) :: after))[before.length]? = some o ∧
      o.Admitted p.wallet spec (p.sessionAfter s before) :=
  ⟨_, p.getElem?_runAll stamp spec s before after, p.run_admitted stamp spec _⟩

/-! ### A wallet that does not keep its word -/

/-- A pipeline whose executor does all that it is asked for. -/
def willing : Pipeline Wallet.Scripted Unit Dashboard where
  timing := .instant
  wallet := .scripted
  executor := .scripted
    { compile := .ok "", estimateGas := .ok "0.02", confirm := .ok ()
      deploy := .ok ⟨"0x1", "0x2"⟩, verify := .ok true }
  store := .memory

/-- A session whose wallet accepts to connect, shows an account then, and is not connected. -/
def hesitant : Session Wallet.Scripted Unit Dashboard where
  wallet := ⟨{}, some { connected := false, address := some "0xa" }⟩
  executor := ()
  store := {}

/-- A token is launched and remembered, and the wallet was never connected. -/
theorem launches_disconnected :
    (willing.run ⟨"a", .epoch⟩ (.named (.known .uniqueAsset) "Coin" "C") hesitant).Started ∧
      (willing.run ⟨"a", .epoch⟩ (.named (.known .uniqueAsset) "Coin" "C")
        hesitant).session.store.tokens.map Record.id = ["a"] ∧
      (Wallet.scripted.connection (willing.run ⟨"a", .epoch⟩
        (.named (.known .uniqueAsset) "Coin" "C") hesitant).session.wallet).connected = false := by
  refine ⟨(willing.run_admitted _ _ hesitant).started_iff.mpr ?_, ?_, ?_⟩
  · exact { ready := by decide, accepts := .inr ⟨_, rfl⟩, address := rfl, recognized := rfl }
  · decide +kernel
  · decide +kernel

end Pipeline
end TokenLaunch
