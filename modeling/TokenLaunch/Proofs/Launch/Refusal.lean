/-
# Runs that are refused

Four checks come before the first phase, always in the same order: the spec has a name, it has a
symbol, somebody pays, and its standard has a kind.  The first check that fails decides what the run
answers, whatever the later ones would say (`Pipeline.run_of_nameless` and the lemmas after it).
Only the third check asks anything of anybody: it asks a wallet that is not connected to connect.  A
run that is refused leaves everything else as it was, and its steps are fresh
(`Pipeline.run_examined`).
-/
import TokenLaunch.Proofs.Launch.Log
import TokenLaunch.Proofs.Launch.Watch

namespace TokenLaunch

variable {ω σ τ : Type}

/-! ## The checks one by one -/

namespace Spec

variable {spec : Spec}

lemma readiness_of_nameless (h : Text.isBlankText spec.name = true) :
    spec.readiness = .missingName := if_pos h

lemma readiness_of_symbolless (hname : Text.isBlankText spec.name = false)
    (h : Text.isBlankText spec.symbol = true) : spec.readiness = .missingSymbol := by
  simp [readiness, hname, h]

end Spec

namespace Wallet

variable {wallet : Wallet ω} {spec : Spec} {w : ω}

/-- Nothing is asked for a spec that is not ready. -/
lemma asked_of_not_ready (h : spec.readiness ≠ .ready) : wallet.asked spec w = [] :=
  if_neg fun hasked => h hasked.1

/-- Only a wallet that is not connected is asked, and only to connect. -/
lemma of_mem_asked {use : Use} (h : use ∈ wallet.asked spec w) :
    (wallet.connection w).connected = false ∧ use = .connect (wallet.connect w).1 := by
  unfold asked at h
  split_ifs at h with hasked
  · exact ⟨hasked.2, List.mem_singleton.mp h⟩
  · cases h

/-- A wallet is asked at most once. -/
lemma length_asked_le : (wallet.asked spec w).length ≤ 1 := by
  unfold asked
  split_ifs
  · exact le_rfl
  · exact zero_le_one

end Wallet

namespace Failure

/-- The failures of the checks before the first phase. -/
inductive OfChecks : Failure → Prop
  | specNotReady (reason : String) : OfChecks (.specNotReady reason)
  | walletNotConnected : OfChecks .walletNotConnected
  | unknownStandard (e : UnknownStandard) : OfChecks (.unknownStandard e)

lemma OfChecks.isRefusal {f : Failure} (h : f.OfChecks) : f.IsRefusal := by
  cases h <;> exact ⟨nofun, nofun⟩

end Failure

namespace Pipeline

variable {wallet : Wallet ω} {spec : Spec} {w : ω}

/-- The checks fail in no other way. -/
lemma ofChecks_of_preflight {f : Failure} (h : (preflight wallet spec w).1 = .error f) :
    f.OfChecks := by
  unfold preflight at h
  split at h
  · next hmissing =>
    obtain rfl := Except.error.inj h
    unfold missing? at hmissing
    split at hmissing <;> cases hmissing <;> exact .specNotReady _
  · split at h
    · cases h
      exact .walletNotConnected
    · simp only [clearance] at h
      split at h
      · cases h
        exact .walletNotConnected
      · split at h <;> cases h
        exact .unknownStandard _

/-- Where somebody pays, the standard decides. -/
lemma preflight_of_unrecognized {raw : String} (hready : spec.readiness = .ready)
    (haccepts : wallet.Accepts w)
    (haddress : (wallet.connection (wallet.attempted w)).address.isSome = true)
    (h : spec.standard = .unrecognized raw) :
    (preflight wallet spec w).1 = .error (.unknownStandard ⟨raw⟩) := by
  obtain ⟨deployer, hdeployer⟩ := Option.isSome_iff_exists.mp haddress
  obtain ⟨hensure, hattempted⟩ := ensureConnected_eq wallet w
  have hconnect : ensureConnected wallet w = (true, wallet.attempted w) :=
    Prod.ext (hensure.mpr haccepts) hattempted
  simp only [preflight, missing?_eq_none_iff.mpr hready, hconnect, clearance, hdeployer,
    Spec.contract_unrecognized h]

/-! ## Runs -/

variable (p : Pipeline ω σ τ) (stamp : Stamp) (spec : Spec) (s : Session ω σ τ)

/-- A run asks for a name before all else. -/
lemma run_of_nameless (h : Text.isBlankText spec.name = true) :
    (p.run stamp spec s).result = .error (.specNotReady "token name is required") := by
  have hmissing : missing? spec = some (.specNotReady "token name is required") := by
    rw [missing?, Spec.readiness_of_nameless h]
  rw [p.run_of_preflight_error stamp spec s (by rw [preflight, hmissing])]

/-- Then it asks for a symbol. -/
lemma run_of_symbolless (hname : Text.isBlankText spec.name = false)
    (h : Text.isBlankText spec.symbol = true) :
    (p.run stamp spec s).result = .error (.specNotReady "token symbol is required") := by
  have hmissing : missing? spec = some (.specNotReady "token symbol is required") := by
    rw [missing?, Spec.readiness_of_symbolless hname h]
  rw [p.run_of_preflight_error stamp spec s (by rw [preflight, hmissing])]

/-- Then somebody must pay. -/
lemma run_of_unpaid (hready : spec.readiness = .ready)
    (hnobody : p.wallet.Accepts s.wallet →
      (p.wallet.connection (p.wallet.attempted s.wallet)).address = none) :
    (p.run stamp spec s).result = .error .walletNotConnected := by
  rw [p.run_of_preflight_error stamp spec s (preflight_eq_walletNotConnected hready hnobody)]

/-- A run that asks nothing of the wallet leaves it as it was. -/
lemma wallet_run_of_asked_eq_nil (h : p.wallet.asked spec s.wallet = []) :
    (p.run stamp spec s).session.wallet = s.wallet := by
  rw [wallet_run]
  by_cases hready : spec.readiness = .ready
  · rw [preflight_snd hready, Wallet.attempted, if_pos]
    by_contra hconnected
    rw [Wallet.asked, if_pos ⟨hready, by simpa using hconnected⟩] at h
    cases h
  · rcases hmissing : missing? spec with _ | f
    · exact absurd (missing?_eq_none_iff.mp hmissing) hready
    · rw [preflight, hmissing]

/-- **What a run leaves that is refused**, and all that it asked. -/
lemma eq_of_refusal {f : Failure} (h : (p.run stamp spec s).result = .error f)
    (hf : f.IsRefusal) :
    f.OfChecks ∧ p.log stamp spec s = { wallet := p.wallet.asked spec s.wallet } ∧
      p.run stamp spec s = ⟨.error f, { s with
        wallet := (preflight p.wallet spec s.wallet).2, steps := Step.freshRun }, []⟩ := by
  obtain ⟨f', hpre⟩ := (p.isRefusal_iff stamp spec s).mp ⟨f, h, hf⟩
  have hrun := p.run_of_preflight_error stamp spec s hpre
  rw [hrun] at h
  obtain rfl := Except.error.inj h
  exact ⟨ofChecks_of_preflight hpre, log_of_refused stamp hpre, hrun⟩

end Pipeline

/-- What the checks of a run for a spec came to.  The run began with a session and left an outcome
behind, and what it asked of others is in a log. -/
structure Outcome.Examined (wallet : Wallet ω) (spec : Spec) (before : Session ω σ τ)
    (o : Outcome ω σ τ) (log : Log) : Prop where
  /-- Without a name the run is refused, and asks nothing of the wallet. -/
  nameless : Text.isBlankText spec.name = true →
    o.result = .error (.specNotReady "token name is required") ∧ log.wallet = []
  /-- With a name and without a symbol it is refused, and asks nothing of the wallet. -/
  symbolless : Text.isBlankText spec.name = false → Text.isBlankText spec.symbol = true →
    o.result = .error (.specNotReady "token symbol is required") ∧ log.wallet = []
  /-- With both, it is refused if the wallet is not connected and does not accept to connect. -/
  unconnected : Text.isBlankText spec.name = false → Text.isBlankText spec.symbol = false →
    (wallet.connection before.wallet).connected = false →
    ∀ e, (wallet.connect before.wallet).1 = .error e → o.result = .error .walletNotConnected
  /-- It is refused as well if the wallet shows no account then. -/
  unpaid : Text.isBlankText spec.name = false → Text.isBlankText spec.symbol = false →
    (wallet.connection (wallet.attempted before.wallet)).address = none →
    o.result = .error .walletNotConnected
  /-- Only where somebody pays, a standard without a kind is reported, by its text. -/
  unrecognized : Text.isBlankText spec.name = false → Text.isBlankText spec.symbol = false →
    wallet.Accepts before.wallet →
    (wallet.connection (wallet.attempted before.wallet)).address.isSome = true →
    ∀ raw, spec.standard = .unrecognized raw → o.result = .error (.unknownStandard ⟨raw⟩)
  /-- Where no check fails, the run is not refused. -/
  cleared : Pipeline.Admits wallet spec before.wallet →
    ∀ f, o.result = .error f → ¬ f.OfChecks
  /-- The wallet is asked at most once. -/
  length_wallet_le : log.wallet.length ≤ 1
  /-- It is asked to connect, and only if it is not connected. -/
  of_mem_wallet : ∀ use ∈ log.wallet, (wallet.connection before.wallet).connected = false ∧
    use = .connect (wallet.connect before.wallet).1
  /-- A wallet that is asked nothing stays as it was. -/
  wallet_eq : log.wallet = [] → o.session.wallet = before.wallet
  /-- No other failure comes before the first phase. -/
  ofChecks : ∀ f, o.result = .error f → f.IsRefusal → f.OfChecks
  /-- A run that is refused asks nothing of the executor and of the store, nothing is seen of it,
  and it leaves all but the wallet as it was, with fresh steps. -/
  refused : ∀ f, o.result = .error f → f.OfChecks →
    log.executor = [] ∧ log.store = [] ∧ o.events = [] ∧ o.session.steps = Step.freshRun ∧
      o.session = { before with wallet := o.session.wallet, steps := Step.freshRun }

namespace Pipeline

/-- **The checks before the first phase** come in a fixed order, and a run that they refuse does
nothing but to ask the wallet to connect, whatever the runs before have left. -/
theorem run_examined (p : Pipeline ω σ τ) (stamp : Stamp) (spec : Spec) (s : Session ω σ τ) :
    p.logged.run stamp spec (s.logged {}) =
        (p.run stamp spec s).logged (p.log stamp spec s) ∧
      (p.run stamp spec s).Examined p.wallet spec s (p.log stamp spec s) := by
  refine ⟨p.run_logged stamp spec s, ?_⟩
  have hready (hname : Text.isBlankText spec.name = false)
      (hsymbol : Text.isBlankText spec.symbol = false) : spec.readiness = .ready := by
    simp [Spec.readiness, hname, hsymbol]
  constructor
  case nameless =>
    intro h
    refine ⟨p.run_of_nameless stamp spec s h, ?_⟩
    rw [wallet_log, Wallet.asked_of_not_ready]
    simp [Spec.readiness_of_nameless h]
  case symbolless =>
    intro hname h
    refine ⟨p.run_of_symbolless stamp spec s hname h, ?_⟩
    rw [wallet_log, Wallet.asked_of_not_ready]
    simp [Spec.readiness_of_symbolless hname h]
  case unconnected =>
    intro hname hsymbol hconnected e he
    refine p.run_of_unpaid stamp spec s (hready hname hsymbol) ?_
    rintro (haccepts | ⟨c, hc⟩)
    · cases hconnected.symm.trans haccepts
    · cases he.symm.trans hc
  case unpaid =>
    intro hname hsymbol haddress
    exact p.run_of_unpaid stamp spec s (hready hname hsymbol) fun _ => haddress
  case unrecognized =>
    intro hname hsymbol haccepts haddress raw hraw
    rw [p.run_of_preflight_error stamp spec s
      (preflight_of_unrecognized (hready hname hsymbol) haccepts haddress hraw)]
  case cleared =>
    intro hadmits f hf hchecks
    obtain ⟨f', hrefused⟩ := (p.isRefusal_iff stamp spec s).mp ⟨f, hf, hchecks.isRefusal⟩
    obtain ⟨c, hcleared⟩ := preflight_eq_ok_iff.mpr hadmits
    cases hrefused.symm.trans hcleared
  case length_wallet_le =>
    rw [wallet_log]
    exact Wallet.length_asked_le
  case of_mem_wallet =>
    rw [wallet_log]
    intro use huse
    exact Wallet.of_mem_asked huse
  case wallet_eq =>
    rw [wallet_log]
    exact p.wallet_run_of_asked_eq_nil stamp spec s
  case ofChecks => exact fun f hf hrefusal => (p.eq_of_refusal stamp spec s hf hrefusal).1
  case refused =>
    intro f hf hchecks
    obtain ⟨-, hlog, hrun⟩ := p.eq_of_refusal stamp spec s hf hchecks.isRefusal
    rw [hlog, hrun]
    exact ⟨rfl, rfl, rfl, rfl, rfl⟩

end Pipeline
end TokenLaunch
