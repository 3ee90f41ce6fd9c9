/-
# What a successful run reports

The phases, the wallet and the generator each give some of the values that a report is made of, and
the same values are told by the steps, written to the store and passed on to the executor.  They
agree wherever they turn up (`Pipeline.report_consistent`): the calls of the run and its steps are
those of a course in which all goes well (`Course.eq_of_ok`), so every value was answered in this
run and none is left over from an earlier one.  The record is put in front of the others, so no
older one hides it from whoever looks for its id or for its address (`Dashboard.find?_add`).
-/
import TokenLaunch.Proofs.Dashboard.Interruption
import TokenLaunch.Proofs.Launch.Admission
import TokenLaunch.Proofs.Launch.History
import TokenLaunch.Proofs.Launch.Log

namespace TokenLaunch

variable {ω σ τ : Type}

/-! ## Records that are found again -/

/-- A record that was put in front is found by its id and by its address in any letter case. -/
lemma Dashboard.find?_add (d : Dashboard) {r : Record} {key : String}
    (h : key = r.id ∨ Text.lowerCase key = Text.lowerCase r.address) :
    (d.add r).find? key = some r := by
  have hkey : (r.id == key || isAt key r) = true := by
    rcases h with rfl | h
    · simp
    · simp [isAt, Text.sameIgnoringCase_iff, h]
  exact List.find?_cons_of_pos hkey

namespace Store

/-- Whether a store that takes a storable record gives it back, in front of what it gave before. -/
def GivesBack (s : Store τ) : Prop :=
  ∀ r : Record, r.IsStorable → ∀ t t', s.update (adding r) t = (.ok (), t') →
    ∃ d, (s.load t).1 = .ok d ∧ (s.load t').1 = .ok (d.add r)

lemma givesBack_memory : memory.GivesBack := by
  intro r _ t t' h
  obtain ⟨d, hload, -, hback⟩ := completes_memory t (adding r) () t' h
  exact ⟨d, hload, hback⟩

lemma givesBack_onDisk (p : Path) : (onDisk p).GivesBack := by
  intro r hr t t' h
  obtain ⟨d, hload, -, hback⟩ := completes_onDisk p t (adding r) () t' h
  have hstorable : (d.add r).IsStorable := by
    intro r' hr'
    rcases List.mem_cons.mp hr' with rfl | hold
    · exact hr
    · exact FileStore.isStorable_of_load hload r' hold
  have hsame : (adding r d).2.reread = d.add r := Dashboard.reread_eq_iff.mpr hstorable
  exact ⟨d, hload, hsame ▸ hback⟩

end Store

lemma Network.ofChain_eq_mainnet_iff {chainId : Option UInt64} :
    ofChain (chainId.getD 0) = .mainnet ↔ chainId = some 1 := by
  rw [ofChain]
  cases chainId with
  | none => simp
  | some n => simp

/-! ## Reports -/

/-- What a report says of a run for a spec.  The run began with a session and left an outcome
behind, and what it asked of others is in a log. -/
structure Report.Consistent (report : Report) (stamp : Stamp) (spec : Spec) (wallet : Wallet ω)
    (store : Store τ) (before : Session ω σ τ) (o : Outcome ω σ τ) (log : Log) : Prop where
  /-- The contract is the one that the spec stands for. -/
  contract : spec.contract = .ok report.contract
  /-- The record is that of this run. -/
  stamp : report.record.id = stamp.id ∧ report.record.deployedAt = stamp.now.instant
  /-- It calls the token as the spec does. -/
  named : report.record.name = spec.name ∧ report.record.symbol = spec.symbol
  /-- It describes the token as the contract does. -/
  described : report.record.standard = report.contract.standard ∧
    report.record.decimals = report.contract.decimals ∧
    report.record.features = report.contract.features
  /-- All else was answered by the executor in this run, where the address that was deployed is the
  one that was verified. -/
  answered : ∃ summary, log.executor =
    [.compile report.contract.source (.ok summary), .estimateGas (.ok report.gasEstimate),
      .confirm (.ok ()), .deploy (.ok ⟨report.record.address, report.record.transaction⟩),
      .verify report.record.address report.contract.source (.ok report.record.verified)] ∧
    report.steps =
      [⟨.compile, .completed, some summary⟩,
        ⟨.estimateGas, .completed, some (report.gasEstimate ++ " ETH")⟩,
        ⟨.confirm, .completed, some "transaction approved"⟩,
        ⟨.deploy, .completed, some report.record.address⟩,
        ⟨.verify, .completed, some
          (if report.record.verified then "source verified" else "verification pending")⟩]
  /-- The steps that are reported are those that the run leaves. -/
  steps : report.steps = o.session.steps
  /-- The run is paid for by the account that the wallet shows after the attempt to connect. -/
  deployer : o.session.wallet = wallet.attempted before.wallet ∧
    (wallet.connection o.session.wallet).address = some report.record.deployer
  /-- The network is the one that the wallet is connected to. -/
  network : report.record.network = .mainnet ↔
    (wallet.connection o.session.wallet).chainId = some 1
  /-- The store took the record in front of what it held, where it is found by its id and by its
  address in any letter case. -/
  stored : ∃ d, log.store = [.load (.ok d), .save (d.add report.record) (.ok ())] ∧
    ∀ key, key = report.record.id ∨ Text.lowerCase key = Text.lowerCase report.record.address →
      (d.add report.record).find? key = some report.record
  /-- If the store gives back what it takes, the record is found in what is loaded from then on. -/
  loaded : store.GivesBack → ∃ d, (store.load o.session.store).1 = .ok d ∧
    ∀ key, key = report.record.id ∨ Text.lowerCase key = Text.lowerCase report.record.address →
      d.find? key = some report.record

namespace Pipeline

/-- The phases of a run depend on the run before only by the executor. -/
lemma performed_congr (p : Pipeline ω σ τ) (c : Clearance) {s s' : Session ω σ τ}
    (h : s'.executor = s.executor) :
    ∃ g, p.performed c s' = ((p.performed c s).1, g) ∧ g.steps = (p.performed c s).2.steps := by
  obtain ⟨_, hcourse, -⟩ := p.exists_course c s []
  obtain ⟨_, hcourse', -⟩ := p.exists_course c s' []
  rw [h] at hcourse'
  obtain ⟨-, hsteps, hresult, -⟩ := hcourse'.unique hcourse
  exact ⟨(p.performed c s').2, by rw [← hresult], hsteps⟩

/-- **Nothing that an earlier run left in the pipeline is reported**, unless wallet, executor or
store remember it. -/
lemma result_run_afresh (p : Pipeline ω σ τ) (stamp : Stamp) (spec : Spec) (s : Session ω σ τ)
    (steps : List Step) (clock : Nat) :
    (p.run stamp spec { s with steps := steps, clock := clock }).result =
      (p.run stamp spec s).result := by
  obtain ⟨s', hs', hwallet, hexecutor, hstore⟩ : ∃ s' : Session ω σ τ,
      s' = { s with steps := steps, clock := clock } ∧ s'.wallet = s.wallet ∧
        s'.executor = s.executor ∧ s'.store = s.store := ⟨_, rfl, rfl, rfl, rfl⟩
  rw [← hs']
  cases p.goes stamp spec s with
  | refused hpre _ hrun =>
    rw [← hwallet] at hpre
    rw [hrun, p.run_of_preflight_error stamp spec s' (congrArg Prod.fst hpre)]
  | @failed c w f g hpre hphases hrun =>
    obtain ⟨g', hphases', -⟩ := p.performed_congr c hexecutor
    rw [hphases, performed] at hphases'
    rw [← hwallet] at hpre
    rw [hrun]
    simp only [run, hpre, hphases']
  | @unstored c w found g receipt e t hpre hphases hreceipt hupdate hrun
  | @succeeded c w found g receipt t hpre hphases hreceipt hupdate hrun =>
    obtain ⟨g', hphases', hsteps⟩ := p.performed_congr c hexecutor
    rw [hphases] at hphases' hsteps
    rw [performed] at hphases'
    rw [← hwallet] at hpre
    rw [← hstore] at hupdate
    rw [hrun]
    simp only [run, hpre, hphases', hreceipt, hupdate, hsteps]

variable {p : Pipeline ω σ τ} {stamp : Stamp} {spec : Spec} {s : Session ω σ τ} {report : Report}

lemma consistent_of_result_ok (h : (p.run stamp spec s).result = .ok report) :
    report.Consistent stamp spec p.wallet p.store s (p.run stamp spec s)
      (p.log stamp spec s) := by
  cases p.goes stamp spec s with
  | refused _ _ hrun | failed _ _ hrun | unstored _ _ _ _ hrun =>
    rw [hrun] at h
    cases h
  | @succeeded c w found g receipt t hpre hphases hreceipt hupdate hrun =>
    rw [hrun] at h
    obtain rfl := Except.ok.inj h
    obtain ⟨hcontract, hdeployer, hchain⟩ := of_preflight_ok hpre
    obtain ⟨hcourse, hstore⟩ := log_of_cleared stamp hpre
    rw [hphases] at hcourse hstore
    obtain ⟨summary, receipt', hreceipt', hcalls, hsteps⟩ := hcourse.eq_of_ok
    obtain rfl := Option.some.inj (hreceipt.symm.trans hreceipt')
    obtain ⟨d, way, hload, hsave, -, huses⟩ := Store.uses_of_update_ok hupdate
    have hadmits := preflight_eq_ok_iff.mp ⟨c, congrArg Prod.fst hpre⟩
    have hwallet : w = p.wallet.attempted s.wallet := by
      rw [← preflight_snd hadmits.ready, hpre]
    have hnetwork : Network.ofChain c.chainId = .mainnet ↔
        (p.wallet.connection w).chainId = some 1 := by
      rw [hchain]
      exact Network.ofChain_eq_mainnet_iff
    rw [hrun]
    exact
      { contract := hcontract
        stamp := ⟨rfl, rfl⟩
        named := ⟨rfl, rfl⟩
        described := ⟨rfl, rfl, rfl⟩
        answered := ⟨summary, hcalls, hsteps⟩
        steps := rfl
        deployer := ⟨hwallet, hdeployer⟩
        network := hnetwork
        stored := ⟨d, (hstore found receipt rfl hreceipt).trans huses,
          fun key hkey => d.find?_add hkey⟩
        loaded := fun hback => by
          obtain ⟨d, -, hload⟩ := hback _
            (isStorable_record hcontract stamp receipt found.verified) _ _ hupdate
          exact ⟨d.add _, hload, fun key hkey => d.find?_add hkey⟩ }

/-- **A report agrees with all that it comes from**, whatever was run before and whatever wallet,
executor and store do.  The store in memory and those on disk give back what they take. -/
theorem report_consistent (h : (p.run stamp spec s).result = .ok report) :
    p.logged.run stamp spec (s.logged {}) =
        (p.run stamp spec s).logged (p.log stamp spec s) ∧
      report.Consistent stamp spec p.wallet p.store s (p.run stamp spec s)
        (p.log stamp spec s) ∧
      (∀ steps clock, (p.run stamp spec { s with steps := steps, clock := clock }).result =
        .ok report) ∧
      Store.memory.GivesBack ∧ ∀ path, (Store.onDisk path).GivesBack :=
  ⟨p.run_logged stamp spec s, consistent_of_result_ok h,
    fun steps clock => (p.result_run_afresh stamp spec s steps clock).trans h,
    Store.givesBack_memory, Store.givesBack_onDisk⟩

/-- A token that is launched is found by its address in capital letters. -/
theorem report_consistent_hesitant : ∃ report,
    (willing.run ⟨"a", .epoch⟩ (.named (.known .uniqueAsset) "Coin" "C") hesitant).result =
        .ok report ∧
      ∃ d, (Store.memory.load (willing.run ⟨"a", .epoch⟩ (.named (.known .uniqueAsset) "Coin" "C")
          hesitant).session.store).1 = .ok d ∧
        d.find? "0X1" = some report.record := by
  have hok : (willing.run ⟨"a", .epoch⟩ (.named (.known .uniqueAsset) "Coin" "C")
      hesitant).result.toOption.map (fun report => report.record.address) = some "0x1" := by
    decide +kernel
  rcases hresult : (willing.run ⟨"a", .epoch⟩ (.named (.known .uniqueAsset) "Coin" "C")
    hesitant).result with f | report
  · rw [hresult] at hok
    cases hok
  · rw [hresult] at hok
    have haddress : report.record.address = "0x1" := Option.some.inj hok
    obtain ⟨-, hconsistent, -, hmemory, -⟩ := report_consistent hresult
    obtain ⟨d, hload, hfind⟩ := hconsistent.loaded hmemory
    refine ⟨report, rfl, d, hload, hfind "0X1" (.inr ?_)⟩
    rw [haddress]
    decide +kernel

end Pipeline
end TokenLaunch
