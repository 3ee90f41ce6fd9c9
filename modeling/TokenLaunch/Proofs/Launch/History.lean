/-
# What a store remembers of many runs

Pipelines that share one store are run one after another (`Fleet.launchAll`), each with a wallet
and an executor of its own and in any order.  One run either succeeds and puts the record that it
reports in front of the dashboard, or fails and leaves the dashboard as it was
(`Pipeline.holds_run`): a run that is refused or fails in a phase never comes to the store, and a
store that fails keeps what it held.  So at the end the store holds the records of the runs that
succeeded, latest first, in front of the tokens that it held at the beginning (`Fleet.remembered`).

A disk holds a dashboard only in a file whose path never goes up from what is missing.  Elsewhere a
run that fails to save can change what is loaded (`Fleet.remembered_nowhere`).
-/
import TokenLaunch.Proofs.Dashboard.Keeper
import TokenLaunch.Proofs.Launch.Run

namespace TokenLaunch

variable {ω σ τ : Type}

/-! ## One run -/

/-- The dashboard after a run: one more record if the run succeeded, and no change if not. -/
def Dashboard.after (d : Dashboard) : Except Failure Report → Dashboard
  | .ok report => d.add report.record
  | .error _ => d

namespace Pipeline

/-- A launch leaves a storable record: the standard of a contract is the name of its kind, which is
read as that kind, and the time is that of a clock. -/
lemma isStorable_record {spec : Spec} {c : Clearance} (h : spec.contract = .ok c.contract)
    (stamp : Stamp) (receipt : Receipt) (verified : Bool) :
    (record stamp spec c receipt verified).IsStorable := by
  rw [Spec.contract] at h
  cases hstandard : spec.standard with
  | known k =>
    rw [hstandard] at h
    have hc : spec.normalize.contractFor k = c.contract := Except.ok.inj h
    have hrecord : (record stamp spec c receipt verified).standard = .known k := by
      rw [← hstandard, ← Spec.normalize_standard, record, ← hc]
      rfl
    exact ⟨⟨k.name, by rw [hrecord, Standard.ofText_name]⟩, stamp.now.proper⟩
  | unrecognized raw =>
    rw [hstandard] at h
    cases h

/-- **A run is recorded exactly if it succeeds.** -/
theorem holds_run (p : Pipeline ω σ τ) (k : p.store.Keeper) {s : Session ω σ τ} {d : Dashboard}
    (h : k.Holds s.store d) (stamp : Stamp) (spec : Spec) :
    k.Holds (p.run stamp spec s).session.store (d.after (p.run stamp spec s).result) := by
  cases p.stored_run stamp spec s with
  | unused hresult hstore =>
    rw [hresult, hstore]
    exact h
  | @refused c receipt verified e hcontract hupdate hresult =>
    rw [hresult]
    rcases k.update_adding h (isStorable_record hcontract stamp receipt verified) with
      ⟨t, hadded, -⟩ | ⟨e, t, hadded, ht⟩
    · cases hadded.symm.trans hupdate
    · obtain ⟨-, rfl⟩ := Prod.mk.inj (hadded.symm.trans hupdate)
      exact ht
  | @accepted c receipt verified gas steps hcontract hupdate hresult =>
    rw [hresult]
    rcases k.update_adding h (isStorable_record hcontract stamp receipt verified) with
      ⟨t, hadded, ht⟩ | ⟨e, t, hadded, -⟩
    · obtain ⟨-, rfl⟩ := Prod.mk.inj (hadded.symm.trans hupdate)
      exact ht
    · cases hadded.symm.trans hupdate

end Pipeline

/-! ## Many pipelines with one store -/

section Fleet

variable {ι : Type} {ω σ : ι → Type}

/-- Pipelines that share one store. -/
structure Fleet (ι : Type) (ω σ : ι → Type) (τ : Type) where
  timing : ι → Timing
  wallet : ∀ i, Wallet (ω i)
  executor : ∀ i, Executor (σ i)
  store : Store τ

/-- What goes on from run to run. -/
structure Fleet.State (ω σ : ι → Type) (τ : Type) where
  /-- Each pipeline's own part. -/
  own : ∀ i, Session (ω i) (σ i) Unit
  /-- The part that is shared. -/
  store : τ

/-- A run that is to be done. -/
structure Fleet.Job (ι : Type) where
  /-- The pipeline that is run. -/
  member : ι
  stamp : Stamp
  spec : Spec

namespace Fleet

/-- One of the pipelines. -/
def pipeline (f : Fleet ι ω σ τ) (i : ι) : Pipeline (ω i) (σ i) τ where
  timing := f.timing i
  wallet := f.wallet i
  executor := f.executor i
  store := f.store

/-- The session of a pipeline, with the shared store. -/
def State.session (s : State ω σ τ) (i : ι) : Session (ω i) (σ i) τ :=
  ⟨(s.own i).wallet, (s.own i).executor, s.store, (s.own i).steps, (s.own i).clock⟩

variable [DecidableEq ι]

/-- The state after a run of a pipeline. -/
def State.resume (s : State ω σ τ) (i : ι) (t : Session (ω i) (σ i) τ) : State ω σ τ where
  own := Function.update s.own i ⟨t.wallet, t.executor, (), t.steps, t.clock⟩
  store := t.store

/-- Do one run. -/
def launch (f : Fleet ι ω σ τ) (s : State ω σ τ) (j : Job ι) :
    Except Failure Report × State ω σ τ :=
  let o := (f.pipeline j.member).run j.stamp j.spec (s.session j.member)
  (o.result, s.resume j.member o.session)

/-- Do runs one after another.  Their results, in order. -/
def launchAll (f : Fleet ι ω σ τ) (s : State ω σ τ) :
    List (Job ι) → List (Except Failure Report) × State ω σ τ
  | [] => ([], s)
  | j :: js =>
    ((f.launch s j).1 :: (f.launchAll (f.launch s j).2 js).1, (f.launchAll (f.launch s j).2 js).2)

/-- The records of the runs that succeeded, in order. -/
def records (results : List (Except Failure Report)) : List Record :=
  results.filterMap fun result => result.toOption.map Report.record

/-- The dashboard after several runs. -/
lemma foldl_after (d : Dashboard) (results : List (Except Failure Report)) :
    results.foldl Dashboard.after d =
      { d with tokens := (records results).reverse ++ d.tokens } := by
  induction results generalizing d with
  | nil => rfl
  | cons result results ih =>
    cases result with
    | error f => exact ih d
    | ok report =>
      have hrecords : records (.ok report :: results) = report.record :: records results := rfl
      rw [List.foldl_cons, ih, hrecords, List.reverse_cons, List.append_assoc]
      rfl

/-- A run of any of the pipelines is recorded exactly if it succeeds. -/
lemma holds_launch (f : Fleet ι ω σ τ) (k : f.store.Keeper) {s : State ω σ τ} {d : Dashboard}
    (h : k.Holds s.store d) (j : Job ι) :
    k.Holds (f.launch s j).2.store (d.after (f.launch s j).1) :=
  (f.pipeline j.member).holds_run k h j.stamp j.spec

/-- The store goes along with the results. -/
lemma holds_launchAll (f : Fleet ι ω σ τ) (k : f.store.Keeper) {s : State ω σ τ} {d : Dashboard}
    (h : k.Holds s.store d) (js : List (Job ι)) :
    k.Holds (f.launchAll s js).2.store ((f.launchAll s js).1.foldl Dashboard.after d) := by
  induction js generalizing s d with
  | nil => exact h
  | cons j js ih => exact ih (f.holds_launch k h j)

/-- **Exactly the successful runs are remembered.**  After any runs, the shared store holds the
records of those that succeeded, latest first, in front of the tokens that it held before, with the
same endpoint, and loads nothing else.  In particular a run that fails, for whatever reason, changes
nothing that is held, and one that succeeds adds the record that it reports and nothing more. -/
theorem remembered (f : Fleet ι ω σ τ) (k : f.store.Keeper) {s : State ω σ τ} {d : Dashboard}
    (h : k.Holds s.store d) :
    (∀ js : List (Job ι), ∃ d', d'.rpcEndpoint = d.rpcEndpoint ∧
      d'.tokens = (records (f.launchAll s js).1).reverse ++ d.tokens ∧
      k.Holds (f.launchAll s js).2.store d' ∧
      ∀ b, (f.store.load (f.launchAll s js).2.store).1 = .ok b → b = d') ∧
    ∀ j : Job ι, (∀ e, (f.launch s j).1 = .error e → k.Holds (f.launch s j).2.store d) ∧
      ∀ report, (f.launch s j).1 = .ok report →
        k.Holds (f.launch s j).2.store (d.add report.record) := by
  constructor
  · intro js
    have hheld := f.holds_launchAll k h js
    rw [foldl_after] at hheld
    exact ⟨{ d with tokens := (records (f.launchAll s js).1).reverse ++ d.tokens }, rfl, rfl, hheld,
      fun _ hload => k.eq_of_load hheld hload⟩
  · intro j
    have hheld := f.holds_launch k h j
    refine ⟨fun e he => ?_, fun report hreport => ?_⟩
    · rwa [he] at hheld
    · rwa [hreport] at hheld

/-! ### Two pipelines -/

/-- Two pipelines.  The deployments of one succeed, those of the other do not. -/
def two (store : Store τ) : Fleet Bool (fun _ => Wallet.Scripted) (fun _ => Unit) τ where
  timing _ := .instant
  wallet _ := .scripted
  executor deploys := .scripted
    { compile := .ok "", estimateGas := .ok "0.02", confirm := .ok ()
      deploy := if deploys then .ok ⟨"0x1", "0x2"⟩ else .error (.executor "reverted")
      verify := .ok true }
  store := store

/-- Both pipelines before their first run. -/
def State.initial (t : τ) : State (fun _ : Bool => Wallet.Scripted) (fun _ => Unit) τ where
  own _ := { wallet := ⟨{}, some { connected := true, address := some "0xa" }⟩
             executor := (), store := () }
  store := t

/-- A run that is told apart by its id. -/
def Job.called (id : String) (member : Bool) : Job Bool :=
  ⟨member, ⟨id, .epoch⟩, .named (.known .uniqueAsset) "Coin" "C"⟩

/-- Of five runs the first and the last are remembered: in the second the store does not save, in
the third it does not load, and the fourth fails in a phase.  On a disk one of two runs is. -/
theorem remembered_two :
    ((two Store.memory.faulty).launchAll (.initial ({}, [false, false, false, true, true]))
      [.called "a" true, .called "b" true, .called "c" true, .called "d" false,
        .called "e" true]).2.store.1.tokens.map Record.id = ["e", "a"] ∧
    ∃ d, FileStore.load ⟨"data/state.json"⟩ ((two (.onDisk ⟨"data/state.json"⟩)).launchAll
        (.initial {}) [.called "a" true, .called "b" false]).2.store = .ok d ∧
      d.tokens.map Record.id = ["a"] := by
  constructor
  · obtain ⟨d, -, htokens, hheld, -⟩ :=
      (remembered (two Store.memory.faulty) Store.Keeper.memory.faulty
        (s := .initial ({}, [false, false, false, true, true])) (d := {}) rfl).1
        [.called "a" true, .called "b" true, .called "c" true, .called "d" false, .called "e" true]
    have hids : (records ((two Store.memory.faulty).launchAll
        (.initial ({}, [false, false, false, true, true]))
        [.called "a" true, .called "b" true, .called "c" true, .called "d" false,
          .called "e" true]).1).map Record.id = ["a", "e"] := by
      decide +kernel
    have hstore : _ = d := hheld
    rw [hstore, htokens, List.map_append, List.map_reverse, hids]
    rfl
  · have hempty : FileStore.Holds ⟨"data/state.json"⟩ {} {} :=
      ⟨Disk.isTree_empty, .of_not_mem (by decide +kernel), rfl⟩
    obtain ⟨d, -, htokens, hheld, -⟩ :=
      (remembered (two (.onDisk ⟨"data/state.json"⟩)) (Store.Keeper.onDisk _) (s := .initial {})
        (d := {}) hempty).1 [.called "a" true, .called "b" false]
    have hids : (records ((two (.onDisk ⟨"data/state.json"⟩)).launchAll (.initial {})
        [.called "a" true, .called "b" false]).1).map Record.id = ["a"] := by
      decide +kernel
    refine ⟨d, hheld.load, ?_⟩
    rw [htokens, List.map_append, List.map_reverse, hids]
    rfl

/-- Where a path goes up from what is missing, a run that fails to save makes a directory of what was
not there, and nothing is loaded any more. -/
theorem remembered_nowhere :
    FileStore.load ⟨"x/../x"⟩ {} = .ok {} ∧
    ((two (.onDisk ⟨"x/../x"⟩)).launch (.initial {}) (.called "a" true)).1 =
      .error (.store (.io "Is a directory (os error 21)")) ∧
    FileStore.load ⟨"x/../x"⟩
        ((two (.onDisk ⟨"x/../x"⟩)).launch (.initial {}) (.called "a" true)).2.store =
      .error (.io "Is a directory (os error 21)") :=
  ⟨rfl, rfl, rfl⟩

end Fleet
end Fleet
end TokenLaunch
