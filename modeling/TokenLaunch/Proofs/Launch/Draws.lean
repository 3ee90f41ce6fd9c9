/-
# What a seed determines

The simulated executor answers with a gas estimate, an address and a transaction that it makes of
words, drawn from a stream one after another.  How many words a phase draws is the same for every
token (`Simulated.words`), and which phases are passed depends only on the phase that the executor
is told to fail in (`Simulated.passed`).  So every run that is cleared draws the same number of
words, whatever comes of it at the store, and a run that is refused draws none: the `k`-th run that
is cleared begins at a word that is known beforehand (`Pipeline.draws_clearedRuns`).  Two sequences
of runs that begin at the same word of the same stream agree, run by run, on all that is drawn
(`Pipeline.draws_reproducible`).
-/
import TokenLaunch.Proofs.Launch.Report

namespace TokenLaunch

variable {ω ω' τ τ' : Type}

/-! ## Draws -/

/-- What an executor makes of words that it draws. -/
inductive Draw
  | gasEstimate (text : String)
  | receipt (receipt : Receipt)

/-- What was drawn to answer a call. -/
def Call.draw? : Call → Option Draw
  | .estimateGas (.ok gas) => some (.gasEstimate gas)
  | .deploy (.ok receipt) => some (.receipt receipt)
  | _ => none

/-- What was drawn in a run. -/
def Log.draws (log : Log) : List Draw :=
  log.executor.filterMap Call.draw?

namespace Executor.Simulated

/-- The number of words that a phase draws. -/
def words : Phase → Nat
  | .estimateGas => 2
  | .deploy => addressSize + transactionSize
  | .compile | .confirm | .verify => 0

/-- What a phase draws from a position of the stream on. -/
def draw? (ws : Words) (position : Nat) : Phase → Option Draw
  | .estimateGas => some (.gasEstimate (gasText (ws.fraction position)))
  | .deploy => some (.receipt
      { address := onChain (ws.bytes position addressSize)
        transaction := onChain (ws.bytes (position + addressSize) transactionSize) })
  | .compile | .confirm | .verify => none

/-- What phases draw one after another. -/
def draws (ws : Words) : Nat → List Phase → List Draw
  | _, [] => []
  | position, p :: ps => (draw? ws position p).toList ++ draws ws (position + words p) ps

/-- The phases before the one to fail in. -/
def passed (failAt : Option Phase) (ps : List Phase) : List Phase :=
  ps.takeWhile fun p => failAt ≠ some p

/-- The number of words that are drawn in phases. -/
def wordsIn (failAt : Option Phase) (ps : List Phase) : Nat :=
  ((passed failAt ps).map words).sum

variable {failAt : Option Phase} {p : Phase} {ps : List Phase}

lemma passed_cons_of_eq (h : failAt = some p) : passed failAt (p :: ps) = [] := by
  simp [passed, h]

lemma passed_cons_of_ne (h : failAt ≠ some p) :
    passed failAt (p :: ps) = p :: passed failAt ps := by
  simp [passed, h]

lemma wordsIn_cons_of_ne (h : failAt ≠ some p) :
    wordsIn failAt (p :: ps) = words p + wordsIn failAt ps := by
  rw [wordsIn, passed_cons_of_ne h]
  rfl

end Executor.Simulated

namespace Executor

open Simulated (words draw? draws passed wordsIn)

variable (ws : Words) {failAt : Option Phase} (source : String) (found : Findings) (s : Simulated)
  {p : Phase}

/-! ## Phases -/

/-- In the phase to fail in nothing is drawn. -/
lemma work_simulated_of_eq (h : failAt = some p) :
    (simulated ws failAt).work source found p s = (.error (Simulated.failure p), s) ∧
      ((simulated ws failAt).call source found s p).draw? = none := by
  subst h
  cases p <;> simp [work, call, Work.map, simulated, Simulated.unlessFailing, Except.map,
    Call.draw?]

/-- In any other phase the words are drawn that belong to it, whatever is launched. -/
lemma work_simulated_of_ne (h : failAt ≠ some p) :
    (∃ answer, (simulated ws failAt).work source found p s =
        (.ok answer, ⟨s.drawn + words p⟩)) ∧
      ((simulated ws failAt).call source found s p).draw? = draw? ws s.drawn p := by
  cases p <;> simp [work, call, Work.map, simulated, Simulated.unlessFailing, h, Except.map,
    Call.draw?, words, draw?, Nat.add_assoc]

end Executor

namespace Course

open Executor (Simulated simulated)
open Executor.Simulated

variable {ws : Words} {failAt : Option Phase} {source : String} {ps : List Phase}
  {found : Findings} {s s' : Simulated} {calls : List Call} {steps : List Step}
  {result : Except Failure Findings}

/-- **What phases draw** depends only on the phase to fail in and on the position of the stream. -/
lemma draws_simulated
    (h : Course (simulated ws failAt) source ps found s calls steps result s') :
    calls.filterMap Call.draw? = draws ws s.drawn (passed failAt ps) ∧
      s'.drawn = s.drawn + wordsIn failAt ps := by
  induction h with
  | done => exact ⟨rfl, rfl⟩
  | @failed found s p f s' ps h =>
    by_cases hp : failAt = some p
    · obtain ⟨hwork, hdraw⟩ := Executor.work_simulated_of_eq ws source found s hp
      obtain ⟨-, rfl⟩ := Prod.mk.inj (hwork.symm.trans h)
      rw [wordsIn, passed_cons_of_eq hp, List.filterMap_cons_none hdraw]
      exact ⟨rfl, rfl⟩
    · obtain ⟨⟨answer, hwork⟩, -⟩ := Executor.work_simulated_of_ne ws source found s hp
      cases hwork.symm.trans h
  | @completed found s p found' detail s' ps calls steps result s'' h rest ih =>
    by_cases hp : failAt = some p
    · obtain ⟨hwork, -⟩ := Executor.work_simulated_of_eq ws source found s hp
      cases hwork.symm.trans h
    · obtain ⟨⟨answer, hwork⟩, hdraw⟩ := Executor.work_simulated_of_ne ws source found s hp
      obtain ⟨-, rfl⟩ := Prod.mk.inj (hwork.symm.trans h)
      obtain ⟨hdraws, hdrawn⟩ := ih
      constructor
      · rw [passed_cons_of_ne hp, draws, ← hdraws]
        cases hdrawn : draw? ws s.drawn p with
        | none => exact List.filterMap_cons_none (hdraw.trans hdrawn)
        | some d => exact List.filterMap_cons_some (hdraw.trans hdrawn)
      · rw [hdrawn, wordsIn_cons_of_ne hp, Nat.add_assoc]

end Course

/-! ## Runs -/

namespace Pipeline

open Executor (Simulated)
open Executor.Simulated (passed wordsIn)

variable {ws : Words} {failAt : Option Phase} {p : Pipeline ω Simulated τ}
  {s : Session ω Simulated τ} {spec : Spec}

/-- A run that is cleared draws what the phases draw, whatever the store does. -/
lemma draws_of_cleared (hp : p.executor = .simulated ws failAt) (stamp : Stamp) {c : Clearance}
    (h : (preflight p.wallet spec s.wallet).1 = .ok c) :
    (p.log stamp spec s).draws =
        Executor.Simulated.draws ws s.executor.drawn (passed failAt Phase.all) ∧
      (p.run stamp spec s).session.executor.drawn =
        s.executor.drawn + wordsIn failAt Phase.all := by
  have hpre : preflight p.wallet spec s.wallet = (.ok c, (preflight p.wallet spec s.wallet).2) :=
    Prod.ext h rfl
  have hcourse := (log_of_cleared stamp hpre).1
  rw [hp] at hcourse
  rw [(run_of_preflight_ok hpre stamp).2.1]
  exact hcourse.draws_simulated

/-! ## Runs one after another -/

/-- Those of many runs, one after another, that pass the checks before the first phase, each with
what it asked of others. -/
def clearedRuns {σ : Type} (p : Pipeline ω σ τ) (s : Session ω σ τ) :
    List (Stamp × Spec) → List (Outcome ω σ τ × Log)
  | [] => []
  | (stamp, spec) :: jobs =>
    match (preflight p.wallet spec s.wallet).1 with
    | .error _ => p.clearedRuns (p.run stamp spec s).session jobs
    | .ok _ =>
      (p.run stamp spec s, p.log stamp spec s) :: p.clearedRuns (p.run stamp spec s).session jobs

/-- Each of them is a run of the pipeline. -/
lemma exists_of_mem_clearedRuns {σ : Type} {p : Pipeline ω σ τ} {s : Session ω σ τ}
    {jobs : List (Stamp × Spec)} {entry : Outcome ω σ τ × Log} (h : entry ∈ p.clearedRuns s jobs) :
    ∃ stamp spec s', entry = (p.run stamp spec s', p.log stamp spec s') := by
  induction jobs generalizing s with
  | nil => cases h
  | cons job jobs ih =>
    rw [clearedRuns] at h
    split at h
    · exact ih h
    · rcases List.mem_cons.mp h with rfl | h
      · exact ⟨job.1, job.2, s, rfl⟩
      · exact ih h

/-- **What the `k`-th run draws that is cleared.**  The runs before it that are cleared draw the
same number of words each. -/
theorem draws_clearedRuns (hp : p.executor = .simulated ws failAt) {jobs : List (Stamp × Spec)}
    {k : Nat} {entry : Outcome ω Simulated τ × Log}
    (h : (p.clearedRuns s jobs)[k]? = some entry) :
    entry.2.draws = Executor.Simulated.draws ws
      (s.executor.drawn + k * wordsIn failAt Phase.all) (passed failAt Phase.all) := by
  -- every run moves the position on, so the session is part of the induction
  induction jobs generalizing s k with
  | nil => cases h
  | cons job jobs ih =>
    rw [clearedRuns] at h
    split at h
    · next hpre => rw [ih h, p.run_of_preflight_error job.1 job.2 s hpre]
    · next hpre =>
      obtain ⟨hdraws, hdrawn⟩ := draws_of_cleared hp job.1 hpre
      cases k with
      | zero =>
        obtain rfl := Option.some.inj h
        rw [Nat.zero_mul, Nat.add_zero]
        exact hdraws
      | succ k =>
        rw [ih h, hdrawn, Nat.succ_mul, Nat.add_assoc, Nat.add_comm (wordsIn failAt Phase.all)]

/-- A report tells what was drawn. -/
lemma draws_of_result_ok {σ : Type} {p : Pipeline ω σ τ} {stamp : Stamp} {spec : Spec}
    {s : Session ω σ τ} {report : Report} (h : (p.run stamp spec s).result = .ok report) :
    (p.log stamp spec s).draws = [.gasEstimate report.gasEstimate,
      .receipt ⟨report.record.address, report.record.transaction⟩] := by
  obtain ⟨summary, hcalls, -⟩ := (consistent_of_result_ok h).answered
  rw [Log.draws, hcalls]
  rfl

/-- **Launches are reproducible**, whatever is launched.  Let two pipelines be run again and again,
with the same seed, the same phase to fail in and the same number of words drawn before.  Then what
is drawn in the `k`-th run that is cleared is the same for both, and it is known beforehand; and if
both succeed they report the same gas estimate, address and transaction.  All this holds whatever
the specs, wallets, stores and times are, and however many runs are refused in between. -/
theorem draws_reproducible {seed : UInt64} {failAt : Option Phase} {p : Pipeline ω Simulated τ}
    {p' : Pipeline ω' Simulated τ'} (hp : p.executor = .simulated (.ofSeed seed) failAt)
    (hp' : p'.executor = .simulated (.ofSeed seed) failAt) {s : Session ω Simulated τ}
    {s' : Session ω' Simulated τ'} (hs : s.executor = s'.executor)
    {jobs jobs' : List (Stamp × Spec)} {k : Nat} {entry : Outcome ω Simulated τ × Log}
    {entry' : Outcome ω' Simulated τ' × Log} (h : (p.clearedRuns s jobs)[k]? = some entry)
    (h' : (p'.clearedRuns s' jobs')[k]? = some entry') :
    entry.2.draws = entry'.2.draws ∧
      entry.2.draws = Executor.Simulated.draws (.ofSeed seed)
        (s.executor.drawn + k * wordsIn failAt Phase.all) (passed failAt Phase.all) ∧
      ∀ report report', entry.1.result = .ok report → entry'.1.result = .ok report' →
        report.gasEstimate = report'.gasEstimate ∧
          report.record.address = report'.record.address ∧
          report.record.transaction = report'.record.transaction := by
  have hdraws : entry.2.draws = entry'.2.draws := by
    rw [draws_clearedRuns hp h, draws_clearedRuns hp' h', hs]
  refine ⟨hdraws, draws_clearedRuns hp h, fun report report' hreport hreport' => ?_⟩
  obtain ⟨_, _, _, rfl⟩ := exists_of_mem_clearedRuns (List.mem_of_getElem? h)
  obtain ⟨_, _, _, rfl⟩ := exists_of_mem_clearedRuns (List.mem_of_getElem? h')
  have hsame := (draws_of_result_ok hreport).symm.trans (hdraws.trans (draws_of_result_ok hreport'))
  simpa using hsame

/-! ### Two sequences of runs -/

/-- A pipeline with a seed whose store is in memory. -/
def remembering : Pipeline Wallet.Scripted Simulated Dashboard where
  wallet := .scripted
  executor := .simulated (.ofSeed 7) none
  store := .memory

/-- A pipeline with the same seed whose store refuses to save. -/
def forgetting : Pipeline Wallet.Simulated Simulated Dashboard where
  timing := .instant
  wallet := .simulated
  executor := .simulated (.ofSeed 7) none
  store := .refusing true

/-- A session of the first pipeline before its first run. -/
def unremembered : Session Wallet.Scripted Simulated Dashboard where
  wallet := ⟨{}, some { address := some "0xa" }⟩
  executor := {}
  store := {}

/-- A session of the second pipeline before its first run. -/
def unforgotten : Session Wallet.Simulated Simulated Dashboard where
  wallet := { chainId := 1 }
  executor := {}
  store := {}

/-- Launches of two tokens. -/
def coinAndGold : List (Stamp × Spec) :=
  [(⟨"a", .epoch⟩, .named (.known .uniqueAsset) "Coin" "C"),
    (⟨"b", .epoch⟩, .named (.known .fungible) "Gold" "G")]

/-- Two launches of another token, and between them one that is refused. -/
def cards : List (Stamp × Spec) :=
  [(⟨"c", .epoch⟩, .named (.known .multiAsset) "Card" "D"),
    (⟨"d", .epoch⟩, .named (.known .multiAsset) "" ""),
    (⟨"e", .epoch⟩, .named (.known .multiAsset) "Card" "D")]

/-- The second launch of a card draws the same as that of gold, from word 54 on. -/
theorem draws_reproducible_cards : ∃ entry entry',
    (remembering.clearedRuns unremembered coinAndGold)[1]? = some entry ∧
    (forgetting.clearedRuns unforgotten cards)[1]? = some entry' ∧
    entry.2.draws = entry'.2.draws ∧
    entry.2.draws = Executor.Simulated.draws (.ofSeed 7) 54 Phase.all := by
  have hsome : (remembering.clearedRuns unremembered coinAndGold)[1]?.isSome = true := by
    decide +kernel
  have hsome' : (forgetting.clearedRuns unforgotten cards)[1]?.isSome = true := by
    decide +kernel
  obtain ⟨entry, h⟩ := Option.isSome_iff_exists.mp hsome
  obtain ⟨entry', h'⟩ := Option.isSome_iff_exists.mp hsome'
  have hseed : remembering.executor = .simulated (.ofSeed 7) none := rfl
  have hseed' : forgetting.executor = .simulated (.ofSeed 7) none := rfl
  obtain ⟨hsame, hdraws, -⟩ := draws_reproducible hseed hseed' rfl h h'
  exact ⟨entry, entry', h, h', hsame, hdraws⟩

end Pipeline
end TokenLaunch
