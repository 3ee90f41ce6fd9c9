/-
# Progress of a run

While the phases of a run go by, their steps change, time passes, and whoever watches the run sees
every step that changes.  A phase is performed by marking its step as in progress, waiting for the
phase's time, doing the phase's work and marking the step by how the work ended.
-/
import TokenLaunch.Launch.Executor
import TokenLaunch.Launch.Step
import TokenLaunch.Launch.Timing

namespace TokenLaunch

/-- A step as it was seen, and when. -/
structure Event where
  /-- Milliseconds on the clock. -/
  time : Nat
  step : Step
deriving DecidableEq

namespace Work

variable {σ α β : Type}

/-- Do one work after another, unless the first one fails. -/
def andThen (first : Work σ α) (second : α → Work σ β) : Work σ β := fun s =>
  match first s with
  | (.ok a, s) => second a s
  | (.error f, s) => (.error f, s)

/-- Answer without doing anything. -/
def answer (a : α) : Work σ α := fun s => (.ok a, s)

/-- Do a work and answer with what is made of its answer. -/
def map (f : α → β) (work : Work σ α) : Work σ β := fun s =>
  ((work s).1.map f, (work s).2)

end Work

/-- What the phases of a run have found out so far. -/
structure Findings where
  gasEstimate : String := ""
  receipt : Option Receipt := none
  verified : Bool := false
deriving DecidableEq

namespace Findings

/-- The address of the contract, as far as it is known. -/
def address (found : Findings) : String :=
  (found.receipt.map Receipt.address).getD ""

/-- What the step of the last phase tells. -/
def verification (verified : Bool) : String :=
  if verified then "source verified" else "verification pending"

end Findings

namespace Executor

variable {σ : Type}

/-- The work of a phase for a source.  The answer is what is found out by then, and what the step of
the phase tells of it. -/
def work (ex : Executor σ) (source : String) (found : Findings) :
    Phase → Work σ (Findings × String)
  | .compile => (ex.compile source).map fun summary => (found, summary)
  | .estimateGas => ex.estimateGas.map fun gas => ({ found with gasEstimate := gas }, gas ++ " ETH")
  | .confirm => ex.confirm.map fun _ => (found, "transaction approved")
  | .deploy => ex.deploy.map fun receipt => ({ found with receipt := some receipt }, receipt.address)
  | .verify => (ex.verify found.address source).map fun verified =>
    ({ found with verified := verified }, Findings.verification verified)

end Executor

/-- How far a run has come. -/
structure Progress (σ : Type) where
  /-- The state of the executor. -/
  executor : σ
  steps : List Step
  /-- Milliseconds on the clock. -/
  clock : Nat
  /-- What was seen, in order. -/
  events : List Event

namespace Progress

variable {σ α : Type}

/-- The step of a phase. -/
def step (s : Progress σ) (p : Phase) : Step :=
  (s.steps.find? fun step => step.phase = p).getD (Step.pending p)

/-- Mark the step of a phase.  A detail stays until another one comes. -/
def mark (p : Phase) (status : Status) (detail : Option String) (s : Progress σ) : Progress σ :=
  let marked : Step := { s.step p with status := status, detail := detail.or (s.step p).detail }
  { s with
    steps := s.steps.map fun step => if step.phase = p then marked else step
    events := s.events ++ [⟨s.clock, marked⟩] }

/-- Let time pass. -/
def wait (ms : UInt64) (s : Progress σ) : Progress σ :=
  { s with clock := s.clock + ms.toNat }

/-- Perform a phase by doing its work.  The step of a phase that went well tells what came out. -/
def perform (t : Timing) (p : Phase) (work : Work σ (α × String)) : Work (Progress σ) α := fun s =>
  let s := (s.mark p .inProgress none).wait (t.duration p)
  match work s.executor with
  | (.ok (a, detail), executor) =>
    (.ok a, { s with executor := executor }.mark p .completed (some detail))
  | (.error f, executor) =>
    (.error (.phaseFailed p f.message),
      { s with executor := executor }.mark p (.failed f.message) none)

/-- Perform phases for a source one after another, until one of them fails. -/
def through (t : Timing) (ex : Executor σ) (source : String) :
    List Phase → Findings → Work (Progress σ) Findings
  | [], found => Work.answer found
  | p :: ps, found => (perform t p (ex.work source found p)).andThen (through t ex source ps)

/-- Perform all phases for a source. -/
def phases (t : Timing) (ex : Executor σ) (source : String) : Work (Progress σ) Findings :=
  through t ex source Phase.all {}

end Progress
end TokenLaunch
