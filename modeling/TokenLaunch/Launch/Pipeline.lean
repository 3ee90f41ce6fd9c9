/-
# The pipeline of a launch

A run of the pipeline launches one spec.  Before the first phase it checks that the spec has a name
and a symbol, connects the wallet unless it is connected, and generates the contract; then it
performs the phases; and last it puts a record of the token in front of the dashboard.  A run that
fails stops where it is.  One pipeline can be run again and again: wallet, executor and store go
on from where the run before left them, and the steps start afresh.
-/
import TokenLaunch.Contract.Bundle
import TokenLaunch.Dashboard.Store
import TokenLaunch.Launch.Progress
import TokenLaunch.Launch.Wallet

namespace TokenLaunch

/-- What sets the record of one run apart: a fresh id and the time. -/
structure Stamp where
  id : String
  now : ClockTime
deriving DecidableEq

/-- What a successful run produced. -/
structure Report where
  record : Record
  /-- The contract as it was generated before the first phase. -/
  contract : Contract
  gasEstimate : String
  steps : List Step
deriving DecidableEq

/-- What the checks before the first phase found. -/
structure Clearance where
  contract : Contract
  /-- The account that pays. -/
  deployer : String
  chainId : UInt64

/-- A pipeline: whom it works with, and how long the phases take. -/
structure Pipeline (ω σ τ : Type) where
  timing : Timing := {}
  wallet : Wallet ω
  executor : Executor σ
  store : Store τ

/-- What goes on from one run of a pipeline to the next. -/
structure Session (ω σ τ : Type) where
  wallet : ω
  executor : σ
  store : τ
  /-- The steps of the latest run. -/
  steps : List Step := Step.freshRun
  /-- Milliseconds since the first run began. -/
  clock : Nat := 0

/-- How a run went. -/
structure Outcome (ω σ τ : Type) where
  result : Except Failure Report
  session : Session ω σ τ
  /-- What a watcher saw, in order. -/
  events : List Event

namespace Pipeline

variable {ω σ τ : Type}

/-! ## Before the phases -/

/-- Connect the wallet unless it is connected.  The answer is whether nothing was refused. -/
def ensureConnected (wallet : Wallet ω) (w : ω) : Bool × ω :=
  if (wallet.connection w).connected then (true, w)
  else
    match wallet.connect w with
    | (.ok _, w) => (true, w)
    | (.error _, w) => (false, w)

/-- What a spec needs that it does not have. -/
def missing? (spec : Spec) : Option Failure :=
  match spec.readiness with
  | .ready => none
  | .missingName => some (.specNotReady "token name is required")
  | .missingSymbol => some (.specNotReady "token symbol is required")

/-- The clearance for a spec that is ready, from a wallet as it is connected. -/
def clearance (spec : Spec) (c : Connection) : Except Failure Clearance :=
  match c.address with
  | none => .error .walletNotConnected
  | some deployer =>
    match spec.contract with
    | .error e => .error (.unknownStandard e)
    | .ok contract => .ok { contract, deployer, chainId := c.chainId.getD 0 }

/-- The checks before the first phase. -/
def preflight (wallet : Wallet ω) (spec : Spec) (w : ω) : Except Failure Clearance × ω :=
  match missing? spec with
  | some f => (.error f, w)
  | none =>
    match ensureConnected wallet w with
    | (false, w) => (.error .walletNotConnected, w)
    | (true, w) => (clearance spec (wallet.connection w), w)

/-! ## A run -/

/-- The record of a launched token. -/
def record (stamp : Stamp) (spec : Spec) (c : Clearance) (receipt : Receipt) (verified : Bool) :
    Record where
  id := stamp.id
  address := receipt.address
  standard := c.contract.standard
  name := spec.name
  symbol := spec.symbol
  decimals := c.contract.decimals
  deployedAt := stamp.now.instant
  deployer := c.deployer
  transaction := receipt.transaction
  network := Network.ofChain c.chainId
  verified := verified
  features := c.contract.features

/-- Launch a spec. -/
def run (p : Pipeline ω σ τ) (stamp : Stamp) (spec : Spec) (s : Session ω σ τ) : Outcome ω σ τ :=
  let s := { s with steps := Step.freshRun }
  match preflight p.wallet spec s.wallet with
  | (.error f, w) => ⟨.error f, { s with wallet := w }, []⟩
  | (.ok c, w) =>
    match Progress.phases p.timing p.executor c.contract.source
        ⟨s.executor, s.steps, s.clock, []⟩ with
    | (.error f, g) =>
      ⟨.error f, ⟨w, g.executor, s.store, g.steps, g.clock⟩, g.events⟩
    | (.ok found, g) =>
      match found.receipt with
      | none =>
        ⟨.error (.phaseFailed .deploy "no receipt produced"),
          ⟨w, g.executor, s.store, g.steps, g.clock⟩, g.events⟩
      | some receipt =>
        let r := record stamp spec c receipt found.verified
        match p.store.update (Store.adding r) s.store with
        | (.error e, t) => ⟨.error (.store e), ⟨w, g.executor, t, g.steps, g.clock⟩, g.events⟩
        | (.ok (), t) =>
          ⟨.ok ⟨r, c.contract, found.gasEstimate, g.steps⟩, ⟨w, g.executor, t, g.steps, g.clock⟩,
            g.events⟩

/-- Launch specs one after another, each with its stamp. -/
def runAll (p : Pipeline ω σ τ) (s : Session ω σ τ) : List (Stamp × Spec) → List (Outcome ω σ τ)
  | [] => []
  | (stamp, spec) :: rest =>
    let o := p.run stamp spec s
    o :: p.runAll o.session rest

end Pipeline
end TokenLaunch
