/-
# Executors

An executor does the work inside the phases of a launch.  It is known by what it does, and what it
does may change its inner state and may fail.  The simulated executor needs no network: it draws
what it answers from a stream of words, and it can be told to fail in one of the phases.
-/
import TokenLaunch.Decimal.Fixed
import TokenLaunch.Launch.Failure
import TokenLaunch.Launch.Words
import TokenLaunch.Text.Ascii
import TokenLaunch.Text.Hex

namespace TokenLaunch

/-- What a deployment leaves on chain. -/
structure Receipt where
  /-- The address of the contract. -/
  address : String
  /-- The transaction that created it. -/
  transaction : String
deriving DecidableEq

/-- Work on an inner state of type `σ` that may fail. -/
abbrev Work (σ α : Type) := σ → Except Failure α × σ

/-- An executor whose inner state has type `σ`. -/
structure Executor (σ : Type) where
  name : String
  /-- Compile a source; the answer is a short summary. -/
  compile : String → Work σ String
  /-- What the deployment will cost, in the chain's own coin. -/
  estimateGas : Work σ String
  /-- Wait for the transaction to be approved. -/
  confirm : Work σ Unit
  deploy : Work σ Receipt
  /-- Publish the source of the contract at an address; the answer is whether it was verified. -/
  verify : String → String → Work σ Bool

namespace Executor

/-! ## The simulated executor -/

/-- The state of a simulated executor: how many words it has drawn. -/
structure Simulated where
  drawn : Nat := 0
deriving DecidableEq

namespace Simulated

/-- Bytes in hexadecimal digits, after `0x`. -/
def onChain (bytes : List UInt8) : String :=
  String.ofList ('0' :: 'x' :: Hex.ofBytes bytes)

/-- The failure that a simulated executor reports in a phase. -/
def failure (p : Phase) : Failure :=
  .executor ("simulated " ++ Text.lowerCase p.title ++ " failure")

/-- The gas estimate for a fraction: from 0.02 to 0.07, with four decimals. -/
def gasText (fraction : Float) : String :=
  String.ofList (Decimal.ofFloat 4 (fraction * 0.05 + 0.02))

/-- The number of bytes of an address. -/
def addressSize : Nat := 20

/-- The number of bytes that name a transaction. -/
def transactionSize : Nat := 32

/-- Do the work of a phase, unless it is the phase to fail in. -/
def unlessFailing {α : Type} (failAt : Option Phase) (p : Phase) (work : Simulated → α × Simulated) :
    Work Simulated α := fun s =>
  if failAt = some p then (.error (failure p), s)
  else ((.ok (work s).1), (work s).2)

end Simulated

open Simulated in
/-- An executor that draws its answers from a stream of words.  A phase that fails draws none. -/
def simulated (ws : Words) (failAt : Option Phase) : Executor Simulated where
  name := "simulated-executor"
  compile source := unlessFailing failAt .compile fun s =>
    (Digits.text source.utf8ByteSize ++ " bytes compiled", s)
  estimateGas := unlessFailing failAt .estimateGas fun s =>
    (gasText (ws.fraction s.drawn), ⟨s.drawn + 2⟩)
  confirm := unlessFailing failAt .confirm fun s => ((), s)
  deploy := unlessFailing failAt .deploy fun s =>
    ({ address := onChain (ws.bytes s.drawn addressSize)
       transaction := onChain (ws.bytes (s.drawn + addressSize) transactionSize) },
      ⟨s.drawn + addressSize + transactionSize⟩)
  verify _ _ := unlessFailing failAt .verify fun s => (true, s)

/-! ## The scripted executor -/

/-- What a scripted executor answers in each phase. -/
structure Script where
  compile : Except Failure String
  estimateGas : Except Failure String
  confirm : Except Failure Unit
  deploy : Except Failure Receipt
  verify : Except Failure Bool

/-- An executor that always answers the same. -/
def scripted (script : Script) : Executor Unit where
  name := "scripted-executor"
  compile _ s := (script.compile, s)
  estimateGas s := (script.estimateGas, s)
  confirm s := (script.confirm, s)
  deploy s := (script.deploy, s)
  verify _ _ s := (script.verify, s)

end Executor
end TokenLaunch
