/-
# Timing of the phases

A simulated phase takes a set time, given in milliseconds.  The usual times can be scaled by a
factor; a negative factor, or none that is a number, counts as zero, and a time never exceeds what
sixty-four bits hold.
-/
import TokenLaunch.Json.Fields
import TokenLaunch.Launch.Phase

namespace TokenLaunch

/-- How many milliseconds each phase takes. -/
structure Timing where
  compile : UInt64 := 1500
  estimateGas : UInt64 := 1000
  confirm : UInt64 := 500
  deploy : UInt64 := 3000
  verify : UInt64 := 2000
deriving DecidableEq

namespace Timing

/-- No phase takes any time. -/
def instant : Timing :=
  { compile := 0, estimateGas := 0, confirm := 0, deploy := 0, verify := 0 }

/-- The time of a phase. -/
def duration (t : Timing) : Phase → UInt64
  | .compile => t.compile
  | .estimateGas => t.estimateGas
  | .confirm => t.confirm
  | .deploy => t.deploy
  | .verify => t.verify

/-- The time of all phases together. -/
def total (t : Timing) : Nat :=
  Phase.all.foldr (fun p n => (t.duration p).toNat + n) 0

/-- A time multiplied by a factor and rounded, halves away from zero. -/
def scaleTime (factor : Float) (ms : UInt64) : UInt64 :=
  (ms.toFloat * (if factor > 0 then factor else 0)).round.toUInt64

/-- The usual times, multiplied by a factor. -/
def scaled (factor : Float) : Timing :=
  let usual : Timing := {}
  { compile := scaleTime factor usual.compile
    estimateGas := scaleTime factor usual.estimateGas
    confirm := scaleTime factor usual.confirm
    deploy := scaleTime factor usual.deploy
    verify := scaleTime factor usual.verify }

open Json (Fields.optional?)

/-- The times that a JSON value gives; a missing one is as usual. -/
def ofJson? (j : Json) : Option Timing := do
  let ms ← j.members? ["compile_ms", "estimate_gas_ms", "confirm_ms", "deploy_ms", "verify_ms"] 0
  let compile ← Fields.optional? ["compile_ms"] Json.word? 1500 ms
  let estimateGas ← Fields.optional? ["estimate_gas_ms"] Json.word? 1000 ms
  let confirm ← Fields.optional? ["confirm_ms"] Json.word? 500 ms
  let deploy ← Fields.optional? ["deploy_ms"] Json.word? 3000 ms
  let verify ← Fields.optional? ["verify_ms"] Json.word? 2000 ms
  return { compile, estimateGas, confirm, deploy, verify }

end Timing
end TokenLaunch
