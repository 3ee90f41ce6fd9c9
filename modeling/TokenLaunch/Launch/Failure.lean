/-
# Failures of a launch

Why a launch, or a part of it, did not succeed.
-/
import TokenLaunch.Dashboard.StoreError
import TokenLaunch.Launch.Phase
import TokenLaunch.Standard

namespace TokenLaunch

/-- Why a launch did not succeed. -/
inductive Failure
  /-- The spec lacks something that is needed before a launch. -/
  | specNotReady (reason : String)
  /-- There is no contract for the spec; no phase began. -/
  | unknownStandard (e : UnknownStandard)
  /-- There is no wallet to pay. -/
  | walletNotConnected
  /-- The wallet refused to connect. -/
  | walletUnavailable (reason : String)
  /-- The executor reports a failure inside a phase. -/
  | executor (reason : String)
  /-- A phase failed, and the later ones did not begin. -/
  | phaseFailed (phase : Phase) (reason : String)
  /-- The dashboard could not be read or written. -/
  | store (e : StoreError)
deriving DecidableEq

namespace Failure

/-- The sentence that reports a failure. -/
def message : Failure → String
  | specNotReady reason => "Spec not ready: " ++ reason
  | unknownStandard e => e.message
  | walletNotConnected => "Wallet not connected"
  | walletUnavailable reason => "Wallet unavailable: " ++ reason
  | executor reason => "Executor error: " ++ reason
  | phaseFailed phase reason => "Phase " ++ phase.title ++ " failed: " ++ reason
  | store e => e.message

end Failure
end TokenLaunch
