/-
# Phases of a launch

A launch goes through five phases, always in the same order.
-/

namespace TokenLaunch

/-- A phase of a launch. -/
inductive Phase
  | compile
  | estimateGas
  | confirm
  | deploy
  | verify
deriving DecidableEq

namespace Phase

/-- The phases in their order. -/
def all : List Phase := [compile, estimateGas, confirm, deploy, verify]

theorem mem_all (p : Phase) : p ∈ all := by cases p <;> decide

/-- The name under which a phase is stored. -/
def name : Phase → String
  | compile => "Compile"
  | estimateGas => "EstimateGas"
  | confirm => "Confirm"
  | deploy => "Deploy"
  | verify => "Verify"

/-- The phase that is stored under a name. -/
def ofName? (s : String) : Option Phase :=
  all.find? fun p => p.name == s

/-- The name shown to users. -/
def title : Phase → String
  | estimateGas => "Estimate Gas"
  | p => p.name

/-- What is going on during a phase. -/
def activity : Phase → String
  | compile => "Compiling contract"
  | estimateGas => "Estimating gas"
  | confirm => "Awaiting confirmation"
  | deploy => "Deploying contract"
  | verify => "Verifying source"

@[simp] theorem ofName?_name (p : Phase) : ofName? p.name = some p := by
  cases p <;> decide

end Phase
end TokenLaunch
