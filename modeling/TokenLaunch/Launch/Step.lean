/-
# Steps of a run

A run is shown as five steps, one for each phase.  A step is pending, in progress, completed or
failed; a failed one has a reason, and a completed one may tell what came out of it.
-/
import TokenLaunch.Json.Fields
import TokenLaunch.Launch.Phase

namespace TokenLaunch

/-- How far a step has come. -/
inductive Status
  | pending
  | inProgress
  | completed
  | failed (reason : String)
deriving DecidableEq

namespace Status

/-- Whether the step is over for this run. -/
def isTerminal : Status → Bool
  | completed | failed _ => true
  | pending | inProgress => false

/-- The name of a status. -/
def name : Status → String
  | pending => "pending"
  | inProgress => "in-progress"
  | completed => "completed"
  | failed _ => "failed"

/-- A status as shown to users. -/
def display : Status → String
  | failed reason => "failed: " ++ reason
  | s => s.name

/-- A status as JSON: its name, and the reason of a failure. -/
def toJson : Status → Json
  | failed reason => .object [("status", .string "failed"), ("reason", .string reason)]
  | s => .object [("status", .string s.name)]

/-- The status of a name and a reason.  Only a failure has a reason, and it must have one. -/
def ofParts? (name : String) (reason : Option Json) : Option Status :=
  if name = "failed" then
    match reason with
    | some (.string r) => some (failed r)
    | _ => none
  else
    match reason with
    | none | some .null =>
      if name = "pending" then some pending
      else if name = "in-progress" then some inProgress
      else if name = "completed" then some completed
      else none
    | some _ => none

open Json (Fields.required? Fields.lookup?)

/-- The status that a JSON value gives: an object, or an array of the name and the reason. -/
def ofJson? (j : Json) : Option Status := do
  let ms ← j.members? ["status", "reason"] 2
  let name ← Fields.required? ["status"] Json.choice? ms
  let reason ← Fields.lookup? ["reason"] ms
  ofParts? name reason

end Status

/-- A phase of a run, how far it has come and what came out of it. -/
structure Step where
  phase : Phase
  status : Status
  detail : Option String
deriving DecidableEq

namespace Step

/-- A step that has not begun. -/
def pending (p : Phase) : Step := ⟨p, .pending, none⟩

/-- The steps of a run that has not begun. -/
def freshRun : List Step := Phase.all.map pending

/-- A step as JSON. -/
def toJson (s : Step) : Json :=
  .object [("phase", .string s.phase.name), ("status", s.status.toJson),
    ("detail", .ofString? s.detail)]

open Json (Fields.required? Fields.optional?)

/-- The step that a JSON value gives. -/
def ofJson? (j : Json) : Option Step := do
  let ms ← j.members? ["phase", "status", "detail"] 3
  let phase ← Fields.required? ["phase"] (fun j => j.choice?.bind Phase.ofName?) ms
  let status ← Fields.required? ["status"] Status.ofJson? ms
  let detail ← Fields.optional? ["detail"] (Json.nullable? Json.text?) none ms
  return { phase, status, detail }

end Step
end TokenLaunch
