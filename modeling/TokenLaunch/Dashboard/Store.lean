/-
# Stores

A store keeps a dashboard between sessions.  It is known by what it does: it loads the whole
dashboard or saves the whole dashboard, and either may fail.  Every edit loads, edits and saves.
-/
import TokenLaunch.Dashboard.State
import TokenLaunch.Dashboard.StoreError

namespace TokenLaunch

/-- A store whose inner state has type `τ`. -/
structure Store (τ : Type) where
  name : String
  load : τ → Except StoreError Dashboard × τ
  save : Dashboard → τ → Except StoreError Unit × τ

namespace Store

variable {τ α : Type}

/-- Load the dashboard, edit it and save it.  The answer is that of the edit. -/
def update (s : Store τ) (edit : Dashboard → α × Dashboard) (t : τ) :
    Except StoreError α × τ :=
  match s.load t with
  | (.error e, t) => (.error e, t)
  | (.ok d, t) =>
    match s.save (edit d).2 t with
    | (.error e, t) => (.error e, t)
    | (.ok (), t) => (.ok (edit d).1, t)

/-! ## Edits with an answer -/

/-- Put a launched token in front. -/
def adding (r : Record) (d : Dashboard) : Unit × Dashboard :=
  ((), d.add r)

/-- Forget the tokens with an id; the answer is whether there was one. -/
def removing (id : String) (d : Dashboard) : Bool × Dashboard :=
  (d.contains id, d.remove id)

/-- Say of the tokens at an address whether they are verified; the answer is their number. -/
def verifying (address : String) (verified : Bool) (d : Dashboard) : Nat × Dashboard :=
  (d.countAt address, d.setVerified address verified)

/-- Choose another node. -/
def redirecting (endpoint : String) (d : Dashboard) : Unit × Dashboard :=
  ((), d.setEndpoint endpoint)

/-! ## Stores without a disk -/

/-- A store that keeps the dashboard in memory and never fails. -/
def memory : Store Dashboard where
  name := "in-memory"
  load d := (.ok d, d)
  save d _ := (.ok (), d)

/-- A store that refuses to save and, unless `loads`, also to load. -/
def refusing (loads : Bool) : Store Dashboard where
  name := "failing"
  load d := (if loads then .ok d else .error (.backend "load refused"), d)
  save _ d := (.error (.backend "save refused"), d)

@[simp] theorem memory_update (edit : Dashboard → α × Dashboard) (d : Dashboard) :
    memory.update edit d = (.ok (edit d).1, (edit d).2) := rfl

end Store
end TokenLaunch
