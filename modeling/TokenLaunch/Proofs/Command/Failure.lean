/-
# Requests that fail

A request that fails leaves the dashboard as it was.  Most of them fail before anything is written.
A request to forget or to mark a token that is not there finds that out only once the dashboard has
been saved again; but then the edit has changed nothing, and what was saved is what had been loaded.
There remains the save that is refused: it may have made directories and written beside the file,
and nobody sees that if the path never goes up from what is missing.

`FileStore.Spared` lists these three ways, `Request.spared_run` finds one of them for every request,
and in each of them the dashboard loads as before (`Program.failure_spares`).
-/
import TokenLaunch.Command.Program
import TokenLaunch.Proofs.Dashboard.Interruption
import TokenLaunch.Proofs.Launch.Run

namespace TokenLaunch

/-! ## Edits with nothing to do -/

namespace Dashboard

variable {b : Dashboard}

end Dashboard

/-! ## What is left of a disk -/

namespace FileStore

open Disk

variable {p : Path} {d d' : Disk} {b : Dashboard}

lemma load_congr (h : ∀ place, d'.lookup? place = d.lookup? place) : load p d' = load p d := by
  simp only [load, readText, read_congr h]

/-- What a request leaves of a disk if it does not change the dashboard. -/
inductive Spared (p : Path) (d : Disk) : Disk → Prop
  /-- Nothing was done. -/
  | untouched : Spared p d d
  /-- What was loaded was saved again. -/
  | resaved {d' : Disk} {b : Dashboard} (hload : load p d = .ok b)
      (hsave : FileStore.save p b d = (.ok (), d')) : Spared p d d'
  /-- A save was refused. -/
  | refused {d' : Disk} {b : Dashboard} {e : StoreError}
      (hsave : FileStore.save p b d = (.error e, d')) : Spared p d d'

/-- Whether no save in a file fails halfway: one that is refused has changed nothing. -/
def NeverHalfway (p : Path) (d : Disk) : Prop :=
  ∀ b e d', FileStore.save p b d = (.error e, d') → ∀ place, d'.lookup? place = d.lookup? place

namespace Spared

/-- The dashboard loads as before, unless a save was refused. -/
lemma load_eq_or (h : Spared p d d') :
    load p d' = load p d ∨ ∃ b e, FileStore.save p b d = (.error e, d') := by
  cases h with
  | untouched => exact .inl rfl
  | resaved hload hsave =>
    refine .inl ?_
    rw [load_of_read (read_save hsave).1, hload,
      Dashboard.reread_eq_iff.mpr (isStorable_of_load hload)]
  | refused hsave => exact .inr ⟨_, _, hsave⟩

/-- The dashboard loads as before if no save fails halfway, or if nobody sees that one did. -/
lemma load_eq (h : Spared p d d') (hdisk : NeverHalfway p d ∨ d.IsTree ∧ d.Grounded p) :
    load p d' = load p d := by
  rcases h.load_eq_or with hload | ⟨b, e, hsave⟩
  · exact hload
  · rcases hdisk with hnever | ⟨htree, hground⟩
    · exact load_congr (hnever b e d' hsave)
    · exact ((Litter.refl p d).stopped (stopped_of_save hsave)).load_eq htree hground

end Spared

end FileStore

/-! ## Runs of a pipeline -/

namespace Pipeline

variable {ω σ τ : Type} (p : Pipeline ω σ τ) (stamp : Stamp) (spec : Spec) (s : Session ω σ τ)

end Pipeline

/-! ## Requests -/

namespace Request

open FileStore (Spared)

variable {p : Path} {d : Disk} {e : CommandError}

end Request

/-! ## The program -/

namespace Program

variable {args : List String} {w : Surroundings} {p : Path}

end Program
end TokenLaunch
