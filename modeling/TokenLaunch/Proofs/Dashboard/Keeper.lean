/-
# Stores that keep what they are given

A store may fail whenever it is used.  All that is asked of it is that it keeps the dashboard: what
it loads is what it holds, a save that goes well replaces it, and nothing else changes it, least of
all a load or a save that fails.  A `Keeper` of a store says what each of its inner states holds,
and that this is so.

The stores of this library have keepers: the one in memory, the one that refuses, and the one on
disk.  A disk holds what a load from the file gives (`FileStore.Holds`), on condition that it is a
tree and that the path never goes up from what is missing: else the load that comes after a save that
fails might give something else.  A dashboard that is to be saved must be storable there, and a save
may be broken off anywhere (`Store.InFile`).  And a store with a keeper still has one if its loads
and saves fail at any times (`Store.faulty`).
-/
import TokenLaunch.Proofs.Dashboard.Interruption

namespace TokenLaunch

/-! ## What a disk holds -/

namespace FileStore

open Disk

variable {p : Path} {d d' : Disk} {b b' : Dashboard}

/-- A disk that holds a dashboard in a file: a load gives it, and goes on to do so whatever is made
of the way to the file. -/
structure Holds (p : Path) (d : Disk) (b : Dashboard) : Prop where
  tree : d.IsTree
  grounded : d.Grounded p
  load : FileStore.load p d = .ok b

namespace Holds

lemma unique (h : Holds p d b) (h' : Holds p d b') : b = b' :=
  Except.ok.inj (h.load.symm.trans h'.load)

/-- What was saved is held. -/
lemma of_save (h : Holds p d b) (hb : b'.IsStorable)
    (hsave : FileStore.save p b' d = (.ok (), d')) : Holds p d' b' := by
  obtain ⟨hread, hground⟩ := read_save hsave
  exact
    { tree := h.tree.performAll (save_eq_ok_iff.mp hsave)
      grounded := hground
      load := by rw [load_of_read hread, Dashboard.reread_eq_iff.mpr hb] }

/-- A save that is broken off changes nothing that is held. -/
lemma of_stopped (h : Holds p d b) (hstopped : Stopped d (saving p b') d') : Holds p d' b :=
  have hlitter := (Litter.refl p d).stopped hstopped
  { tree := h.tree.stopped hstopped
    grounded := hlitter.grounded h.grounded
    load := (hlitter.load_eq h.tree h.grounded).trans h.load }

end Holds
end FileStore

namespace Store

variable {τ : Type} {s : Store τ}

/-! ## Keepers -/

/-- What the inner states of a store hold. -/
structure Keeper (s : Store τ) where
  /-- Whether an inner state holds a dashboard. -/
  Holds : τ → Dashboard → Prop
  /-- No more than one dashboard is held. -/
  unique : ∀ {t d d'}, Holds t d → Holds t d' → d = d'
  /-- What is loaded is held. -/
  eq_of_load : ∀ {t d d'}, Holds t d → (s.load t).1 = .ok d' → d' = d
  /-- To load changes nothing, whether it goes well or not. -/
  load : ∀ {t d}, Holds t d → Holds (s.load t).2 d
  /-- What is saved is held then, if its records were held before or are storable. -/
  save : ∀ {t d d'}, Holds t d → (∀ r ∈ d'.tokens, r ∈ d.tokens ∨ r.IsStorable) →
    (s.save d' t).1 = .ok () → Holds (s.save d' t).2 d'
  /-- A save that fails changes nothing. -/
  save_error : ∀ {t d d' e}, Holds t d → (s.save d' t).1 = .error e → Holds (s.save d' t).2 d

namespace Keeper

variable {t : τ} {d : Dashboard} {r : Record}

/-- To add a record either adds it or fails and changes nothing. -/
lemma update_adding (k : s.Keeper) (h : k.Holds t d) (hr : r.IsStorable) :
    (∃ t', s.update (adding r) t = (.ok (), t') ∧ k.Holds t' (d.add r)) ∨
      ∃ e t', s.update (adding r) t = (.error e, t') ∧ k.Holds t' d := by
  have hloaded := k.load h
  rw [update]
  split
  · next e t' hload =>
    rw [hload] at hloaded
    exact .inr ⟨e, t', rfl, hloaded⟩
  · next d' t' hload =>
    -- what was loaded is what is held, so the record is added to that
    obtain rfl : d' = d := k.eq_of_load h (congrArg Prod.fst hload)
    have hheld : k.Holds t' d' := by rwa [hload] at hloaded
    have hrecords : ∀ r' ∈ (adding r d').2.tokens, r' ∈ d'.tokens ∨ r'.IsStorable := by
      intro r' hr'
      rcases List.mem_cons.mp hr' with rfl | hold
      · exact .inr hr
      · exact .inl hold
    split
    · next e t'' hsave =>
      have hkept := k.save_error hheld (congrArg Prod.fst hsave)
      rw [hsave] at hkept
      exact .inr ⟨e, t'', rfl, hkept⟩
    · next t'' hsave =>
      have hnew := k.save hheld hrecords (congrArg Prod.fst hsave)
      rw [hsave] at hnew
      exact .inl ⟨t'', rfl, hnew⟩

/-! ## The stores of this library -/

/-- A store in memory holds its own state. -/
def memory : Store.memory.Keeper where
  Holds t d := t = d
  unique h h' := h.symm.trans h'
  eq_of_load h hload := (Except.ok.inj hload).symm.trans h
  load h := h
  save _ _ _ := rfl
  save_error _ hsave := nomatch hsave

/-- A store that refuses holds what it held at first. -/
def refusing (loads : Bool) : (Store.refusing loads).Keeper where
  Holds t d := t = d
  unique h h' := h.symm.trans h'
  eq_of_load h hload := by
    cases loads with
    | true => exact (Except.ok.inj hload).symm.trans h
    | false => cases hload
  load h := h
  save _ _ hsave := nomatch hsave
  save_error h _ := h

end Keeper

/-- A store that loads from a file and saves in it: a load may fail, and a save may be broken off
anywhere.  A part of its state is the disk. -/
structure InFile (s : Store τ) (p : Path) (disk : τ → Disk) : Prop where
  load : ∀ t, disk (s.load t).2 = disk t
  load_ok : ∀ {t d}, (s.load t).1 = .ok d → FileStore.load p (disk t) = .ok d
  save_ok : ∀ {t d}, (s.save d t).1 = .ok () →
    FileStore.save p d (disk t) = (.ok (), disk (s.save d t).2)
  save_error : ∀ {t d e}, (s.save d t).1 = .error e →
    Disk.Stopped (disk t) (FileStore.saving p d) (disk (s.save d t).2)

lemma inFile_onDisk (p : Path) : (onDisk p).InFile p id where
  load _ := rfl
  load_ok h := h
  save_ok h := Prod.ext h rfl
  save_error h := FileStore.stopped_of_save (Prod.ext h rfl)

namespace Keeper

/-- A store that loads from a file holds what its disk does. -/
def inFile {p : Path} {disk : τ → Disk} (hs : s.InFile p disk) : s.Keeper where
  Holds t d := FileStore.Holds p (disk t) d
  unique h h' := h.unique h'
  eq_of_load h hload := Except.ok.inj ((hs.load_ok hload).symm.trans h.load)
  load h := by rwa [hs.load]
  save h hrecords hsave := by
    refine h.of_save (fun r hr => ?_) (hs.save_ok hsave)
    rcases hrecords r hr with hold | hnew
    · exact FileStore.isStorable_of_load h.load r hold
    · exact hnew
  save_error h hsave := h.of_stopped (hs.save_error hsave)

/-- A store on disk holds what a load gives. -/
def onDisk (p : Path) : (Store.onDisk p).Keeper :=
  inFile (inFile_onDisk p)

end Keeper

/-! ## Stores that fail at times -/

/-- A store that goes on as another one, but fails at times: whether it does is listed for its next
uses, and after these it fails no more. -/
def faulty (s : Store τ) : Store (τ × List Bool) where
  name := s.name
  load t :=
    if t.2.headD false then (.error (.backend "load refused"), (t.1, t.2.tail))
    else ((s.load t.1).1, ((s.load t.1).2, t.2.tail))
  save d t :=
    if t.2.headD false then (.error (.backend "save refused"), (t.1, t.2.tail))
    else ((s.save d t.1).1, ((s.save d t.1).2, t.2.tail))

/-- A store that fails at times holds what the other one holds. -/
def Keeper.faulty (k : s.Keeper) : s.faulty.Keeper where
  Holds t d := k.Holds t.1 d
  unique h h' := k.unique h h'
  eq_of_load h hload := by
    simp only [Store.faulty] at hload
    split_ifs at hload
    exact k.eq_of_load h hload
  load h := by
    simp only [Store.faulty]
    split_ifs
    · exact h
    · exact k.load h
  save h hrecords hsave := by
    simp only [Store.faulty] at hsave ⊢
    split_ifs at hsave ⊢
    exact k.save h hrecords hsave
  save_error h hsave := by
    simp only [Store.faulty] at hsave ⊢
    split_ifs at hsave ⊢
    · exact h
    · exact k.save_error h hsave

end Store
end TokenLaunch
