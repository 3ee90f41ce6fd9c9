/-
# A file in place of memory

A store on disk writes and reads the whole dashboard at every edit, a store in memory never does.
Nobody who uses a store can tell them apart, as long as the records that are added are storable
(`onDisk_refines_memory`).  The two are run side by side (`session`): they start with the same
dashboard, they get the same requests, and after every request they give the same answer and load the
same dashboard.  Of a record that is not storable the file gives back something else
(`unlike_memory`).

What is kept from request to request is that the file loads the dashboard in memory with every
standard and every time read anew, and that the disk is ready for the next save (`Tracks`).  No edit
looks at a standard or a time, so reading anew commutes with every edit (`Edit.apply_reread`); and it
changes nothing where every record is storable.
-/
import TokenLaunch.Proofs.Dashboard.File

namespace TokenLaunch

/-! ## Edits and reading anew -/

namespace Record

@[simp] lemma id_reread (r : Record) : r.reread.id = r.id := by
  rw [reread]

@[simp] lemma address_reread (r : Record) : r.reread.address = r.address := by
  rw [reread]

end Record

namespace Dashboard

variable (d : Dashboard)

@[simp] lemma reread_reread : d.reread.reread = d.reread := by
  simp [reread]

@[simp] lemma reread_add (r : Record) : (d.add r).reread = d.reread.add r.reread := rfl

@[simp] lemma contains_reread (id : String) : d.reread.contains id = d.contains id := by
  simp [contains, reread, Function.comp_def]

@[simp] lemma reread_remove (id : String) : (d.remove id).reread = d.reread.remove id := by
  simp [remove, reread, List.filter_map, Function.comp_def]

@[simp] lemma isAt_reread (address : String) (r : Record) :
    isAt address r.reread = isAt address r := by
  rw [isAt, Record.address_reread, isAt]

@[simp] lemma countAt_reread (address : String) : d.reread.countAt address = d.countAt address := by
  simp [countAt, reread, List.countP_map, Function.comp_def]

@[simp] lemma reread_setVerified (address : String) (verified : Bool) :
    (d.setVerified address verified).reread = d.reread.setVerified address verified := by
  have htoken (r : Record) :
      (if isAt address r then { r with verified := verified } else r).reread =
        if isAt address r.reread then { r.reread with verified := verified } else r.reread := by
    rw [isAt_reread]
    split_ifs <;> simp only [Record.reread]
  simp only [setVerified, reread, List.map_map, Function.comp_def, htoken]

@[simp] lemma reread_setEndpoint (endpoint : String) :
    (d.setEndpoint endpoint).reread = d.reread.setEndpoint endpoint := rfl

end Dashboard

namespace Store

/-- An edit that a store offers. -/
inductive Edit
  /-- Put a launched token in front. -/
  | add (r : Record)
  /-- Forget the tokens with an id. -/
  | remove (id : String)
  /-- Say of the tokens at an address whether they are verified. -/
  | verify (address : String) (verified : Bool)
  /-- Choose another node. -/
  | redirect (endpoint : String)

/-- What is asked of a store. -/
inductive Request
  | load
  | edit (e : Edit)

/-- What a store answers. -/
inductive Answer
  | dashboard (d : Dashboard)
  | done
  /-- Whether there was a token with the id. -/
  | removed (found : Bool)
  /-- How many tokens are at the address. -/
  | verified (count : Nat)
deriving DecidableEq

/-- Make an edit; the answer is that of the edit. -/
def Edit.apply : Edit → Dashboard → Answer × Dashboard
  | add r, d => (.done, (adding r d).2)
  | remove id, d => (.removed (removing id d).1, (removing id d).2)
  | verify address verified, d =>
    (.verified (verifying address verified d).1, (verifying address verified d).2)
  | redirect endpoint, d => (.done, (redirecting endpoint d).2)

variable {τ : Type}

/-- Do what is asked. -/
def serve (s : Store τ) : Request → τ → Except StoreError Answer × τ
  | .load, t => ((s.load t).1.map .dashboard, (s.load t).2)
  | .edit e, t => s.update e.apply t

/-- Serve requests one after another.  For each of them, what was answered and what the store loads
then. -/
def session (s : Store τ) : List Request → τ →
    List (Except StoreError Answer × Except StoreError Dashboard)
  | [], _ => []
  | q :: qs, t =>
    ((s.serve q t).1, (s.load (s.serve q t).2).1) :: s.session qs (s.serve q t).2

/-! ## Reading anew what is answered -/

/-- An answer with every standard and every time read anew. -/
def Answer.reread : Answer → Answer
  | dashboard d => .dashboard d.reread
  | done => .done
  | removed found => .removed found
  | verified count => .verified count

/-- No edit looks at a standard or a time. -/
lemma Edit.apply_reread (e : Edit) (d : Dashboard) :
    (e.apply d.reread).1 = (e.apply d).1 ∧
      (e.apply d.reread).2.reread = (e.apply d).2.reread := by
  cases e <;> simp [Edit.apply, adding, removing, verifying, redirecting]

/-- The answer of an edit holds no dashboard. -/
lemma Edit.answer_reread (e : Edit) (d : Dashboard) : (e.apply d).1.reread = (e.apply d).1 := by
  cases e <;> rfl

/-- What was answered and loaded, with every standard and every time read anew. -/
def rereadBoth (a : Except StoreError Answer × Except StoreError Dashboard) :
    Except StoreError Answer × Except StoreError Dashboard :=
  (a.1.map Answer.reread, a.2.map Dashboard.reread)

/-! ## The simulation -/

variable {p : Path} {disk : Disk} {m : Dashboard}

/-- A disk tracks a dashboard in memory: the file loads it with every standard and every time read
anew, and the next save goes well. -/
structure Tracks (p : Path) (disk : Disk) (m : Dashboard) : Prop where
  load : FileStore.load p disk = .ok m.reread
  ready : ∃ way source target, FileStore.Ready p disk way source target

/-- An edit goes well on the disk, and the disk tracks what comes of it. -/
lemma Tracks.update (h : Tracks p disk m) (e : Edit) : ∃ disk',
    (onDisk p).update e.apply disk = (.ok (e.apply m).1, disk') ∧ Tracks p disk' (e.apply m).2 := by
  obtain ⟨way, source, target, hready⟩ := h.ready
  obtain ⟨disk', hsave, hready', htext⟩ := hready.readText_save (e.apply m.reread).2
  have hload : FileStore.load p disk' = .ok (e.apply m).2.reread := by
    rw [FileStore.load_of_readText htext (Dashboard.parse?_text _), (e.apply_reread m).2]
  refine ⟨disk', ?_, hload, disk', source, target, hready'⟩
  have hstart : (onDisk p).load disk = (.ok m.reread, disk) := Prod.ext h.load rfl
  have hend : (onDisk p).save (e.apply m.reread).2 disk = (.ok (), disk') := hsave
  rw [Store.update, hstart]
  simp only [hend, (e.apply_reread m).1]

/-- A request is answered alike, and the disk tracks what comes of it. -/
lemma Tracks.serve (h : Tracks p disk m) (q : Request) :
    ((onDisk p).serve q disk).1 = (memory.serve q m).1.map Answer.reread ∧
      Tracks p ((onDisk p).serve q disk).2 (memory.serve q m).2 := by
  cases q with
  | load =>
    have hload : ((onDisk p).load disk).1 = .ok m.reread := h.load
    refine ⟨?_, h⟩
    rw [Store.serve, hload]
    rfl
  | edit e =>
    obtain ⟨disk', hupdate, htracks⟩ := h.update e
    rw [Store.serve, hupdate, Store.serve, memory_update]
    exact ⟨congrArg Except.ok (e.answer_reread m).symm, htracks⟩

/-- Every session goes alike, but that standards and times are read anew. -/
lemma Tracks.session (h : Tracks p disk m) (qs : List Request) :
    (onDisk p).session qs disk = (memory.session qs m).map rereadBoth := by
  induction qs generalizing disk m with
  | nil => rfl
  | cons q qs ih =>
    obtain ⟨hanswer, htracks⟩ := h.serve q
    have hload : ((onDisk p).load ((onDisk p).serve q disk).2).1 =
        (memory.load (memory.serve q m).2).1.map Dashboard.reread := htracks.load
    rw [Store.session, Store.session, List.map_cons, ih htracks, hanswer, hload]
    rfl

/-! ## Where every record is storable -/

/-- Whether the record that a request adds, if it adds one, is storable. -/
def Request.IsStorable : Request → Prop
  | .edit (.add r) => r.IsStorable
  | _ => True

/-- What is answered holds no record that was not there before. -/
lemma Request.answer_reread (q : Request) (hm : m.reread = m) :
    (memory.serve q m).1.map Answer.reread = (memory.serve q m).1 := by
  cases q with
  | load => exact congrArg (fun d => Except.ok (Answer.dashboard d)) hm
  | edit e =>
    rw [Store.serve, memory_update]
    exact congrArg Except.ok (e.answer_reread m)

/-- Reading anew changes nothing after a request exactly if the record that it adds is storable. -/
lemma Request.reread_serve_iff {q : Request} (hm : m.reread = m) :
    (memory.serve q m).2.reread = (memory.serve q m).2 ↔ q.IsStorable := by
  cases q with
  | load => exact iff_of_true hm trivial
  | edit e =>
    rw [Store.serve, memory_update]
    cases e with
    | add r =>
      have hadded : (m.add r).reread = m.add r.reread := by rw [Dashboard.reread_add, hm]
      show (m.add r).reread = m.add r ↔ r.IsStorable
      rw [hadded, ← Record.reread_eq_iff]
      simp [Dashboard.add]
    | remove id => exact iff_of_true (by simp [Edit.apply, removing, hm]) trivial
    | verify address verified => exact iff_of_true (by simp [Edit.apply, verifying, hm]) trivial
    | redirect endpoint => exact iff_of_true (by simp [Edit.apply, redirecting, hm]) trivial

/-- Reading anew changes nothing in a session exactly if every record that it adds is storable. -/
lemma reread_session_iff {qs : List Request} (hm : m.reread = m) :
    (memory.session qs m).map rereadBoth = memory.session qs m ↔ ∀ q ∈ qs, q.IsStorable := by
  induction qs generalizing m with
  | nil => simp [Store.session]
  | cons q qs ih =>
    have hnext := Request.reread_serve_iff (q := q) hm
    have hloaded (d : Dashboard) : (memory.load d).1.map Dashboard.reread = (memory.load d).1 ↔
        d.reread = d := ⟨Except.ok.inj, congrArg Except.ok⟩
    rw [Store.session, List.map_cons, List.cons.injEq, rereadBoth, q.answer_reread hm,
      Prod.mk.injEq, hloaded, hnext, List.forall_mem_cons]
    simp only [true_and]
    -- if the first record is storable, the rest starts with a dashboard that is read as it is
    exact and_congr_right fun hq => ih (hnext.mpr hq)

/-- **A file takes the place of memory.**  A file that holds a dashboard, or that is missing, is
served like a store in memory that starts with that dashboard, or with the one that nothing has
happened to: the same answer to every request, and the same dashboard after it, exactly if every
record that is added is storable.  It is enough that one save goes well on the disk as it is found;
then all do.  Of a record that is not storable the file gives back what reading its standard and its
time anew makes of it, and nothing else differs. -/
theorem onDisk_refines_memory (p : Path) (disk : Disk) (d : Dashboard)
    (hstart : (∃ s, disk.readText p = .ok s ∧ Dashboard.parse? s = some d) ∨
      disk.readText p = .error .notFound ∧ d = {})
    (hsaves : ∃ b, (FileStore.save p b disk).1 = .ok ()) (qs : List Request) :
    ((onDisk p).session qs disk = memory.session qs d ↔ ∀ q ∈ qs, q.IsStorable) ∧
      (onDisk p).session qs disk = (memory.session qs d).map rereadBoth := by
  have hd : d.reread = d := by
    rw [Dashboard.reread_eq_iff]
    rcases hstart with ⟨s, -, hs⟩ | ⟨-, rfl⟩
    · exact Dashboard.isStorable_of_parse? hs
    · exact fun r hr => absurd hr List.not_mem_nil
  have hload : FileStore.load p disk = .ok d := by
    rcases hstart with ⟨s, hs, hparse⟩ | ⟨hmissing, rfl⟩
    · exact FileStore.load_of_readText hs hparse
    · simp [FileStore.load, hmissing]
  obtain ⟨b, hb⟩ := hsaves
  have htracks : Tracks p disk d := ⟨by rw [hd, hload], FileStore.exists_ready hb⟩
  have hsession := htracks.session qs
  refine ⟨?_, hsession⟩
  rw [hsession, reread_session_iff hd]

open Dashboard (foreignToken strayLeapSecond)

/-- A file that is missing, in a directory that is missing. -/
theorem onDisk_refines_memory_missing :
    (onDisk ⟨"data/state.json"⟩).session
        [.edit (.add foreignToken), .edit (.verify "B" false), .load, .edit (.remove "c")] {} =
      [(.ok .done, .ok { tokens := [foreignToken] }),
        (.ok (.verified 1), .ok { tokens := [{ foreignToken with verified := false }] }),
        (.ok (.dashboard { tokens := [{ foreignToken with verified := false }] }),
          .ok { tokens := [{ foreignToken with verified := false }] }),
        (.ok (.removed false), .ok { tokens := [{ foreignToken with verified := false }] })] := by
  have hstorable : foreignToken.IsStorable := ⟨⟨"nft", by decide +kernel⟩, by decide⟩
  refine ((onDisk_refines_memory ⟨"data/state.json"⟩ {} {} (.inr ⟨?_, rfl⟩) ⟨{}, ?_⟩ _).1.mpr
    ?_).trans ?_
  · decide +kernel
  · decide +kernel
  · simpa [Request.IsStorable] using hstorable
  · decide +kernel

/-- A file gives back neither a standard that was made by hand nor a leap second that does not end a
minute, where memory keeps both. -/
theorem unlike_memory :
    (Disk.readText {} ⟨"state.json"⟩ = .error .notFound ∧
      (FileStore.save ⟨"state.json"⟩ {} {}).1 = .ok ()) ∧
    ((onDisk ⟨"state.json"⟩).session
        [.edit (.add { foreignToken with standard := .unrecognized "nft" })] {} =
        [(.ok .done, .ok { tokens := [foreignToken] })] ∧
      memory.session [.edit (.add { foreignToken with standard := .unrecognized "nft" })] {} =
        [(.ok .done, .ok { tokens := [{ foreignToken with standard := .unrecognized "nft" }] })]) ∧
    ((onDisk ⟨"state.json"⟩).session
        [.edit (.add { foreignToken with deployedAt := strayLeapSecond })] {} =
        [(.ok .done,
          .ok { tokens := [{ foreignToken with deployedAt := strayLeapSecond.reread }] })] ∧
      memory.session [.edit (.add { foreignToken with deployedAt := strayLeapSecond })] {} =
        [(.ok .done, .ok { tokens := [{ foreignToken with deployedAt := strayLeapSecond }] })]) ∧
    strayLeapSecond.reread ≠ strayLeapSecond := by
  have hmissing : Disk.readText {} ⟨"state.json"⟩ = .error .notFound := by decide +kernel
  have hsave : (FileStore.save ⟨"state.json"⟩ {} {}).1 = .ok () := by decide +kernel
  have htracks : Tracks ⟨"state.json"⟩ {} {} := ⟨rfl, FileStore.exists_ready hsave⟩
  refine ⟨⟨hmissing, hsave⟩, ⟨?_, rfl⟩, ⟨?_, rfl⟩, by decide⟩
  · rw [htracks.session]
    decide +kernel
  · rw [htracks.session]
    decide +kernel

end Store
end TokenLaunch
