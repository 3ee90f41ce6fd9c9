/-
# The dashboard in a file

To save is to make the directories, write beside the file and move over it.  Whether that goes well
depends on the directories of the disk alone (`Ready`), not on the dashboard and not on what was
saved before: so where one save goes well, every later one does (`Ready.again`).  The text that was
written is then in the file (`Ready.readText_save`), and what is loaded is the dashboard read anew.
It is written first to a file that is beside the other, never in its place
(`destination_temporary_ne`).
-/
import TokenLaunch.Dashboard.FileStore
import TokenLaunch.Proofs.Dashboard.Stored
import TokenLaunch.Proofs.Storage.Disk
import TokenLaunch.Proofs.Storage.Path

namespace TokenLaunch
namespace FileStore

open Disk

variable {p : Path} {d d' way : Disk} {source target : List String} {b b' : Dashboard}

/-! ## Saving -/

/-- A disk on which saving in a file goes well. -/
structure Ready (p : Path) (d way : Disk) (source target : List String) : Prop where
  /-- The directories can be made. -/
  made : d.make (root p) p.names.dropLast = .ok way
  source_at : way.locate p.temporary = .ok source
  target_at : way.locate p = .ok target
  source_free : ¬ way.IsDirectory source
  target_free : ¬ way.IsDirectory target
  source_named : p.temporary.mustBeDirectory = false
  target_named : p.mustBeDirectory = false

/-- A disk that is ready is saved on: the directories are those that were made, the text is where
the path leads, nothing is left beside it, and everything else is as it was. -/
lemma Ready.save (h : Ready p d way source target) (b : Dashboard) :
    ∃ d', FileStore.save p b d = (.ok (), d') ∧
      (∀ place, d'.IsDirectory place ↔ way.IsDirectory place) ∧
      ∀ place, d'.lookup? place =
        if place = target then some (.file b.text.toByteArray)
        else if place = source then none else way.lookup? place := by
  have hmake := perform_makeParents.mpr ⟨way, h.made, rfl⟩
  set d₁ := remember d (.makeParents p) way
  have hdirs₁ (place : List String) : d₁.IsDirectory place ↔ way.IsDirectory place := Iff.rfl
  have hwrite := perform_write.mpr ⟨_, write_eq_ok_iff.mpr ⟨source,
    locate_mono h.source_at (fun place => (hdirs₁ place).mpr), h.source_free, h.source_named,
    (rfl : d₁.put source (.file b.text.toByteArray) = _)⟩, rfl⟩
  set d₂ := remember d₁ (.write p.temporary b.text.toByteArray)
    (d₁.put source (.file b.text.toByteArray))
  have hdirs₂ (place : List String) : d₂.IsDirectory place ↔ way.IsDirectory place :=
    isDirectory_put h.source_free
  have hsource₂ : ¬ d₂.IsDirectory source := mt (hdirs₂ source).mp h.source_free
  have htarget₂ : ¬ d₂.IsDirectory target := mt (hdirs₂ target).mp h.target_free
  have hrename := perform_rename.mpr ⟨_, rename_eq_ok_iff.mpr ⟨source,
    locate_mono h.source_at (fun place => (hdirs₂ place).mpr), target,
    locate_mono h.target_at (fun place => (hdirs₂ place).mpr), htarget₂, h.target_named,
    b.text.toByteArray, lookup?_put_self (mt (hdirs₁ source).mp h.source_free) _, rfl⟩, rfl⟩
  have htarget₃ : ¬ (d₂.clear source).IsDirectory target :=
    mt (isDirectory_clear hsource₂).mp htarget₂
  refine ⟨d₂.remember (.rename p.temporary p)
    ((d₂.clear source).put target (.file b.text.toByteArray)), ?_, fun place => ?_,
    fun place => ?_⟩
  · rw [FileStore.save, saving, performAll_cons hmake, performAll_cons hwrite,
      performAll_cons hrename]
    rfl
  · exact (isDirectory_put htarget₃).trans ((isDirectory_clear hsource₂).trans (hdirs₂ place))
  · rw [lookup?_remember, lookup?_put _ _ _ _ (isRoot_of_not_isDirectory htarget₃),
      lookup?_clear _ _ _ (isRoot_of_not_isDirectory hsource₂)]
    split_ifs with htarget hsource
    · rfl
    · rfl
    · rw [lookup?_remember, lookup?_put _ _ _ _ (isRoot_of_not_isDirectory h.source_free),
        if_neg hsource, lookup?_remember]

/-- If one save goes well, the disk was ready. -/
lemma exists_ready (h : (FileStore.save p b d).1 = .ok ()) :
    ∃ way source target, Ready p d way source target := by
  have hall : (d.performAll (saving p b)).1 = .ok () := by
    rw [FileStore.save] at h
    split at h
    · next heq => rw [heq]
    · cases h
  obtain ⟨d₁, hmake, hall⟩ := exists_of_performAll_cons hall
  obtain ⟨d₂, hwrite, hall⟩ := exists_of_performAll_cons hall
  obtain ⟨d₃, hrename, -⟩ := exists_of_performAll_cons hall
  obtain ⟨way, hmade, rfl⟩ := perform_makeParents.mp hmake
  obtain ⟨_, hput, rfl⟩ := perform_write.mp hwrite
  obtain ⟨source, hsource, hfree, hnamed, rfl⟩ := write_eq_ok_iff.mp hput
  obtain ⟨_, hmove, -⟩ := perform_rename.mp hrename
  obtain ⟨_, -, target, htarget, hfree', hnamed', -⟩ := rename_eq_ok_iff.mp hmove
  have hdirs (place : List String) : ((remember d (.makeParents p) way).put source
      (.file b.text.toByteArray)).IsDirectory place ↔ way.IsDirectory place := isDirectory_put hfree
  exact ⟨way, source, target,
    { made := hmade
      source_at := locate_mono hsource fun _ hplace => hplace
      target_at := locate_mono htarget (fun place => (hdirs place).mp)
      source_free := hfree
      target_free := mt (hdirs target).mpr hfree'
      source_named := hnamed
      target_named := hnamed' }⟩

lemma exists_ready_iff : (∃ way source target, Ready p d way source target) ↔
    (FileStore.save p b d).1 = .ok () := by
  refine ⟨?_, exists_ready⟩
  rintro ⟨way, source, target, hready⟩
  obtain ⟨d', hsave, -⟩ := hready.save b
  rw [hsave]

/-- A disk on which the same directories can be made as on one that is ready is ready. -/
lemma Ready.transfer {way' : Disk} (h : Ready p d way source target)
    (hmade : d'.make (root p) p.names.dropLast = .ok way')
    (hdirs : ∀ place, way'.IsDirectory place ↔ way.IsDirectory place) :
    Ready p d' way' source target where
  made := hmade
  source_at := locate_mono h.source_at (fun place => (hdirs place).mpr)
  target_at := locate_mono h.target_at (fun place => (hdirs place).mpr)
  source_free := fun hdir => h.source_free ((hdirs source).mp hdir)
  target_free := fun hdir => h.target_free ((hdirs target).mp hdir)
  source_named := h.source_named
  target_named := h.target_named

/-- A disk with the directories of one that is ready is ready. -/
lemma Ready.again (h : Ready p d way source target)
    (hdirs : ∀ place, d'.IsDirectory place ↔ way.IsDirectory place) :
    Ready p d' d' source target :=
  h.transfer (make_again h.made fun place => (hdirs place).mpr) hdirs

/-! ## Loading -/

lemma load_of_readText {s : String} (hs : d.readText p = .ok s) (hb : Dashboard.parse? s = some b) :
    load p d = .ok b := by
  simp [load, hs, hb]

/-- What was loaded was read, or is empty, and so can be stored again. -/
lemma isStorable_of_load (h : load p d = .ok b) : b.IsStorable := by
  unfold load at h
  split at h
  · split at h
    · next hb =>
      obtain rfl := Except.ok.inj h
      exact Dashboard.isStorable_of_parse? hb
    · cases h
  · obtain rfl := Except.ok.inj h
    exact fun r hr => absurd hr List.not_mem_nil
  · cases h

/-- After a save the text is in the file, and the disk is ready for the next one. -/
lemma Ready.readText_save (h : Ready p d way source target) (b : Dashboard) :
    ∃ d', FileStore.save p b d = (.ok (), d') ∧ Ready p d' d' source target ∧
      d'.readText p = .ok b.text := by
  obtain ⟨d', hsave, hdirs, hplaces⟩ := h.save b
  have hready := h.again hdirs
  have htext : d'.lookup? target = some (.file b.text.toByteArray) := by
    rw [hplaces, if_pos rfl]
  exact ⟨d', hsave, hready,
    readText_eq_ok_iff.mpr ⟨target, hready.target_at, htext, h.target_named⟩⟩

/-! ## The file beside -/

lemma isName_temporary (p : Path) : Path.IsName (p.fileName?.getD "" ++ ".tmp") := by
  have hslash : '/' ∉ (p.fileName?.getD "").toList := by
    cases h : p.fileName? with
    | none => simp
    | some n =>
      refine (Path.isName_of_mem_names (p := p) ?_).1
      rw [(Path.names_of_fileName? h).1]
      simp
  have hext : ".tmp".toList = ['.', 't', 'm', 'p'] := rfl
  have hlong (piece : List Char) : Path.isIdle (piece ++ ['.', 't', 'm', 'p']) = false := by
    rcases piece with _ | ⟨c, _ | ⟨c', piece⟩⟩ <;> simp [Path.isIdle]
  rw [Path.IsName, String.toList_append, hext]
  exact ⟨by simpa using hslash, hlong _⟩

/-- The temporary file is in the directory that the path leads to. -/
lemma destination_temporary (p : Path) : destination p.temporary =
    p.before.foldl next (root p) ++ [p.fileName?.getD "" ++ ".tmp"] := by
  have hname := isName_temporary p
  have hroot : root p.temporary = root p := by
    rw [root, Path.temporary, Path.isAbsolute_withFileName hname, root]
  have hup : p.fileName?.getD "" ++ ".tmp" ≠ ".." := by
    intro h
    have hlength := congrArg String.length h
    rw [String.length_append] at hlength
    have hext : ".tmp".length = 4 := rfl
    have hdots : "..".length = 2 := rfl
    omega
  rw [destination, hroot, Path.temporary, Path.names_withFileName hname,
    List.foldl_append, List.foldl_cons, List.foldl_nil, next, if_neg hup]

/-- So is the file. -/
lemma destination_of_fileName? {name : String} (h : p.fileName? = some name) :
    destination p = p.before.foldl next (root p) ++ [name] := by
  obtain ⟨hnames, hne⟩ := Path.names_of_fileName? h
  rw [destination, hnames, List.foldl_append, List.foldl_cons, List.foldl_nil, next, if_neg hne]

/-- The temporary file is beside the file, not in its place. -/
lemma destination_temporary_ne (p : Path) : destination p.temporary ≠ destination p := by
  rw [destination_temporary]
  cases h : p.fileName? with
  | none =>
    rw [destination, Path.before_of_fileName?_eq_none h]
    simp
  | some n =>
    rw [destination_of_fileName? h]
    intro heq
    have hlonger := congrArg String.length (List.cons.inj (List.append_cancel_left heq)).1
    simp at hlonger

end FileStore
end TokenLaunch
