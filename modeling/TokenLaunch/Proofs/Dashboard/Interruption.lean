/-
# Saves that are broken off

A save takes three operations, and it may end before all of them are done: because the disk refuses
one, or because the program is gone.  An operation that is broken off has done nothing or a part of
its work (`Disk.Begun`); only moving a file is done at once or not at all.

What saves that are broken off leave behind are directories on the way to the file, where nothing
was, and perhaps the file beside it (`FileStore.Litter`).  On a disk that is a tree, for a path that
never goes up from what is missing, nobody sees any of that: the file reads as before
(`Litter.read_eq`), and the next save goes as it would have gone and leaves the same disk
(`Litter.save`).  So after any attempts to save the file is the one of the last save that was
completed, and the disk is as good as one on which only these were made
(`FileStore.Attempts.exists_completed`); and an edit is made as a whole if it goes well, and not at
all if it fails (`Store.saving_all_or_nothing`).

A path that does go up from what is missing is another matter: making the directories changes where
it leads (`Store.saving_leads_elsewhere`).
-/
import TokenLaunch.Proofs.Dashboard.File
import TokenLaunch.Proofs.Storage.Tree

namespace TokenLaunch

/-! ## Operations that are broken off -/

namespace Disk

variable {d d' : Disk} {op : Operation} {ops : List Operation}

/-- What a disk can hold when an operation is broken off. -/
inductive Begun (d : Disk) : Operation → Disk → Prop
  | untouched {op : Operation} : Begun d op d
  /-- Some of the directories are there. -/
  | directories {p : Path} {names : List String} {way : Disk} (hnames : names <+: p.names.dropLast)
      (hmake : d.make (root p) names = .ok way) :
      Begun d (.makeParents p) (d.remember (.makeParents p) way)
  /-- The file is there, with the first of its bytes. -/
  | part {p : Path} {written rest : ByteArray} {d' : Disk} (hwrite : d.write p written = .ok d') :
      Begun d (.write p (written ++ rest)) d'

/-- What a disk can hold when operations are broken off before the last of them is done. -/
inductive Stopped : Disk → List Operation → Disk → Prop
  | during {d d' : Disk} {op : Operation} {rest : List Operation} (hbegun : d.Begun op d') :
      Stopped d (op :: rest) d'
  | after {d way d' : Disk} {op : Operation} {rest : List Operation}
      (hperform : d.perform op = .ok way) (hstopped : Stopped way rest d') :
      Stopped d (op :: rest) d'

/-- An operation that is refused is broken off. -/
lemma begun_afterRefusal (d : Disk) (op : Operation) : d.Begun op (d.afterRefusal op) := by
  cases op with
  | makeParents p =>
    obtain ⟨front, hfront, hmake⟩ :=
      exists_make_eq_makeSome d (root p) p.names.dropLast p.names.length
    exact .directories hfront hmake
  | write => exact .untouched
  | rename => exact .untouched

/-- Operations are broken off where one is refused. -/
lemma stopped_of_performAll {e : Refusal} (h : d.performAll ops = (.error e, d')) :
    Stopped d ops d' := by
  induction ops generalizing d with
  | nil => cases h
  | cons op rest ih =>
    rw [performAll] at h
    split at h
    · next way hway => exact .after hway (ih h)
    · obtain rfl := (Prod.ext_iff.mp h).2
      exact .during (begun_afterRefusal d op)

namespace IsTree

lemma begun (h : d.IsTree) (hbegun : d.Begun op d') : d'.IsTree := by
  cases hbegun with
  | untouched => exact h
  | directories hnames hmake => exact (h.make (isDirectory_root d _) hmake).congr fun _ => rfl
  | part hwrite => exact h.write hwrite

/-- A disk stays a tree when operations are broken off. -/
lemma stopped (h : d.IsTree) (hstopped : Stopped d ops d') : d'.IsTree := by
  induction hstopped with
  | during hbegun => exact h.begun hbegun
  | after hperform _ ih => exact ih (h.perform hperform)

/-- A disk stays a tree when operations are done. -/
lemma performAll (h : d.IsTree) (hall : d.performAll ops = (.ok (), d')) : d'.IsTree := by
  induction ops generalizing d with
  | nil =>
    obtain rfl := (Prod.ext_iff.mp hall).2
    exact h
  | cons op rest ih =>
    rw [Disk.performAll] at hall
    split at hall
    · next way hway => exact ih (h.perform hway) hall
    · cases hall

end IsTree

lemma performAll_append {first last : List Operation} {way : Disk}
    (h : d.performAll first = (.ok (), way)) :
    d.performAll (first ++ last) = way.performAll last := by
  induction first generalizing d with
  | nil =>
    obtain rfl := (Prod.ext_iff.mp h).2
    rfl
  | cons op rest ih =>
    rw [performAll] at h
    split at h
    · next hop => rw [List.cons_append, performAll_cons hop, ih h]
    · cases h

end Disk

/-! ## What is left behind -/

namespace FileStore

open Disk

variable {p : Path} {d d' e way : Disk} {place : List String} {b : Dashboard} {bs : List Dashboard}

/-- The places of the directories on the way to what a path leads to. -/
def parents (p : Path) : List (List String) :=
  visited (root p) p.names.dropLast

/-- Whether a disk `d` differs from a disk `e` only by what saves in a file that were broken off can
leave behind: directories on the way, where nothing was, and a file beside the file. -/
def Litter (p : Path) (e d : Disk) : Prop :=
  ∀ place, d.lookup? place = e.lookup? place ∨
    (e.lookup? place = none ∧ d.IsDirectory place ∧ place ∈ parents p) ∨
    place = destination p.temporary ∧ place ∉ parents p ∧
      ¬ e.IsDirectory place ∧ ¬ d.IsDirectory place

/-- Names that lead no further than to the last but one, and there is a name to go on with. -/
lemma prefix_dropLast_iff {l names : List String} (hl : l ≠ []) :
    l <+: names.dropLast ↔ ∃ name, l ++ [name] <+: names := by
  constructor
  · rintro ⟨after, hafter⟩
    rcases List.eq_nil_or_concat' names with rfl | ⟨front, last, rfl⟩
    · simp_all
    · rw [List.dropLast_concat] at hafter
      subst hafter
      rcases after with _ | ⟨name, after⟩
      · exact ⟨last, by simp⟩
      · exact ⟨name, after ++ [last], by simp⟩
  · rintro ⟨name, after, rfl⟩
    rw [List.append_assoc, List.dropLast_append_of_ne_nil (by simp)]
    exact List.prefix_append _ _

lemma mem_parents_iff : place ∈ parents p ↔
    ∃ names name, names ≠ [] ∧ names ++ [name] <+: p.names ∧ names.foldl next (root p) = place := by
  rw [parents, mem_visited_iff]
  refine exists_congr fun names => ⟨?_, ?_⟩
  · rintro ⟨hne, hlead, hplace⟩
    obtain ⟨name, hname⟩ := (prefix_dropLast_iff hne).mp hlead
    exact ⟨name, hne, hname, hplace⟩
  · rintro ⟨name, hne, hname, hplace⟩
    exact ⟨hne, (prefix_dropLast_iff hne).mpr ⟨name, hname⟩, hplace⟩

/-- Every place that a path goes on from is its root or a place on the way. -/
lemma eq_root_or_mem_parents {names : List String} {name : String}
    (h : names ++ [name] <+: p.names) :
    names.foldl next (root p) = root p ∨ names.foldl next (root p) ∈ parents p := by
  rcases eq_or_ne names [] with rfl | hne
  · exact .inl rfl
  · exact .inr (mem_parents_iff.mpr ⟨names, name, hne, h, rfl⟩)

namespace Litter

lemma refl (p : Path) (d : Disk) : Litter p d d := fun _ => .inl rfl

lemma isDirectory (h : Litter p e d) (hplace : e.IsDirectory place) : d.IsDirectory place := by
  rcases h place with heq | ⟨hnone, -, -⟩ | ⟨-, -, hfree, -⟩
  · exact heq.trans hplace
  · exact absurd hplace (not_isDirectory_of_eq_none hnone)
  · exact absurd hplace hfree

/-- On the way there are the same files. -/
lemma file_iff (h : Litter p e d) (hplace : place = root p ∨ place ∈ parents p)
    (contents : ByteArray) :
    d.lookup? place = some (.file contents) ↔ e.lookup? place = some (.file contents) := by
  rcases h place with heq | ⟨hnone, hdir, -⟩ | ⟨-, hoff, hfree, -⟩
  · rw [heq]
  · rw [hnone, (hdir : d.lookup? place = _)]
    simp
  · rcases hplace with rfl | hon
    · exact absurd (isDirectory_root e p) hfree
    · exact absurd hon hoff

/-! ## How it comes about -/

/-- More directories on the way. -/
lemma make (h : Litter p e d) {names : List String} (hnames : names <+: p.names.dropLast)
    (hmake : d.make (root p) names = .ok d') : Litter p e d' := by
  intro place
  have hplace := lookup?_make hmake place
  split_ifs at hplace with hon
  · have hparent : place ∈ parents p := by
      obtain ⟨l, hne, hl, hend⟩ := mem_visited_iff.mp hon
      exact mem_visited_iff.mpr ⟨l, hne, hl.trans hnames, hend⟩
    have hfile := exists_make_iff.mp ⟨d', hmake⟩ place hon
    -- no file was in the way, so there was a directory, or nothing
    rcases he : e.lookup? place with _ | ⟨contents | _⟩
    · exact .inr (.inl ⟨rfl, hplace, hparent⟩)
    · exact absurd ((h.file_iff (.inr hparent) contents).mpr he) (hfile contents)
    · exact .inl hplace
  · simpa only [IsDirectory, hplace] using h place

/-- A file beside the file, once the way is made. -/
lemma write (h : Litter p e d) (hon : ∀ place ∈ parents p, d.IsDirectory place)
    {contents : ByteArray} (hwrite : d.write p.temporary contents = .ok d') : Litter p e d' := by
  obtain ⟨q, hq, hfree, -, rfl⟩ := write_eq_ok_iff.mp hwrite
  obtain rfl := eq_destination hq
  intro place
  by_cases hplace : place = destination p.temporary
  · subst hplace
    exact .inr (.inr ⟨rfl, fun hmem => hfree (hon _ hmem), mt h.isDirectory hfree,
      mt (isDirectory_put hfree).mp hfree⟩)
  · have hsame : (d.put (destination p.temporary) (.file contents)).lookup? place =
        d.lookup? place := by
      rw [lookup?_put _ _ _ _ (isRoot_of_not_isDirectory hfree), if_neg hplace]
    simpa only [IsDirectory, hsame] using h place

/-- **What a save leaves behind that is broken off.** -/
theorem stopped (h : Litter p e d) (hstopped : Stopped d (saving p b) d') : Litter p e d' := by
  cases hstopped with
  | during hbegun =>
    cases hbegun with
    | untouched => exact h
    | directories hnames hmake => exact fun place => h.make hnames hmake place
  | after hperform hstopped =>
    obtain ⟨way, hmake, rfl⟩ := perform_makeParents.mp hperform
    have hway : Litter p e (d.remember (.makeParents p) way) :=
      fun place => h.make (List.prefix_refl _) hmake place
    have hon : ∀ place ∈ parents p, (d.remember (.makeParents p) way).IsDirectory place :=
      fun place hplace => (lookup?_make hmake place).trans (if_pos hplace)
    cases hstopped with
    | during hbegun =>
      generalize hcontents : b.text.toByteArray = contents at hbegun
      cases hbegun with
      | untouched => exact hway
      | part hwrite => exact hway.write hon hwrite
    | after hperform hstopped =>
      obtain ⟨_, hwrite, rfl⟩ := perform_write.mp hperform
      have hbeside := hway.write hon hwrite
      cases hstopped with
      | during hbegun =>
        cases hbegun
        exact hbeside
      | after _ hstopped => cases hstopped

/-! ## What is seen of it -/

/-- A way that does not end where nothing is leads to the same place, or to the same file. -/
lemma walk_eq (h : Litter p e d) {names : List String} (hnames : names <+: p.names)
    (hfound : e.walk (root p) names ≠ .error .notFound) :
    d.walk (root p) names = e.walk (root p) names := by
  cases hwalk : e.walk (root p) names with
  | ok q => exact walk_mono hwalk fun _ => h.isDirectory
  | error r =>
    obtain ⟨before, name, after, m, rfl, hbefore, ⟨rfl, -⟩ | ⟨rfl, contents, hfile⟩⟩ :=
      exists_stop hwalk
    · exact absurd hwalk hfound
    · have hstage : before ++ [name] <+: before ++ name :: after := ⟨after, by simp⟩
      have hon : m = root p ∨ m ∈ parents p := by
        rw [eq_of_walk hbefore]
        exact eq_root_or_mem_parents (hstage.trans hnames)
      rw [walk_append, walk_mono hbefore fun _ => h.isDirectory]
      simp only [Except.bind, walk, (h.file_iff hon contents).mpr hfile]

/-- Nothing is where the path leads, if nothing is on the way to there. -/
lemma read_eq_notFound (h : Litter p e d) (htree : e.IsTree) (hground : e.Grounded p)
    (hwalk : e.walk (root p) p.names = .error .notFound) : d.read p = .error .notFound := by
  obtain ⟨before, name, after, m, hnames, hbefore, ⟨-, hm⟩ | ⟨hne, -⟩⟩ := exists_stop hwalk
  swap
  · cases hne
  have hdown := hground.not_mem hnames hbefore hm
  -- from the missing place on, nothing is on the way
  have hway {names : List String} (hlead : names <+: p.names) :=
    htree.on_way hbefore hm hdown (hnames ▸ hlead)
  have hend : destination p = m ++ name :: after := by
    rw [destination, hnames, List.foldl_append, ← eq_of_walk hbefore, foldl_next hdown]
  have hmissing : e.lookup? (destination p) = none := by
    rw [hend]
    exact htree.lookup?_append hm _
  have hlookup : d.lookup? (destination p) = none := by
    rcases h (destination p) with heq | ⟨-, -, hparent⟩ | ⟨hsame, -⟩
    · exact heq.trans hmissing
    · -- the directories on the way are not as far down
      obtain ⟨names, name', -, hlead, hplace⟩ := mem_parents_iff.mp hparent
      rcases hway ((List.prefix_append _ _).trans hlead) with hdir | ⟨down, -, rfl, hdown, -⟩
      · rw [hplace] at hdir
        exact absurd hdir (not_isDirectory_of_eq_none hmissing)
      · have hlength := hlead.length_le
        rw [hplace, hend] at hdown
        rw [← List.append_cancel_left hdown, hnames] at hlength
        simp at hlength
    · exact absurd hsame.symm (destination_temporary_ne p)
  cases hlocate : d.locate p with
  | ok q =>
    obtain rfl := eq_destination hlocate
    exact read_of_eq_none hlocate hlookup
  | error r =>
    rw [read_of_locate_error hlocate]
    unfold locate at hlocate
    split_ifs at hlocate with hempty
    · obtain rfl := Except.error.inj hlocate
      rfl
    · obtain ⟨front, name', after', m', hnames', hfront, ⟨rfl, -⟩ | ⟨rfl, contents, hfile⟩⟩ :=
        exists_stop hlocate
      · rfl
      · -- a file on the way was there before
        have hlead : front ++ [name'] <+: p.names := ⟨after', by simp [hnames']⟩
        have hplace := eq_of_walk hfront
        have hfile' := (h.file_iff (hplace ▸ eq_root_or_mem_parents hlead) contents).mp hfile
        rcases hway ((List.prefix_append front [name']).trans hlead) with
          hdir | ⟨-, -, -, -, hnone⟩
        · rw [← hplace, IsDirectory, hfile'] at hdir
          cases hdir
        · rw [← hplace, hfile'] at hnone
          cases hnone

/-- **Nobody sees what was left behind.** -/
theorem read_eq (h : Litter p e d) (htree : e.IsTree) (hground : e.Grounded p) :
    d.read p = e.read p := by
  by_cases hempty : p.text = ""
  · rw [read_of_locate_error (if_pos hempty), read_of_locate_error (if_pos hempty)]
  have hwalk (d : Disk) : d.locate p = d.walk (root p) p.names := if_neg hempty
  cases he : e.walk (root p) p.names with
  | error r =>
    rw [read_of_locate_error ((hwalk e).trans he)]
    cases r with
    | notFound => exact h.read_eq_notFound htree hground he
    | _ =>
      refine read_of_locate_error ?_
      rw [hwalk, h.walk_eq (List.prefix_refl _) (by rw [he]; nofun), he]
  | ok q =>
    have hd := h.walk_eq (List.prefix_refl _) (by rw [he]; nofun)
    rw [he] at hd
    obtain rfl := eq_destination ((hwalk e).trans he)
    have hlookup : d.lookup? (destination p) = e.lookup? (destination p) := by
      rcases h (destination p) with heq | ⟨hnone, -, hparent⟩ | ⟨hsame, -⟩
      · exact heq
      · obtain ⟨names, name, -, hlead, hplace⟩ := mem_parents_iff.mp hparent
        rw [← hplace] at hnone
        exact absurd (isDirectory_of_walk he hlead) (not_isDirectory_of_eq_none hnone)
      · exact absurd hsame.symm (destination_temporary_ne p)
    simp only [Disk.read, hwalk, hd, he, bind, Except.bind, hlookup]

lemma load_eq (h : Litter p e d) (htree : e.IsTree) (hground : e.Grounded p) :
    load p d = load p e := by
  simp only [load, readText, h.read_eq htree hground]

lemma grounded (h : Litter p e d) (hground : e.Grounded p) : d.Grounded p := by
  intro before hup
  rw [h.walk_eq hup (hground before hup)]
  exact hground before hup

/-! ## The next save -/

/-- The directories on the way can be made, or not, with or without what was left behind. -/
lemma exists_way_iff (h : Litter p e d) :
    (∃ way, d.make (root p) p.names.dropLast = .ok way) ↔
      ∃ way, e.make (root p) p.names.dropLast = .ok way := by
  have hfiles (place : List String) (hplace : place ∈ parents p) (contents : ByteArray) :
      d.lookup? place ≠ some (.file contents) ↔ e.lookup? place ≠ some (.file contents) :=
    not_congr (h.file_iff (.inr hplace) contents)
  rw [exists_make_iff, exists_make_iff]
  exact forall₂_congr fun place hplace => forall_congr' (hfiles place hplace)

section Made

variable {way' : Disk} (h : Litter p e d) (hd : d.make (root p) p.names.dropLast = .ok way')
  (he : e.make (root p) p.names.dropLast = .ok way)
include h hd he

/-- Once they are made, nothing is left but the file beside the file. -/
lemma lookup?_made (place : List String) : way'.lookup? place = way.lookup? place ∨
    place = destination p.temporary ∧ ¬ way'.IsDirectory place ∧ ¬ way.IsDirectory place := by
  have hplace' := lookup?_make hd place
  have hplace := lookup?_make he place
  simp only [IsDirectory, hplace, hplace']
  split_ifs with hon
  · exact .inl rfl
  · rcases h place with heq | ⟨-, -, hparent⟩ | ⟨hsame, -, hfree, hfree'⟩
    · exact .inl heq
    · exact absurd hparent hon
    · exact .inr ⟨hsame, hfree', hfree⟩

lemma isDirectory_made (place : List String) :
    way'.IsDirectory place ↔ way.IsDirectory place := by
  rcases h.lookup?_made hd he place with heq | ⟨-, hfree', hfree⟩
  · rw [IsDirectory, IsDirectory, heq]
  · exact iff_of_false hfree' hfree

end Made

/-- **The next save.**  It is completed, or not, with or without what was left behind, and if it
is completed then nothing of that is left. -/
theorem save (h : Litter p e d) (b : Dashboard) :
    ((FileStore.save p b d).1 = .ok () ↔ (FileStore.save p b e).1 = .ok ()) ∧
      ((FileStore.save p b d).1 = .ok () → ∀ place,
        (FileStore.save p b d).2.lookup? place = (FileStore.save p b e).2.lookup? place) := by
  have hready : (∃ way source target, Ready p d way source target) ↔
      ∃ way source target, Ready p e way source target := by
    constructor
    · rintro ⟨way', source, target, hready⟩
      obtain ⟨way, he⟩ := h.exists_way_iff.mp ⟨way', hready.made⟩
      exact ⟨way, source, target,
        hready.transfer he fun place => (h.isDirectory_made hready.made he place).symm⟩
    · rintro ⟨way, source, target, hready⟩
      obtain ⟨way', hd⟩ := h.exists_way_iff.mpr ⟨way, hready.made⟩
      exact ⟨way', source, target, hready.transfer hd (h.isDirectory_made hd hready.made)⟩
  refine ⟨?_, fun hsave place => ?_⟩
  · rw [← exists_ready_iff, hready, exists_ready_iff]
  · obtain ⟨way', source, target, hd⟩ := exists_ready hsave
    obtain ⟨way, source', target', he⟩ := hready.mp ⟨way', source, target, hd⟩
    obtain rfl : source = source' := (eq_destination hd.source_at).trans (eq_destination he.source_at).symm
    obtain rfl : target = target' := (eq_destination hd.target_at).trans (eq_destination he.target_at).symm
    obtain ⟨d', hsave', -, hplaces'⟩ := hd.save b
    obtain ⟨e', hsave, -, hplaces⟩ := he.save b
    rw [hsave', hsave]
    simp only [hplaces, hplaces']
    split_ifs with htarget hsource
    · rfl
    · rfl
    · rcases h.lookup?_made hd.made he.made place with heq | ⟨hbeside, -⟩
      · exact heq
      · exact absurd (hbeside.trans (eq_destination hd.source_at).symm) hsource

end Litter

/-! ## Attempts to save -/

/-- Attempts to save in a file, one after another, with what was saved by those of them that were
completed. -/
inductive Attempts (p : Path) : Disk → List Dashboard → Disk → Prop
  | none {d : Disk} : Attempts p d [] d
  | completed {d way d' : Disk} {b : Dashboard} {bs : List Dashboard}
      (hsave : FileStore.save p b d = (.ok (), way)) (hrest : Attempts p way bs d') :
      Attempts p d (b :: bs) d'
  | interrupted {d way d' : Disk} {b : Dashboard} {bs : List Dashboard}
      (hstopped : Stopped d (saving p b) way) (hrest : Attempts p way bs d') : Attempts p d bs d'

lemma save_eq_ok_iff : FileStore.save p b d = (.ok (), d') ↔
    d.performAll (saving p b) = (.ok (), d') := by
  rw [FileStore.save]
  split <;> simp_all

lemma stopped_of_save {r : StoreError} (h : FileStore.save p b d = (.error r, d')) :
    Stopped d (saving p b) d' := by
  rw [FileStore.save] at h
  split at h
  · cases h
  · next heq =>
    obtain rfl := (Prod.ext_iff.mp h).2
    exact stopped_of_performAll heq

/-- What was saved is in the file, and the path leads there. -/
lemma read_save (h : FileStore.save p b d = (.ok (), d')) :
    d'.read p = .ok b.text.toByteArray ∧ d'.Grounded p := by
  obtain ⟨way, source, target, hready⟩ := exists_ready (congrArg Prod.fst h)
  obtain ⟨d'', hsave, hready', htext⟩ := hready.readText_save b
  obtain rfl : d'' = d' := (Prod.ext_iff.mp (hsave.symm.trans h)).2
  exact ⟨readText_eq_ok_iff_read.mp htext, .of_locate hready'.target_at⟩

/-- What is read of bytes that were saved. -/
lemma load_of_read (h : d.read p = .ok b.text.toByteArray) : load p d = .ok b.reread :=
  load_of_readText (readText_eq_ok_iff_read.mpr h) b.parse?_text

/-- A disk stays a tree, whatever comes of the attempts. -/
lemma Attempts.isTree (h : Attempts p d bs d') (htree : d.IsTree) : d'.IsTree := by
  induction h with
  | none => exact htree
  | completed hsave _ ih => exact ih (htree.performAll (save_eq_ok_iff.mp hsave))
  | interrupted hstopped _ ih => exact ih (htree.stopped hstopped)

/-- **After attempts to save.**  If only those of them had been made that were completed, the disk
would differ by what the others left behind, and the file would be that of the last one. -/
theorem Attempts.exists_completed (h : Attempts p d bs d') (he : Litter p e d) (htree : e.IsTree)
    (hground : e.Grounded p) :
    ∃ e', e.performAll (bs.flatMap (saving p)) = (.ok (), e') ∧ e'.IsTree ∧ e'.Grounded p ∧
      Litter p e' d' ∧
      e'.read p = (bs.getLast?.map fun b => .ok b.text.toByteArray).getD (e.read p) := by
  induction h generalizing e with
  | none => exact ⟨e, rfl, htree, hground, he, rfl⟩
  | @completed d way d' b bs hsave _ ih =>
    obtain ⟨hcompleted, hsame⟩ := he.save b
    have hok : (FileStore.save p b d).1 = .ok () := by rw [hsave]
    -- the same save, on the disk where nothing was left behind
    have hsave' : FileStore.save p b e = (.ok (), (FileStore.save p b e).2) :=
      Prod.ext (hcompleted.mp hok) rfl
    have hall := save_eq_ok_iff.mp hsave'
    obtain ⟨hread, hground'⟩ := read_save hsave'
    have hlitter : Litter p (FileStore.save p b e).2 way := by
      intro place
      rw [hsave] at hsame
      exact .inl (hsame rfl place)
    obtain ⟨e', hrest, htree', hground', hlitter', hlast⟩ :=
      ih hlitter (htree.performAll hall) hground'
    refine ⟨e', ?_, htree', hground', hlitter', ?_⟩
    · rw [List.flatMap_cons, performAll_append hall, hrest]
    · rw [hlast, hread]
      cases bs with
      | nil => rfl
      | cons b' bs => rw [List.getLast?_cons_cons]; simp [List.getLast?_cons]
  | interrupted hstopped _ ih => exact ih (he.stopped hstopped) htree hground

/-- What attempts to save in a file have come to, where those of `bs` were completed: they began on
a disk `d` and have left a disk `d'`. -/
structure Settled (p : Path) (d : Disk) (bs : List Dashboard) (d' : Disk) : Prop where
  tree : d'.IsTree
  grounded : d'.Grounded p
  /-- The file holds what was saved last, or what it held before. -/
  read : d'.read p = (bs.getLast?.map fun b => .ok b.text.toByteArray).getD (d.read p)
  /-- It loads as what was saved last, read anew, or as it did before. -/
  load : FileStore.load p d' = (bs.getLast?.map fun b => .ok b.reread).getD (FileStore.load p d)
  /-- Where only the completed ones were attempted, a load answers the same, and so does a save, and
  if it is completed it leaves the same. -/
  alike : ∃ e, d.performAll (bs.flatMap (saving p)) = (.ok (), e) ∧
    FileStore.load p d' = FileStore.load p e ∧
    ∀ b, ((FileStore.save p b d').1 = .ok () ↔ (FileStore.save p b e).1 = .ok ()) ∧
      ((FileStore.save p b d').1 = .ok () → ∀ place,
        (FileStore.save p b d').2.lookup? place = (FileStore.save p b e).2.lookup? place)

/-- On a tree, attempts to save along a path that never goes up from what is missing settle. -/
lemma Attempts.settled (h : Attempts p d bs d') (htree : d.IsTree) (hground : d.Grounded p) :
    Settled p d bs d' := by
  obtain ⟨e, hall, htree', hground', hlitter, hlast⟩ :=
    h.exists_completed (Litter.refl p d) htree hground
  have hload : FileStore.load p d' = FileStore.load p e := hlitter.load_eq htree' hground'
  refine
    { tree := h.isTree htree
      grounded := hlitter.grounded hground'
      read := (hlitter.read_eq htree' hground').trans hlast
      load := ?_
      alike := ⟨e, hall, hload, hlitter.save⟩ }
  rw [hload]
  cases hbs : bs.getLast? with
  | none =>
    rw [hbs] at hlast
    simp only [FileStore.load, readText, hlast, Option.map_none, Option.getD_none]
  | some b =>
    rw [hbs] at hlast
    exact load_of_read hlast

end FileStore

/-! ## Edits -/

namespace Store

open Disk FileStore

/-- Whether edits of a store that begin in `t` and go well are made as a whole: the answer is that of
the edit of what was loaded, and what is loaded then is what was saved, but for a change `back`. -/
def Completes {τ : Type} (s : Store τ) (back : Dashboard → Dashboard) (t : τ) : Prop :=
  ∀ {α : Type} (edit : Dashboard → α × Dashboard) (a : α) (t' : τ),
    s.update edit t = (.ok a, t') →
      ∃ d, (s.load t).1 = .ok d ∧ a = (edit d).1 ∧ (s.load t').1 = .ok (back (edit d).2)

/-- Whether edits of a store that begin in `t` and fail are not made at all: a load answers as
before. -/
def Retracts {τ : Type} (s : Store τ) (t : τ) : Prop :=
  ∀ {α : Type} (edit : Dashboard → α × Dashboard) (e : StoreError) (t' : τ),
    s.update edit t = (.error e, t') → (s.load t').1 = (s.load t).1

lemma completes_memory (d : Dashboard) : memory.Completes id d := by
  intro α edit a d' h
  rw [memory_update] at h
  obtain ⟨ha, rfl⟩ := Prod.mk.inj h
  exact ⟨d, rfl, (Except.ok.inj ha).symm, rfl⟩

lemma retracts_memory (d : Dashboard) : memory.Retracts d := by
  intro α edit e d' h
  rw [memory_update] at h
  cases h

section OnDisk

variable {α : Type} {p : Path} {d d' : Disk} {edit : Dashboard → α × Dashboard}

/-- An edit in a file goes well if the load and the save do. -/
lemma update_onDisk_ok {a : α} (h : (onDisk p).update edit d = (.ok a, d')) :
    ∃ b, FileStore.load p d = .ok b ∧ a = (edit b).1 ∧
      FileStore.save p (edit b).2 d = (.ok (), d') := by
  simp only [update, onDisk] at h
  split at h
  · cases h
  · next heq =>
    obtain ⟨hload, rfl⟩ := Prod.mk.inj heq
    split at h
    · cases h
    · next hsave =>
      obtain ⟨ha, rfl⟩ := Prod.mk.inj h
      exact ⟨_, hload, (Except.ok.inj ha).symm, hsave⟩

/-- An edit in a file fails if the load fails, and then leaves the disk alone, or if the save
does. -/
lemma update_onDisk_error {e : StoreError} (h : (onDisk p).update edit d = (.error e, d')) :
    d' = d ∨ ∃ b, FileStore.save p b d = (.error e, d') := by
  simp only [update, onDisk] at h
  split at h
  · next heq =>
    obtain ⟨-, rfl⟩ := Prod.mk.inj heq
    exact .inl (Prod.mk.inj h).2.symm
  · next heq =>
    obtain ⟨-, rfl⟩ := Prod.mk.inj heq
    split at h
    · next hsave =>
      obtain ⟨he, rfl⟩ := Prod.mk.inj h
      obtain rfl := Except.error.inj he
      exact .inr ⟨_, hsave⟩
    · cases h

end OnDisk

lemma completes_onDisk (p : Path) (d : Disk) : (onDisk p).Completes Dashboard.reread d := by
  intro α edit a d' h
  obtain ⟨b, hload, ha, hsave⟩ := update_onDisk_ok h
  exact ⟨b, hload, ha, load_of_read (read_save hsave).1⟩

lemma retracts_onDisk {p : Path} {d : Disk} (htree : d.IsTree) (hground : d.Grounded p) :
    (onDisk p).Retracts d := by
  intro α edit e d' h
  rcases update_onDisk_error h with rfl | ⟨b, hsave⟩
  · rfl
  · exact ((Litter.refl p d).stopped (stopped_of_save hsave)).load_eq htree hground

/-- **Saving is all or nothing.**  An edit that goes well is made as a whole; in a file what was
saved comes back with every standard and every time read anew, and that is just what was saved if it
is storable.
An edit that fails is not made at all, if the disk is a tree and the path never goes up from what
is missing.  Then, whatever attempts to save are made in the file, each of them completed or broken
off anywhere, they settle.  What is written first is beside the file, never in its place. -/
theorem saving_all_or_nothing :
    (∀ d : Dashboard, memory.Completes id d ∧ memory.Retracts d) ∧
    (∀ (p : Path) (d : Disk), (onDisk p).Completes Dashboard.reread d) ∧
    (∀ b : Dashboard, b.reread = b ↔ b.IsStorable) ∧
    (∀ (p : Path) (name : String), p.fileName? = some name →
      destination p = (destination p).dropLast ++ [name] ∧
        destination p.temporary = (destination p).dropLast ++ [name ++ ".tmp"]) ∧
    ∀ (p : Path) (d : Disk), d.IsTree → d.Grounded p →
      (onDisk p).Retracts d ∧ ∀ bs d', Attempts p d bs d' → Settled p d bs d' := by
  refine ⟨fun d => ⟨completes_memory d, retracts_memory d⟩, completes_onDisk,
    fun b => Dashboard.reread_eq_iff, fun p name hname => ⟨?_, ?_⟩,
    fun p d htree hground => ⟨retracts_onDisk htree hground, fun bs d' hattempts =>
      hattempts.settled htree hground⟩⟩
  · rw [destination_of_fileName? hname, List.dropLast_concat]
  · rw [destination_temporary, destination_of_fileName? hname, hname, List.dropLast_concat,
      Option.getD_some]

/-- A disk on which a first save was broken off while the file beside was written. -/
def littered : Disk where
  entries := [(["data", "state.json.tmp"], .file "\x7b".toByteArray), (["data"], .directory)]
  performed := [.makeParents ⟨"data/state.json"⟩]

theorem saving_all_or_nothing_littered :
    (∃ b, Stopped {} (saving ⟨"data/state.json"⟩ b) littered) ∧
    (onDisk ⟨"data/state.json"⟩).Retracts {} ∧ (onDisk ⟨"data/state.json"⟩).Retracts littered ∧
    FileStore.load ⟨"data/state.json"⟩ littered = .ok {} := by
  have hground : Grounded {} ⟨"data/state.json"⟩ := .of_not_mem (by decide +kernel)
  have hmake : ({} : Disk).perform (.makeParents ⟨"data/state.json"⟩) =
      .ok ⟨[(["data"], .directory)], [.makeParents ⟨"data/state.json"⟩]⟩ := rfl
  have htext : ({} : Dashboard).text =
      "\x7b" ++ String.ofList (({} : Dashboard).text.toList.drop 1) := by decide +kernel
  have hstopped : Stopped {} (saving ⟨"data/state.json"⟩ {}) littered := by
    refine .after hmake (.during ?_)
    rw [htext, String.toByteArray_append]
    exact .part rfl
  obtain ⟨-, -, -, -, honDisk⟩ := saving_all_or_nothing
  obtain ⟨hfirst, hattempts⟩ := honDisk ⟨"data/state.json"⟩ {} isTree_empty hground
  have hsettled := hattempts [] littered (.interrupted hstopped .none)
  exact ⟨⟨{}, hstopped⟩, hfirst, (honDisk _ _ hsettled.tree hsettled.grounded).1, hsettled.load⟩

open Dashboard (foreignToken strayLeapSecond) in
/-- Where a path goes up from what is missing, a save that fails makes a directory of what was not
there, and the next load fails; and a record does not come back as it was if its standard was made by
hand, or if its time is in a leap second that does not end a minute. -/
theorem saving_leads_elsewhere :
    (IsTree {} ∧ Path.fileName? ⟨"x/../x"⟩ = some "x" ∧
      FileStore.load ⟨"x/../x"⟩ {} = .ok {} ∧
      ((onDisk ⟨"x/../x"⟩).update (redirecting "http://node:8545") {}).1 =
        .error (.io "Is a directory (os error 21)") ∧
      FileStore.load ⟨"x/../x"⟩ ((onDisk ⟨"x/../x"⟩).update (redirecting "http://node:8545") {}).2 =
        .error (.io "Is a directory (os error 21)")) ∧
    (((onDisk ⟨"state.json"⟩).update
        (adding { foreignToken with standard := .unrecognized "nft" }) {}).1 = .ok () ∧
      FileStore.load ⟨"state.json"⟩ ((onDisk ⟨"state.json"⟩).update
        (adding { foreignToken with standard := .unrecognized "nft" }) {}).2 =
          .ok { tokens := [foreignToken] }) ∧
    (((onDisk ⟨"state.json"⟩).update
        (adding { foreignToken with deployedAt := strayLeapSecond }) {}).1 = .ok () ∧
      FileStore.load ⟨"state.json"⟩ ((onDisk ⟨"state.json"⟩).update
        (adding { foreignToken with deployedAt := strayLeapSecond }) {}).2 =
          .ok { tokens := [{ foreignToken with deployedAt := strayLeapSecond.reread }] } ∧
      strayLeapSecond.reread ≠ strayLeapSecond) := by
  -- a record that is added to an empty disk comes back read anew
  have hadded (r : Record) : FileStore.load ⟨"state.json"⟩
      ((onDisk ⟨"state.json"⟩).update (adding r) {}).2 = .ok { tokens := [r.reread] } := by
    have hsave : FileStore.save ⟨"state.json"⟩ { tokens := [r] } {} = (.ok (), _) := rfl
    exact load_of_read (read_save hsave).1
  refine ⟨⟨isTree_empty, by decide +kernel, rfl, rfl, rfl⟩, ⟨rfl, ?_⟩, rfl, ?_, by decide⟩
  · rw [hadded]
    decide +kernel
  · rw [hadded]
    decide +kernel

end Store
end TokenLaunch
