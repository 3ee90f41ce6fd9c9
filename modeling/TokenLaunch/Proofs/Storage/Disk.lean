/-
# Walking on a changing disk

Where a path leads is settled by its names (`destination`); whether it leads there depends on the
disk, but on its directories only.  So a walk that arrives still arrives when directories are added
(`walk_mono`), and files may come and go (`isDirectory_put`, `isDirectory_clear`).  Making the
directories on a way puts directories where nothing was and changes nothing else (`grown_make`);
doing so again, as long as they stay, changes nothing at all (`make_again`).
-/
import Mathlib.Tactic
import TokenLaunch.Storage.Disk

namespace TokenLaunch
namespace Disk

variable {d d' : Disk} {p : Path} {place q : List String} {names : List String}
  {contents : ByteArray}

/-! ## Directories -/

/-- Whether a place holds a directory. -/
def IsDirectory (d : Disk) (place : List String) : Prop :=
  d.lookup? place = some .directory

/-- Only what is no root can be anything but a directory. -/
lemma isRoot_of_not_isDirectory (h : ¬ d.IsDirectory place) : isRoot place = false := by
  by_contra hroot
  exact h (if_pos (by simpa using hroot))

lemma isDirectory_of_isRoot (h : isRoot place = true) : d.IsDirectory place :=
  if_pos h

lemma isDirectory_root (d : Disk) (p : Path) : d.IsDirectory (root p) := by
  refine isDirectory_of_isRoot ?_
  unfold root
  split <;> rfl

/-- Files can be written without any change to the directories. -/
lemma isDirectory_put (hq : ¬ d.IsDirectory q) :
    (d.put q (.file contents)).IsDirectory place ↔ d.IsDirectory place := by
  rw [IsDirectory, lookup?_put _ _ _ _ (isRoot_of_not_isDirectory hq)]
  split_ifs with h
  · subst h
    exact iff_of_false nofun hq
  · rfl

lemma isDirectory_clear (hq : ¬ d.IsDirectory q) :
    (d.clear q).IsDirectory place ↔ d.IsDirectory place := by
  rw [IsDirectory, lookup?_clear _ _ _ (isRoot_of_not_isDirectory hq)]
  split_ifs with h
  · subst h
    exact iff_of_false nofun hq
  · rfl

lemma lookup?_put_self (hq : ¬ d.IsDirectory q) (e : Entry) : (d.put q e).lookup? q = some e := by
  rw [lookup?_put _ _ _ _ (isRoot_of_not_isDirectory hq), if_pos rfl]

/-! ## Walking -/

/-- The place at the end of a path. -/
def destination (p : Path) : List String :=
  p.names.foldl next (root p)

/-- A walk that arrives ends where the names lead. -/
lemma eq_of_walk (h : d.walk place names = .ok q) : q = names.foldl next place := by
  induction names generalizing place with
  | nil => exact (Except.ok.inj h).symm
  | cons name rest ih =>
    rw [walk] at h
    split at h
    · exact ih h
    · cases h
    · cases h

/-- A walk that arrives still arrives where all its directories are. -/
lemma walk_mono (h : d.walk place names = .ok q)
    (hdirs : ∀ place, d.IsDirectory place → d'.IsDirectory place) :
    d'.walk place names = .ok q := by
  induction names generalizing place with
  | nil => exact h
  | cons name rest ih =>
    rw [walk] at h
    split at h
    · next hplace => rw [walk, hdirs place hplace, ih h]
    · cases h
    · cases h

lemma locate_mono (h : d.locate p = .ok q)
    (hdirs : ∀ place, d.IsDirectory place → d'.IsDirectory place) : d'.locate p = .ok q := by
  unfold locate at h ⊢
  split_ifs at h ⊢
  exact walk_mono h hdirs

lemma eq_destination (h : d.locate p = .ok q) : q = destination p := by
  unfold locate at h
  split_ifs at h
  exact eq_of_walk h

/-- A walk depends on what the places hold, and on nothing else. -/
lemma walk_congr (h : ∀ place, d'.lookup? place = d.lookup? place) :
    d'.walk place names = d.walk place names := by
  induction names generalizing place with
  | nil => rfl
  | cons name rest ih =>
    rw [walk, walk, h]
    split <;> first | exact ih | rfl

lemma read_congr (h : ∀ place, d'.lookup? place = d.lookup? place) :
    d'.read p = d.read p := by
  have hlocate : d'.locate p = d.locate p := by rw [locate, locate, walk_congr h]
  simp only [read, hlocate, h]

/-! ## Making directories -/

/-- A disk that has grown: there are directories where nothing was, and nothing else is
changed. -/
def Grown (d d' : Disk) : Prop :=
  ∀ place, d'.lookup? place = d.lookup? place ∨ d.lookup? place = none ∧ d'.IsDirectory place

lemma Grown.isDirectory (h : d.Grown d') (hplace : d.IsDirectory place) :
    d'.IsDirectory place := by
  rcases h place with heq | ⟨hnone, -⟩
  · exact heq.trans hplace
  · exact absurd (hnone.symm.trans hplace) nofun

lemma Grown.trans {way : Disk} (h : d.Grown way) (h' : way.Grown d') : d.Grown d' := by
  intro q
  rcases h q with heq | ⟨hnone, hdir⟩
  · rw [← heq]
    exact h' q
  · exact .inr ⟨hnone, h'.isDirectory hdir⟩

lemma grown_put (hplace : d.lookup? place = none) : d.Grown (d.put place .directory) := by
  have hplace' : ¬ d.IsDirectory place := by simp [IsDirectory, hplace]
  intro q
  by_cases hq : q = place
  · subst hq
    exact .inr ⟨hplace, lookup?_put_self hplace' _⟩
  · rw [lookup?_put _ _ _ _ (isRoot_of_not_isDirectory hplace'), if_neg hq]
    exact .inl rfl

lemma grown_make (h : d.make place names = .ok d') : d.Grown d' := by
  induction names generalizing d place with
  | nil =>
    obtain rfl := Except.ok.inj h
    exact fun _ => .inl rfl
  | cons name rest ih =>
    rw [make] at h
    split at h
    · exact ih h
    · cases h
    · next hnone => exact (grown_put hnone).trans (ih h)

/-- Making the same directories again, where they are still there, changes nothing. -/
lemma make_again {way : Disk} (h : d.make place names = .ok way)
    (hdirs : ∀ place, way.IsDirectory place → d'.IsDirectory place) :
    d'.make place names = .ok d' := by
  induction names generalizing d place with
  | nil => rfl
  | cons name rest ih =>
    rw [make] at h
    -- the first directory was there before, or has been made
    have hfirst : d'.IsDirectory (next place name) := by
      split at h
      · next hdir => exact hdirs _ ((grown_make h).isDirectory hdir)
      · cases h
      · next hnone =>
        refine hdirs _ ((grown_make h).isDirectory (lookup?_put_self ?_ _))
        simp [IsDirectory, hnone]
    rw [make, hfirst]
    split at h
    · exact ih h
    · cases h
    · exact ih h

/-- Where all directories can be made, a walk meets no file on the way. -/
lemma walk_ne_notADirectory (hplace : d.IsDirectory place) (h : d.make place names = .ok d') :
    d.walk place names ≠ .error .notADirectory := by
  induction names generalizing place with
  | nil => exact nofun
  | cons name rest ih =>
    rw [make] at h
    rw [walk, hplace]
    split at h
    · next hdir => exact ih hdir h
    · cases h
    · next hnone =>
      -- the walk ends here, or does not go on
      cases rest with
      | nil => exact nofun
      | cons next rest =>
        simp only [walk, hnone]
        exact nofun

/-- In which order directories are made makes no difference if they can be made. -/
lemma makeParents_eq_ok_iff :
    d.makeParents p = .ok d' ↔ d.make (root p) p.names.dropLast = .ok d' := by
  rw [makeParents, makeAll]
  split
  · next hwalk =>
    refine iff_of_false nofun fun h => ?_
    exact walk_ne_notADirectory (isDirectory_root d p) h hwalk
  · rfl

example : makeParents ⟨[(["a"], .file "".toByteArray)], []⟩ ⟨"a/b"⟩ = .error .fileExists := rfl

example : makeParents ⟨[(["a"], .file "".toByteArray)], []⟩ ⟨"a/b/c"⟩ = .error .notADirectory := rfl

/-- What is made along some of the names is made along the first of them. -/
lemma exists_make_eq_makeSome (d : Disk) (place names : List String) (n : ℕ) :
    ∃ front, front <+: names ∧ d.make place front = .ok (d.makeSome place names n) := by
  induction n with
  | zero => exact ⟨[], List.nil_prefix, rfl⟩
  | succ n ih =>
    rw [makeSome]
    split
    · next hmake => exact ⟨_, List.take_prefix _ _, hmake⟩
    · exact ih

/-! ## When operations are done -/

lemma bind_eq_ok_iff {α β : Type} {x : Except Refusal α} {f : α → Except Refusal β} {b : β} :
    (x >>= f) = .ok b ↔ ∃ a, x = .ok a ∧ f a = .ok b := by
  cases x <;> simp [bind, Except.bind]

/-- A file is read where the path leads. -/
lemma read_eq_ok_iff : d.read p = .ok contents ↔
    ∃ q, d.locate p = .ok q ∧ d.lookup? q = some (.file contents) ∧ p.mustBeDirectory = false := by
  rw [read, bind_eq_ok_iff]
  refine exists_congr fun q => and_congr_right fun _ => ?_
  rcases d.lookup? q with _ | ⟨_ | _⟩ <;> cases p.mustBeDirectory <;> simp

lemma read_of_locate_error {e : Refusal} (h : d.locate p = .error e) : d.read p = .error e := by
  rw [read, h]
  rfl

lemma read_of_eq_none (h : d.locate p = .ok q) (hq : d.lookup? q = none) :
    d.read p = .error .notFound := by
  simp only [read, h, bind, Except.bind, hq]

/-- A text is read where its own bytes are. -/
lemma readText_eq_ok_iff_read {s : String} : d.readText p = .ok s ↔ d.read p = .ok s.toByteArray := by
  rw [readText, bind_eq_ok_iff]
  constructor
  · rintro ⟨contents, hread, h⟩
    rw [hread]
    unfold String.fromUTF8? at h
    split_ifs at h with hvalid
    obtain rfl := Except.ok.inj h
    rfl
  · intro hread
    refine ⟨_, hread, ?_⟩
    have hvalid : String.fromUTF8? s.toByteArray = some s := dif_pos s.isValidUTF8
    rw [hvalid]

lemma readText_eq_ok_iff {s : String} : d.readText p = .ok s ↔
    ∃ q, d.locate p = .ok q ∧ d.lookup? q = some (.file s.toByteArray) ∧
      p.mustBeDirectory = false := by
  rw [readText_eq_ok_iff_read, read_eq_ok_iff]

/-- A file is written where no directory is. -/
lemma write_eq_ok_iff : d.write p contents = .ok d' ↔
    ∃ q, d.locate p = .ok q ∧ ¬ d.IsDirectory q ∧ p.mustBeDirectory = false ∧
      d.put q (.file contents) = d' := by
  rw [write, bind_eq_ok_iff]
  refine exists_congr fun q => and_congr_right fun _ => ?_
  rw [IsDirectory]
  rcases d.lookup? q with _ | ⟨_ | _⟩ <;> cases p.mustBeDirectory <;> simp

/-- What was written is read there. -/
lemma read_write (h : d.write p contents = .ok d') : d'.read p = .ok contents := by
  obtain ⟨q, hq, hfree, hnamed, rfl⟩ := write_eq_ok_iff.mp h
  exact read_eq_ok_iff.mpr ⟨q, locate_mono hq fun _ => (isDirectory_put hfree).mpr,
    lookup?_put_self hfree _, hnamed⟩

/-- A file is moved to where no directory is. -/
lemma rename_eq_ok_iff {source target : Path} : d.rename source target = .ok d' ↔
    ∃ q, d.locate source = .ok q ∧ ∃ q', d.locate target = .ok q' ∧
      ¬ d.IsDirectory q' ∧ target.mustBeDirectory = false ∧
      ∃ contents, d.lookup? q = some (.file contents) ∧
        (d.clear q).put q' (.file contents) = d' := by
  rw [rename, bind_eq_ok_iff]
  refine exists_congr fun q => and_congr_right fun _ => ?_
  rw [bind_eq_ok_iff]
  refine exists_congr fun q' => and_congr_right fun _ => ?_
  rw [IsDirectory]
  rcases d.lookup? q with _ | ⟨_ | _⟩ <;> rcases d.lookup? q' with _ | ⟨_ | _⟩ <;>
    cases target.mustBeDirectory <;> simp

/-! ## Performing operations -/

/-- A disk that remembers one more operation. -/
def remember (d : Disk) (op : Operation) (after : Disk) : Disk :=
  { after with performed := d.performed ++ [op] }

@[simp] lemma lookup?_remember (d : Disk) (op : Operation) (after : Disk) (place : List String) :
    (remember d op after).lookup? place = after.lookup? place := rfl

@[simp] lemma isDirectory_remember (d : Disk) (op : Operation) (after : Disk)
    (place : List String) : (remember d op after).IsDirectory place ↔ after.IsDirectory place :=
  Iff.rfl

@[simp] lemma read_remember (d : Disk) (op : Operation) (after : Disk) (p : Path) :
    (remember d op after).read p = after.read p :=
  read_congr fun _ => rfl

lemma perform_makeParents : d.perform (.makeParents p) = .ok d' ↔
    ∃ after, d.make (root p) p.names.dropLast = .ok after ∧
      remember d (.makeParents p) after = d' := by
  simp [perform, bind_eq_ok_iff, remember, pure, Except.pure, makeParents_eq_ok_iff]

lemma perform_write : d.perform (.write p contents) = .ok d' ↔
    ∃ after, d.write p contents = .ok after ∧ remember d (.write p contents) after = d' := by
  simp [perform, bind_eq_ok_iff, remember, pure, Except.pure]

lemma perform_rename {source target : Path} : d.perform (.rename source target) = .ok d' ↔
    ∃ after, d.rename source target = .ok after ∧
      remember d (.rename source target) after = d' := by
  simp [perform, bind_eq_ok_iff, remember, pure, Except.pure]

/-- Operations that all go well go one after another. -/
lemma performAll_cons {op : Operation} {rest : List Operation} {after : Disk}
    (h : d.perform op = .ok after) : d.performAll (op :: rest) = after.performAll rest := by
  rw [performAll, h]

lemma exists_of_performAll_cons {op : Operation} {rest : List Operation}
    (h : (d.performAll (op :: rest)).1 = .ok ()) :
    ∃ after, d.perform op = .ok after ∧ (after.performAll rest).1 = .ok () := by
  rw [performAll] at h
  split at h
  · next after hafter => exact ⟨after, hafter, h⟩
  · cases h

end Disk
end TokenLaunch
