/-
# Disks are trees

Whatever is on a disk is in a directory.  Operations keep it so, and it is true of an empty disk, so
it is true of every disk that comes from one by operations (`IsTree.perform`).  In a tree nothing is
below what is missing: once a way has come to a place where nothing is, it leads nowhere, unless it
goes up again (`IsTree.on_way`).

A way leads through the places that are visited one after another (`visited`).  Making the
directories on it puts a directory at each of them, as long as no file is in the way, and changes no
other place (`exists_make_iff`, `lookup?_make`).
-/
import TokenLaunch.Proofs.Storage.Disk

namespace TokenLaunch
namespace Disk

variable {d d' : Disk} {p : Path} {place m q : List String} {names before rest l : List String}
  {name : String} {contents : ByteArray}

/-! ## Roots -/

lemma not_isDirectory_of_eq_none (h : d.lookup? place = none) : ¬ d.IsDirectory place :=
  fun hdir => absurd (h.symm.trans hdir) nofun

lemma isRoot_append (h : isRoot place = false) (l : List String) : isRoot (place ++ l) = false := by
  rcases place with _ | ⟨a, _ | ⟨b, cs⟩⟩ <;> simp_all [isRoot]

/-! ## The places on a way -/

/-- The places that names lead through, one after each name. -/
def visited (place : List String) : List String → List (List String)
  | [] => []
  | name :: rest => next place name :: visited (next place name) rest

lemma mem_visited_iff : q ∈ visited place names ↔
    ∃ l, l ≠ [] ∧ l <+: names ∧ l.foldl next place = q := by
  induction names generalizing place with
  | nil =>
    refine iff_of_false List.not_mem_nil ?_
    rintro ⟨l, hne, hl, -⟩
    exact hne (List.prefix_nil.mp hl)
  | cons name rest ih =>
    rw [visited, List.mem_cons, ih]
    constructor
    · rintro (rfl | ⟨l, -, hl, rfl⟩)
      · exact ⟨[name], nofun, List.prefix_append [name] rest, rfl⟩
      · exact ⟨name :: l, nofun, (List.prefix_cons_inj name).mpr hl, rfl⟩
    · rintro ⟨_ | ⟨n, l⟩, hne, hl, rfl⟩
      · exact absurd rfl hne
      · obtain ⟨rfl, hrest⟩ := List.cons_prefix_cons.mp hl
        cases l with
        | nil => exact .inl rfl
        | cons n' l => exact .inr ⟨n' :: l, nofun, hrest, rfl⟩

/-- Without going up, names lead to what is below. -/
lemma foldl_next (h : ".." ∉ names) : names.foldl next place = place ++ names := by
  induction names generalizing place with
  | nil => simp
  | cons name rest ih =>
    rw [List.mem_cons, not_or] at h
    rw [List.foldl_cons, next, if_neg (Ne.symm h.1), ih h.2, List.append_assoc,
      List.singleton_append]

/-! ## Walking in stages -/

lemma walk_append : d.walk place (before ++ rest) = (d.walk place before).bind (d.walk · rest) := by
  induction before generalizing place with
  | nil => rfl
  | cons name before ih =>
    rw [List.cons_append, walk, walk]
    split
    · exact ih
    · rfl
    · rfl

/-- The first stage of a walk that arrives. -/
lemma walk_stage (h : d.walk place names = .ok q) (hl : l <+: names) :
    d.walk place l = .ok (l.foldl next place) := by
  obtain ⟨rest, rfl⟩ := hl
  rw [walk_append] at h
  cases hfirst : d.walk place l with
  | error e => rw [hfirst] at h; cases h
  | ok m => rw [eq_of_walk hfirst]

/-- All places before the last are directories. -/
lemma isDirectory_of_walk {name : String} (h : d.walk place names = .ok q)
    (hl : l ++ [name] <+: names) : d.IsDirectory (l.foldl next place) := by
  have hstage := walk_stage h hl
  rw [walk_append, walk_stage h ((List.prefix_append l [name]).trans hl)] at hstage
  simp only [Except.bind, walk] at hstage
  split at hstage
  · next hdir => exact hdir
  · cases hstage
  · cases hstage

/-- A walk that does not arrive has come to a place where it cannot go on. -/
lemma exists_stop {e : Refusal} (h : d.walk place names = .error e) :
    ∃ before name after m, names = before ++ name :: after ∧ d.walk place before = .ok m ∧
      (e = .notFound ∧ d.lookup? m = none ∨
        e = .notADirectory ∧ ∃ contents, d.lookup? m = some (.file contents)) := by
  induction names generalizing place with
  | nil => cases h
  | cons name rest ih =>
    rw [walk] at h
    split at h
    · next hdir =>
      obtain ⟨before, name', after, m, rfl, hwalk, hstop⟩ := ih h
      exact ⟨name :: before, name', after, m, rfl, by rw [walk, hdir, hwalk], hstop⟩
    · next contents hfile =>
      obtain rfl := Except.error.inj h
      exact ⟨[], name, rest, place, rfl, rfl, .inr ⟨rfl, contents, hfile⟩⟩
    · next hnone =>
      obtain rfl := Except.error.inj h
      exact ⟨[], name, rest, place, rfl, rfl, .inl ⟨rfl, hnone⟩⟩

/-! ## Making the directories on a way -/

lemma lookup?_make (h : d.make place names = .ok d') (q : List String) :
    d'.lookup? q = if q ∈ visited place names then some .directory else d.lookup? q := by
  induction names generalizing d place with
  | nil =>
    obtain rfl := Except.ok.inj h
    rfl
  | cons name rest ih =>
    rw [make] at h
    simp only [visited, List.mem_cons]
    split at h
    · next hdir =>
      rw [ih h]
      by_cases hq : q = next place name
      · subst hq
        simp [hdir]
      · simp [hq]
    · cases h
    · next hnone =>
      have hfree : ¬ d.IsDirectory (next place name) := by simp [IsDirectory, hnone]
      rw [ih h, lookup?_put _ _ _ _ (isRoot_of_not_isDirectory hfree)]
      by_cases hq : q = next place name <;> simp [hq]

/-- The directories on a way can be made if no file is in the way. -/
lemma exists_make_iff : (∃ d', d.make place names = .ok d') ↔
    ∀ q ∈ visited place names, ∀ contents, d.lookup? q ≠ some (.file contents) := by
  induction names generalizing d place with
  | nil => simp [make, visited]
  | cons name rest ih =>
    rw [make, visited, List.forall_mem_cons]
    split
    · next hdir => simp [ih, hdir]
    · next contents hfile => simp [hfile]
    · next hnone =>
      have hfree : ¬ d.IsDirectory (next place name) := by simp [IsDirectory, hnone]
      rw [ih]
      -- the first place of the way may be visited again
      have hput (q : List String) (contents : ByteArray) :
          (d.put (next place name) .directory).lookup? q ≠ some (.file contents) ↔
            d.lookup? q ≠ some (.file contents) := by
        rw [lookup?_put _ _ _ _ (isRoot_of_not_isDirectory hfree)]
        split_ifs with hq
        · subst hq
          simp [hnone]
        · rfl
      simp [hput, hnone]

/-! ## Trees -/

/-- Whether everything on a disk is in a directory. -/
def IsTree (d : Disk) : Prop :=
  ∀ place name, isRoot (place ++ [name]) = false → d.lookup? (place ++ [name]) ≠ none →
    d.IsDirectory place

lemma isTree_empty : IsTree {} := by
  intro place name hroot hsome
  rw [lookup?, hroot] at hsome
  exact absurd rfl hsome

namespace IsTree

/-- Nothing is below what is missing. -/
lemma lookup?_append (h : d.IsTree) (hm : d.lookup? m = none) (l : List String) :
    d.lookup? (m ++ l) = none := by
  have hroot : isRoot m = false := isRoot_of_not_isDirectory (not_isDirectory_of_eq_none hm)
  induction l using List.reverseRecOn with
  | nil => rwa [List.append_nil]
  | append_singleton l name ih =>
    by_contra hsome
    rw [← List.append_assoc] at hsome
    have hdir := h (m ++ l) name (by rw [List.append_assoc]; exact isRoot_append hroot _) hsome
    exact not_isDirectory_of_eq_none ih hdir

/-- One directory up is a directory. -/
lemma isDirectory_up (h : d.IsTree) (hplace : d.IsDirectory place) :
    d.IsDirectory (next place "..") := by
  rw [next, if_pos rfl]
  split_ifs with hroot
  · exact hplace
  · rcases List.eq_nil_or_concat' place with rfl | ⟨up, name, rfl⟩
    · exact absurd rfl hroot
    · rw [List.dropLast_concat]
      exact h up name (by simpa using hroot) fun hnone => not_isDirectory_of_eq_none hnone hplace

/-- What is at the end of a way, and is no directory, is in a directory. -/
lemma isDirectory_of_walk (h : d.IsTree) (hplace : d.IsDirectory place)
    (hwalk : d.walk place names = .ok (q ++ [name])) (hq : ¬ d.IsDirectory (q ++ [name])) :
    d.IsDirectory q := by
  rcases List.eq_nil_or_concat' names with rfl | ⟨before, name', rfl⟩
  · obtain rfl := Except.ok.inj hwalk
    exact absurd hplace hq
  · have hup := Disk.isDirectory_of_walk hwalk (List.prefix_refl _)
    have hlast := eq_of_walk hwalk
    rw [List.foldl_append, List.foldl_cons, List.foldl_nil] at hlast
    by_cases hname : name' = ".."
    · subst hname
      rw [hlast] at hq
      exact absurd (h.isDirectory_up hup) hq
    · rw [next, if_neg hname] at hlast
      rwa [(List.append_inj' hlast rfl).1]

lemma isDirectory_of_locate (h : d.IsTree) (hlocate : d.locate p = .ok (q ++ [name]))
    (hq : ¬ d.IsDirectory (q ++ [name])) : d.IsDirectory q := by
  unfold locate at hlocate
  split_ifs at hlocate
  exact h.isDirectory_of_walk (isDirectory_root d p) hlocate hq

/-! ## Operations on trees -/

lemma congr (h : d.IsTree) (hsame : ∀ place, d'.lookup? place = d.lookup? place) : d'.IsTree := by
  intro place name hroot hsome
  rw [hsame] at hsome
  exact (hsame place).trans (h place name hroot hsome)

lemma put (h : d.IsTree) (hfree : ¬ d.IsDirectory q) (e : Entry)
    (hup : ∀ place name, q = place ++ [name] → d.IsDirectory place) : (d.put q e).IsTree := by
  have hroot := isRoot_of_not_isDirectory hfree
  intro place name hname hsome
  have hdir : d.IsDirectory place := by
    rw [lookup?_put _ _ _ _ hroot] at hsome
    split_ifs at hsome with hq
    · exact hup place name hq.symm
    · exact h place name hname hsome
  rw [IsDirectory, lookup?_put _ _ _ _ hroot, if_neg]
  · exact hdir
  · rintro rfl
    exact hfree hdir

lemma clear (h : d.IsTree) (hfree : ¬ d.IsDirectory q) : (d.clear q).IsTree := by
  have hroot := isRoot_of_not_isDirectory hfree
  intro place name hname hsome
  rw [lookup?_clear _ _ _ hroot] at hsome
  split_ifs at hsome
  · exact absurd rfl hsome
  · exact (isDirectory_clear hfree).mpr (h place name hname hsome)

lemma make (h : d.IsTree) (hplace : d.IsDirectory place) (hmake : d.make place names = .ok d') :
    d'.IsTree := by
  induction names generalizing d place with
  | nil =>
    obtain rfl := Except.ok.inj hmake
    exact h
  | cons name rest ih =>
    rw [Disk.make] at hmake
    split at hmake
    · next hdir => exact ih h hdir hmake
    · cases hmake
    · next hnone =>
      have hfree := not_isDirectory_of_eq_none hnone
      -- what is made is below the place that the way has come to
      have hname : name ≠ ".." := by
        rintro rfl
        exact hfree (h.isDirectory_up hplace)
      refine ih (h.put hfree _ fun up last heq => ?_) (lookup?_put_self hfree _) hmake
      rw [next, if_neg hname] at heq
      rwa [← (List.append_inj' heq rfl).1]

lemma write (h : d.IsTree) (hwrite : d.write p contents = .ok d') : d'.IsTree := by
  obtain ⟨q, hq, hfree, -, rfl⟩ := write_eq_ok_iff.mp hwrite
  refine h.put hfree _ ?_
  rintro place name rfl
  exact h.isDirectory_of_locate hq hfree

lemma rename {source target : Path} (h : d.IsTree) (hrename : d.rename source target = .ok d') :
    d'.IsTree := by
  obtain ⟨q, -, q', hq', hfree', -, contents, hfile, rfl⟩ := rename_eq_ok_iff.mp hrename
  have hfree : ¬ d.IsDirectory q := by simp [IsDirectory, hfile]
  refine (h.clear hfree).put (mt (isDirectory_clear hfree).mp hfree') _ ?_
  rintro place name rfl
  exact (isDirectory_clear hfree).mpr (h.isDirectory_of_locate hq' hfree')

/-- **Operations keep a disk a tree.** -/
theorem perform {op : Operation} (h : d.IsTree) (hperform : d.perform op = .ok d') : d'.IsTree := by
  cases op with
  | makeParents p =>
    obtain ⟨after, hmake, rfl⟩ := perform_makeParents.mp hperform
    exact (h.make (isDirectory_root d p) hmake).congr fun _ => rfl
  | write p contents =>
    obtain ⟨after, hwrite, rfl⟩ := perform_write.mp hperform
    exact (h.write hwrite).congr fun _ => rfl
  | rename source target =>
    obtain ⟨after, hrename, rfl⟩ := perform_rename.mp hperform
    exact (h.rename hrename).congr fun _ => rfl

/-- A way that comes to a place where nothing is goes through directories up to there, and from
there on through places where nothing is. -/
lemma on_way (h : d.IsTree) (hwalk : d.walk place before = .ok m) (hm : d.lookup? m = none)
    (hrest : ".." ∉ rest) (hl : l <+: before ++ rest) :
    d.IsDirectory (l.foldl next place) ∨
      ∃ l', l' <+: rest ∧ l = before ++ l' ∧ l.foldl next place = m ++ l' ∧
        d.lookup? (l.foldl next place) = none := by
  rcases List.prefix_or_prefix_of_prefix hl (List.prefix_append before rest) with hfront | hback
  · rcases hfront with ⟨_ | ⟨name, rest'⟩, rfl⟩
    · rw [List.append_nil] at hwalk
      have hend := eq_of_walk hwalk
      exact .inr ⟨[], List.nil_prefix, by simp, by simp [hend], hend ▸ hm⟩
    · have hstage : l ++ [name] <+: l ++ name :: rest' := ⟨rest', by simp⟩
      exact .inl (Disk.isDirectory_of_walk hwalk hstage)
  · obtain ⟨l', rfl⟩ := hback
    have hl' : l' <+: rest := (List.prefix_append_right_inj before).mp hl
    have hend : (before ++ l').foldl next place = m ++ l' := by
      rw [List.foldl_append, ← eq_of_walk hwalk, foldl_next (fun hmem => hrest (hl'.subset hmem))]
    exact .inr ⟨l', hl', rfl, hend, by rw [hend]; exact h.lookup?_append hm l'⟩

end IsTree

/-! ## Going up -/

/-- Whether a path never goes up from what is missing. -/
def Grounded (d : Disk) (p : Path) : Prop :=
  ∀ before, before ++ [".."] <+: p.names → d.walk (root p) (before ++ [".."]) ≠ .error .notFound

namespace Grounded

/-- A path that never goes up does so least of all from what is missing. -/
lemma of_not_mem (h : ".." ∉ p.names) : d.Grounded p :=
  fun before hup => absurd (hup.subset (by simp)) h

/-- A path that arrives does not pass what is missing. -/
lemma of_locate (h : d.locate p = .ok q) : d.Grounded p := by
  unfold locate at h
  split_ifs at h
  intro before hup
  rw [walk_stage h hup]
  exact nofun

/-- From where nothing is on, a path goes only down. -/
lemma not_mem (h : d.Grounded p) (hnames : p.names = before ++ rest)
    (hwalk : d.walk (root p) before = .ok m) (hm : d.lookup? m = none) : ".." ∉ rest := by
  intro hmem
  obtain ⟨down, after, rfl⟩ := List.append_of_mem hmem
  refine h (before ++ down) ?_ ?_
  · rw [hnames]
    exact ⟨after, by simp⟩
  · rw [List.append_assoc, walk_append, hwalk]
    cases down <;> simp [Except.bind, walk, hm]

end Grounded
end Disk
end TokenLaunch
