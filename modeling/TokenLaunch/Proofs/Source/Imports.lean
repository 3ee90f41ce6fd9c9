/-
# Import lines

A text is made of lines, and its import lines are those that begin with the word for it.  No literal
goes on after the end of its line and every line of a member is moved to the right, so what users
write never begins a line: the import lines of a file are the imports that it was made with
(`SourceFile.importLines_text`).

The imports of a blueprint are the paths that its components need, each where it is needed first
(`Blueprint.pairwise_firstOccurrences`).  A path says which file it leads to (`fileName`), and of
all paths that components need only one leads to the file of a given component
(`Component.fileName_eq_iff`).
-/
import TokenLaunch.Proofs.Source.Decoding
import TokenLaunch.Proofs.Source.Layout
import TokenLaunch.Proofs.Source.Tidy

namespace TokenLaunch

/-! ## Lines of a text -/

namespace Solidity

/-- The lines of a text, and what follows the last line feed. -/
def linesOf (text : String) : List String :=
  (text.toList.splitOn '\n').map String.ofList

/-- A line that imports a file. -/
def IsImport (line : List Char) : Prop :=
  "import ".toList <+: line

instance : DecidablePred IsImport :=
  fun line => inferInstanceAs (Decidable ("import ".toList <+: line))

/-- The lines of a text that import a file. -/
def importLines (text : String) : List String :=
  (linesOf text).filter fun line => decide (IsImport line.toList)

namespace Line

/-- A text of clean lines is read line by line. -/
lemma linesOf_text {lines : List Line} (h : ∀ line ∈ lines, line.Clean) :
    linesOf (text lines) = (lines.map fun line => String.ofList line.chars) ++ [""] := by
  have hsplit : (textChars lines).splitOn '\n' = lines.map chars ++ [[]] := by
    induction lines with
    | nil => rfl
    | cons line lines ih =>
      obtain ⟨hline, hlines⟩ := List.forall_mem_cons.mp h
      have hfeed : '\n' ∉ line.chars := fun hmem =>
        absurd (hline.isControl _ hmem) (by decide)
      rw [textChars_cons, List.splitOn_append_cons_self_of_not_mem hfeed, ih hlines]
      rfl
  rw [linesOf, text, String.toList_ofList, hsplit, List.map_append, List.map_map]
  rfl

/-- A line that is moved to the right imports nothing. -/
lemma not_isImport_indent (level : ℕ) (line : Line) :
    ¬ IsImport (indent (level + 1) line).chars := by
  have hmargin : (margin (level + 1)).toList = ' ' :: ("   ".toList ++ (margin level).toList) := by
    simp [margin]
  have himport : "import ".toList = 'i' :: "mport ".toList := rfl
  rw [IsImport, indent, chars_cons, Piece.chars_code, hmargin, himport]
  simp

end Line

/-- Every line of a member is moved to the right. -/
lemma Member.exists_indent (m : Member) :
    ∀ line ∈ m.lines, ∃ level inner, line = Line.indent (level + 1) inner := by
  cases m with
  | nameHashes names => exact List.forall_mem_map.mpr fun name _ => ⟨_, _, rfl⟩
  | «variable» declaration => exact List.forall_mem_singleton.mpr ⟨_, _, rfl⟩
  | remark text => exact List.forall_mem_singleton.mpr ⟨_, _, rfl⟩
  | routine r =>
    have hheader : ∀ line ∈ r.header, ∃ level inner, line = Line.indent (level + 1) inner := by
      unfold Routine.header
      split_ifs
      · refine List.forall_mem_append.mpr ⟨List.forall_mem_cons.mpr ⟨⟨_, _, rfl⟩, ?_⟩, ?_⟩
        · exact List.forall_mem_map.mpr fun q _ => ⟨_, _, rfl⟩
        · exact List.forall_mem_singleton.mpr ⟨_, _, rfl⟩
      · exact List.forall_mem_singleton.mpr ⟨_, _, rfl⟩
    exact List.forall_mem_append.mpr ⟨List.forall_mem_append.mpr ⟨hheader,
      List.forall_mem_map.mpr fun line _ => ⟨_, _, rfl⟩⟩, List.forall_mem_singleton.mpr ⟨_, _, rfl⟩⟩

namespace SourceFile

variable {f : SourceFile}

/-- No other line of a file imports anything. -/
lemma filter_imports :
    f.lines.filter (fun line => decide (IsImport line.chars)) = f.imports.map importLine := by
  have himports : ∀ line ∈ f.imports.map importLine, decide (IsImport line.chars) = true :=
    List.forall_mem_map.mpr fun path _ => decide_eq_true (List.prefix_append _ _)
  have hfixed : [Line.ofCode licenseMarker, Line.ofCode pragma, Line.empty].filter
      (fun line => decide (IsImport line.chars)) = [] ∧
      [Line.ofCode "\x7d"].filter (fun line => decide (IsImport line.chars)) = [] ∧
        ¬ IsImport Line.empty.chars := by
    decide
  have hdeclaration : ¬ IsImport f.declaration.chars := by
    have hcontract : "contract ".toList = 'c' :: "ontract ".toList := rfl
    have hword : "import ".toList = 'i' :: "mport ".toList := rfl
    rw [IsImport, declaration, Line.chars_cons, Piece.chars_code, hcontract, hword]
    simp
  have hmembers : ∀ line ∈ Line.spaced (f.members.map Member.lines), ¬ IsImport line.chars := by
    refine Line.forall_mem_spaced hfixed.2.2 (List.forall_mem_map.mpr fun m _ line hline => ?_)
    obtain ⟨level, inner, rfl⟩ := m.exists_indent line hline
    exact Line.not_isImport_indent level inner
  have hspaced : (Line.spaced (f.members.map Member.lines)).filter
      (fun line => decide (IsImport line.chars)) = [] :=
    List.filter_eq_nil_iff.mpr fun line hline => by simpa using hmembers line hline
  simp only [lines, List.filter_append, hfixed.1, List.filter_eq_self.mpr himports, hspaced,
    hfixed.2.1]
  simp [hfixed.2.2, hdeclaration]

/-- **The import lines of a file are its imports.** -/
theorem importLines_text (h : ∀ line ∈ f.lines, line.Clean) :
    importLines f.text = f.imports.map fun path => "import " ++ Literal.quote path ++ ";" := by
  have hlast : ¬ IsImport "".toList := by decide
  have hchars : (fun line : String => decide (IsImport line.toList)) ∘
      (fun line : Line => String.ofList line.chars) = fun line => decide (IsImport line.chars) := by
    funext line
    rw [Function.comp_apply, String.toList_ofList]
  have himport : ∀ path, String.ofList (importLine path).chars =
      "import " ++ Literal.quote path ++ ";" := by
    intro path
    apply String.toList_injective
    simp [importLine]
  rw [importLines, text, Line.linesOf_text h, List.filter_append, List.filter_map, hchars,
    filter_imports, List.filter_singleton, decide_eq_false hlast, cond_false, List.append_nil,
    List.map_map]
  exact List.map_congr_left fun path _ => himport path

end SourceFile

end Solidity

open Solidity

/-! ## Entries that are kept where they occur first -/

namespace Blueprint

lemma firstOccurrences_append_singleton (xs : List String) (x : String) :
    firstOccurrences (xs ++ [x]) =
      if x ∈ firstOccurrences xs then firstOccurrences xs else firstOccurrences xs ++ [x] := by
  simp only [firstOccurrences, List.foldl_append, List.foldl_cons, List.foldl_nil,
    List.contains_iff_mem]

lemma mem_firstOccurrences {xs : List String} {y : String} :
    y ∈ firstOccurrences xs ↔ y ∈ xs := by
  induction xs using List.reverseRecOn with
  | nil => rfl
  | append_singleton xs x ih =>
    rw [firstOccurrences_append_singleton]
    split_ifs with hseen
    · -- an entry that is left out is there already
      have hold : y = x → y ∈ xs := by
        rintro rfl
        exact ih.mp hseen
      rw [ih, List.mem_append, List.mem_singleton, or_iff_left_of_imp hold]
    · rw [List.mem_append, ih, List.mem_append]

/-- Entries stand in the order in which they occur first. -/
theorem pairwise_firstOccurrences (xs : List String) :
    (firstOccurrences xs).Pairwise fun a b => xs.idxOf a < xs.idxOf b := by
  induction xs using List.reverseRecOn with
  | nil => exact List.Pairwise.nil
  | append_singleton xs x ih =>
    have hold : ∀ a ∈ firstOccurrences xs, (xs ++ [x]).idxOf a = xs.idxOf a :=
      fun a ha => List.idxOf_append_of_mem (mem_firstOccurrences.mp ha)
    have hkept : (firstOccurrences xs).Pairwise
        fun a b => (xs ++ [x]).idxOf a < (xs ++ [x]).idxOf b :=
      ih.imp_of_mem fun ha hb h => by rwa [hold _ ha, hold _ hb]
    rw [firstOccurrences_append_singleton]
    split_ifs with hseen
    · exact hkept
    · -- a new entry occurs first behind all the others
      have hnew : (xs ++ [x]).idxOf x = xs.length := by
        rw [List.idxOf_append_of_notMem (mem_firstOccurrences.not.mp hseen)]
        simp
      refine List.pairwise_append.mpr ⟨hkept, List.pairwise_singleton _ _, fun a ha b hb => ?_⟩
      rw [List.mem_singleton.mp hb, hold a ha, hnew]
      exact List.idxOf_lt_length_of_mem (mem_firstOccurrences.mp ha)

lemma nodup_firstOccurrences (xs : List String) : (firstOccurrences xs).Nodup :=
  (pairwise_firstOccurrences xs).imp fun h heq => (heq ▸ h).ne rfl

end Blueprint

/-! ## Where paths lead -/

/-- The file that a path leads to: what follows the last slash. -/
def fileName (path : String) : String :=
  String.ofList ((path.toList.splitOn '/').getLastD [])

lemma fileName_append {folder name : String} (hfolder : '/' ∈ folder.toList.getLast?)
    (hname : '/' ∉ name.toList) : fileName (folder ++ name) = name := by
  obtain ⟨front, hfront⟩ := List.getLast?_eq_some_iff.mp hfolder
  have hsplit : (folder ++ name).toList.splitOn '/' = front.splitOn '/' ++ [name.toList] := by
    rw [String.toList_append, hfront, List.append_assoc, List.singleton_append,
      List.splitOn_append_cons_self, List.splitOn_eq_singleton hname]
  rw [fileName, hsplit, List.getLastD_concat, String.ofList_toList]

namespace Component

/-- Nothing in a path needs an escape. -/
lemma bare_importPaths (c : Component) :
    ∀ path ∈ c.importPaths, ∀ ch ∈ path.toList, Literal.Bare ch := by
  have hspelled : ∀ {text : String} {cs : List Char}, text = String.ofList cs →
      (∀ ch ∈ cs, Literal.Bare ch) → ∀ ch ∈ text.toList, Literal.Bare ch :=
    fun h hcs => toList_spelled h ▸ hcs
  have hlibrary : ∀ ch ∈ library.toList, Literal.Bare ch := by decide
  have hfolder : ∀ ch ∈ c.folder.toList, Literal.Bare ch := by
    cases c <;> exact hspelled rfl (by decide)
  have hname : ∀ ch ∈ c.name.toList, Literal.Bare ch := by
    cases c <;> exact hspelled rfl (by decide)
  have hending : ∀ ch ∈ ".sol".toList, Literal.Bare ch := by decide
  have hshared : ∀ file ∈ c.sharedFiles, ∀ ch ∈ file.toList, Literal.Bare ch := by
    cases c <;> decide
  simp only [importPaths, files, file, List.map_cons, List.forall_mem_cons, List.forall_mem_map,
    String.toList_append, List.forall_mem_append]
  exact ⟨⟨hlibrary, ⟨hfolder, hname⟩, hending⟩, fun path hpath => ⟨hlibrary, hshared path hpath⟩⟩

/-- The path of a component's own file. -/
def ownPath (c : Component) : String :=
  library ++ c.file

lemma ownPath_mem (c : Component) : c.ownPath ∈ c.importPaths := by
  simp [importPaths, files, ownPath]

/-- The path of a component's own file leads to a file that bears its name. -/
lemma fileName_ownPath (c : Component) : fileName c.ownPath = c.name ++ ".sol" := by
  have hfolder : '/' ∈ c.folder.toList.getLast? := by
    cases c <;> decide
  have hname : '/' ∉ (c.name ++ ".sol").toList := by
    have hpart : '/' ∉ c.name.toList := fun hmem =>
      absurd (c.isName_name.2.1 _ hmem) (by decide)
    have hending : '/' ∉ ".sol".toList := by decide
    rw [String.toList_append, List.mem_append, not_or]
    exact ⟨hpart, hending⟩
  have hpath : (library ++ c.folder).toList.getLast? = c.folder.toList.getLast? := by
    obtain ⟨front, hfront⟩ := List.getLast?_eq_some_iff.mp hfolder
    rw [String.toList_append, hfront, ← List.append_assoc, List.getLast?_concat,
      List.getLast?_concat]
  have hsplit : c.ownPath = library ++ c.folder ++ (c.name ++ ".sol") := by
    simp only [ownPath, file, String.append_assoc]
  rw [hsplit, fileName_append (hpath ▸ hfolder) hname]

/-- A file that several components need bears the name of none. -/
lemma fileName_sharedFiles {c d : Component} :
    ∀ file ∈ d.sharedFiles, fileName (library ++ file) ≠ c.name ++ ".sol" := by
  have hname : c.name.toList ≠ "Pausable".toList := by
    cases c <;> decide
  have hsplit : library ++ "utils/Pausable.sol" = library ++ "utils/" ++ "Pausable.sol" := by
    decide
  have hshared : fileName (library ++ "utils/Pausable.sol") ≠ c.name ++ ".sol" := by
    rw [hsplit, fileName_append (by decide) (by decide)]
    intro h
    have hchars := congrArg String.toList h
    have hpausable : "Pausable.sol".toList = "Pausable".toList ++ ".sol".toList := by decide
    rw [String.toList_append, hpausable] at hchars
    exact hname (List.append_cancel_right hchars).symm
  have hfiles : d.sharedFiles = [] ∨ d.sharedFiles = ["utils/Pausable.sol"] := by
    cases d <;> decide
  rcases hfiles with h | h
  · simp [h]
  · rw [h]
    exact List.forall_mem_singleton.mpr hshared

/-- **Of all paths that components need one leads to the file of a given component.** -/
theorem fileName_eq_iff {c d : Component} {path : String} (hpath : path ∈ d.importPaths) :
    fileName path = c.name ++ ".sol" ↔ path = c.ownPath := by
  constructor
  · intro h
    rw [importPaths, files, List.map_cons, List.mem_cons, List.mem_map] at hpath
    rcases hpath with rfl | ⟨file, hfile, rfl⟩
    · have hchars := congrArg String.toList (d.fileName_ownPath.symm.trans h)
      rw [String.toList_append, String.toList_append] at hchars
      rw [name_injective (String.toList_injective (List.append_cancel_right hchars))]
      rfl
    · exact absurd h (fileName_sharedFiles file hfile)
  · rintro rfl
    exact c.fileName_ownPath

end Component

end TokenLaunch
