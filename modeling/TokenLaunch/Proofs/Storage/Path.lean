/-
# The names on a path

The names on a path are what its text holds between the slashes.  A text that is put together from
names and slashes has just those names (`pieces_intercalate`), so a path with another file name
leads the same way up to that name, and ends in it (`names_withFileName`).
-/
import Mathlib.Tactic
import TokenLaunch.Storage.Path

namespace TokenLaunch
namespace Path

/-! ## Pieces -/

section Pieces

variable {piece rest : List Char}

lemma pieces_of_not_mem (h : '/' ∉ piece) : pieces piece = [piece] := by
  induction piece with
  | nil => rfl
  | cons c cs ih =>
    rw [List.mem_cons, not_or] at h
    rw [pieces, if_neg (Ne.symm h.1), ih h.2]

lemma pieces_append (h : '/' ∉ piece) : pieces (piece ++ '/' :: rest) = piece :: pieces rest := by
  induction piece with
  | nil => rfl
  | cons c cs ih =>
    rw [List.mem_cons, not_or] at h
    rw [List.cons_append, pieces, if_neg (Ne.symm h.1), ih h.2]

lemma slash_not_mem (cs : List Char) : ∀ piece ∈ pieces cs, '/' ∉ piece := by
  induction cs with
  | nil => simp [pieces]
  | cons c cs ih =>
    rw [pieces]
    split_ifs with hc
    · simpa using ih
    · split
      · next p ps heq =>
        rw [heq, List.forall_mem_cons] at ih
        rw [List.forall_mem_cons, List.mem_cons, not_or]
        exact ⟨⟨Ne.symm hc, ih.1⟩, ih.2⟩
      · simpa using Ne.symm hc

/-- The pieces of a text that is put together with slashes. -/
lemma pieces_intercalate {ps : List (List Char)} (hne : ps ≠ []) (h : ∀ p ∈ ps, '/' ∉ p) :
    pieces (['/'].intercalate ps) = ps := by
  induction ps with
  | nil => exact absurd rfl hne
  | cons p ps ih =>
    rw [List.forall_mem_cons] at h
    cases ps with
    | nil => simp [pieces_of_not_mem h.1]
    | cons q qs =>
      rw [List.intercalate_cons_cons, List.append_assoc, List.singleton_append, pieces_append h.1,
        ih (by simp) h.2]

end Pieces

/-! ## Names -/

variable {p : Path} {name : String}

/-- Whether a text can be a name on a path. -/
def IsName (name : String) : Prop :=
  '/' ∉ name.toList ∧ isIdle name.toList = false

lemma isName_of_mem_names (h : name ∈ p.names) : IsName name := by
  obtain ⟨piece, hpiece, rfl⟩ := List.mem_map.mp h
  obtain ⟨hmem, hidle⟩ := List.mem_filter.mp hpiece
  rw [IsName, String.toList_ofList]
  exact ⟨slash_not_mem _ piece hmem, by simpa using hidle⟩

/-- The path that leads along names, from the root of the machine or not. -/
def along (absolute : Bool) (names : List String) : Path :=
  ⟨(if absolute then "/" else "") ++ "/".intercalate names⟩

section Along

variable {names : List String} (hne : names ≠ []) (h : ∀ n ∈ names, IsName n) (absolute : Bool)
include hne h

lemma pieces_along : pieces (along absolute names).text.toList =
    (if absolute then [[]] else []) ++ names.map String.toList := by
  have hpieces : pieces (['/'].intercalate (names.map String.toList)) = names.map String.toList :=
    pieces_intercalate (by simpa using hne) (by simpa using fun n hn => (h n hn).1)
  have htext : (along absolute names).text.toList =
      (if absolute then ['/'] else []) ++ ['/'].intercalate (names.map String.toList) := by
    rw [along, String.toList_append, String.toList_intercalate]
    cases absolute <;> rfl
  rw [htext]
  cases absolute with
  | false => exact hpieces
  | true => exact congrArg (List.cons []) hpieces

/-- A path along names has just those names. -/
lemma names_along : (along absolute names).names = names := by
  have hkept : (names.map String.toList).filter (fun piece => !isIdle piece) =
      names.map String.toList := by
    rw [List.filter_eq_self]
    simpa using fun n hn => (h n hn).2
  have hfront : (if absolute then [[]] else []).filter (fun piece => !isIdle piece) = [] := by
    cases absolute <;> rfl
  rw [Path.names, pieces_along hne h, List.filter_append, hfront, hkept]
  simp

lemma isAbsolute_along : (along absolute names).isAbsolute = absolute := by
  cases absolute with
  | true => simp [isAbsolute, along]
  | false =>
    obtain ⟨n, ns, rfl⟩ := List.exists_cons_of_ne_nil hne
    have hpieces := pieces_along hne h false
    rw [isAbsolute, beq_eq_false_iff_ne]
    intro hhead
    -- a slash at the start would make the first name empty
    obtain ⟨rest, hrest⟩ := List.head?_eq_some_iff.mp hhead
    rw [hrest, pieces, if_pos rfl] at hpieces
    have hidle := (h n List.mem_cons_self).2
    rw [← (List.cons.inj hpieces).1] at hidle
    exact absurd hidle (by decide)

end Along

/-- The way to a path's end, without the name of a file at its end. -/
def before (p : Path) : List String :=
  if p.fileName?.isSome then p.names.dropLast else p.names

/-- A path with a file name is the way to the file and that name. -/
lemma names_of_fileName? (h : p.fileName? = some name) :
    p.names = p.before ++ [name] ∧ name ≠ ".." := by
  have hbefore : p.before = p.names.dropLast := by simp [before, h]
  obtain ⟨hlast, hne⟩ := Option.filter_eq_some_iff.mp h
  rw [hbefore]
  exact ⟨(List.dropLast_append_getLast? name hlast).symm, by simpa using hne⟩

lemma before_of_fileName?_eq_none (h : p.fileName? = none) : p.before = p.names := by
  simp [before, h]

lemma isName_before (h : IsName name) : ∀ n ∈ p.before ++ [name], IsName n := by
  intro n hn
  rcases List.mem_append.mp hn with hn | hn
  · refine isName_of_mem_names (p := p) ?_
    unfold before at hn
    split_ifs at hn
    · exact List.mem_of_mem_dropLast hn
    · exact hn
  · rwa [List.mem_singleton.mp hn]

/-- A path with another file name leads the same way up to that name. -/
lemma names_withFileName (h : IsName name) : (p.withFileName name).names = p.before ++ [name] :=
  names_along (by simp) (isName_before h) _

lemma isAbsolute_withFileName (h : IsName name) :
    (p.withFileName name).isAbsolute = p.isAbsolute :=
  isAbsolute_along (by simp) (isName_before h) _

end Path
end TokenLaunch
