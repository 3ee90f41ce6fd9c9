/-
# Fields that are read back

A record writes each of its fields under a name of its own, so each is found under that name
(`Fields.lookup?_of_mem`), wherever it stands among the members.  A list is read item by item
(`list?_map`).  In the other direction, what was read under a name was read from some value
(`Fields.exists_of_required?`, `Fields.exists_of_optional?`, `exists_of_list?`).  What is found of a
field depends on the values under its names only, and not on their order (`Fields.lookup?_congr`).
-/
import Mathlib.Tactic
import TokenLaunch.Json.Fields

namespace TokenLaunch
namespace Json

variable {α β v : Type}

/-! ## Lists -/

lemma list?_array (read : Json → Option α) (items : List Json) :
    list? read (.array items) = items.mapM read := rfl

/-- A list is read item by item. -/
lemma list?_map {read : Json → Option β} {write : α → Json} {back : α → β} {as : List α}
    (h : ∀ a ∈ as, read (write a) = some (back a)) :
    list? read (.array (as.map write)) = some (as.map back) := by
  rw [list?_array]
  induction as with
  | nil => rfl
  | cons a as ih =>
    rw [List.forall_mem_cons] at h
    simp [List.mapM_cons, h.1, ih h.2]

/-- What is in a list was read from an item. -/
lemma exists_of_list? {read : Json → Option α} {j : Json} {as : List α}
    (h : list? read j = some as) {a : α} (ha : a ∈ as) : ∃ i, read i = some a := by
  obtain ⟨items, -, hitems⟩ := Option.bind_eq_some_iff.mp h
  clear h
  induction items generalizing as with
  | nil =>
    obtain rfl : [] = as := by simpa using hitems
    simp at ha
  | cons i items ih =>
    simp only [List.mapM_cons, Option.bind_eq_bind, Option.bind_eq_some_iff, Option.pure_def,
      Option.some.injEq] at hitems
    obtain ⟨b, hb, bs, hbs, rfl⟩ := hitems
    rcases List.mem_cons.mp ha with rfl | ha
    · exact ⟨i, hb⟩
    · exact ih ha hbs

/-! ## Fields -/

namespace Fields

variable {ms : List (String × v)} {n : String} {x : v}

/-- A field is found under its name. -/
lemma lookup?_of_mem (hnodup : (ms.map Prod.fst).Nodup) (hmem : (n, x) ∈ ms) :
    lookup? [n] ms = some (some x) := by
  have hfilter : ms.filter (fun m => [n].contains m.1) = [(n, x)] := by
    induction ms with
    | nil => simp at hmem
    | cons m ms ih =>
      rw [List.map_cons, List.nodup_cons] at hnodup
      rcases List.mem_cons.mp hmem with rfl | hmem
      · -- the name stands nowhere else
        have hrest : ms.filter (fun m => [n].contains m.1) = [] := by
          rw [List.filter_eq_nil_iff]
          intro m hm hn
          obtain rfl : m.1 = n := by simpa using hn
          exact hnodup.1 (List.mem_map.mpr ⟨m, hm, rfl⟩)
        rw [List.filter_cons_of_pos (by simp), hrest]
      · have hne : m.1 ≠ n := by
          rintro rfl
          exact hnodup.1 (List.mem_map.mpr ⟨_, hmem, rfl⟩)
        rw [List.filter_cons_of_neg (by simpa using hne), ih hnodup.2 hmem]
  rw [lookup?, hfilter]

lemma required?_of_mem {read : v → Option α} (hnodup : (ms.map Prod.fst).Nodup)
    (hmem : (n, x) ∈ ms) : required? [n] read ms = read x := by
  rw [required?, lookup?_of_mem hnodup hmem]
  rfl

lemma optional?_of_mem {read : v → Option α} {default : α} (hnodup : (ms.map Prod.fst).Nodup)
    (hmem : (n, x) ∈ ms) : optional? [n] read default ms = read x := by
  rw [optional?, lookup?_of_mem hnodup hmem]
  rfl

/-- What was required was read from a value. -/
lemma exists_of_required? {names : List String} {read : v → Option α} {a : α}
    (h : required? names read ms = some a) : ∃ x, read x = some a := by
  obtain ⟨found, -, h⟩ := Option.bind_eq_some_iff.mp h
  obtain ⟨x, -, hx⟩ := Option.bind_eq_some_iff.mp h
  exact ⟨x, hx⟩

/-- What was read of a field with a default is the default, or was read from a value. -/
lemma exists_of_optional? {names : List String} {read : v → Option α} {default a : α}
    (h : optional? names read default ms = some a) : a = default ∨ ∃ x, read x = some a := by
  obtain ⟨found, -, h⟩ := Option.bind_eq_some_iff.mp h
  cases found with
  | none => exact .inl (Option.some.inj h).symm
  | some x => exact .inr ⟨x, h⟩

/-! ## Records in any order -/

/-- The values under the given names. -/
def under (names : List String) (ms : List (String × v)) : List v :=
  (ms.filter fun m => names.contains m.1).map Prod.snd

lemma under_append (names : List String) (ms ms' : List (String × v)) :
    under names (ms ++ ms') = under names ms ++ under names ms' := by
  rw [under, List.filter_append, List.map_append, under, under]

lemma under_cons_of_mem {names : List String} (h : n ∈ names) :
    under names ((n, x) :: ms) = x :: under names ms := by
  rw [under, List.filter_cons_of_pos (by simpa using h), List.map_cons, under]

lemma under_cons_of_not_mem {names : List String} (h : n ∉ names) :
    under names ((n, x) :: ms) = under names ms := by
  rw [under, List.filter_cons_of_neg (by simpa using h), under]

lemma under_perm {names : List String} {ms ms' : List (String × v)} (h : ms.Perm ms') :
    (under names ms).Perm (under names ms') :=
  (h.filter _).map _

/-- The only one of the values, nothing inside if there is none, and nothing at all if there are
several. -/
def sole? : List v → Option (Option v)
  | [] => some none
  | [x] => some (some x)
  | _ => none

lemma sole?_congr {us vs : List v} (h : us.Perm vs) : sole? us = sole? vs := by
  match vs with
  | [] => rw [h.eq_nil]
  | [x] => rw [List.perm_singleton.mp h]
  | x :: y :: rest =>
    have hlength := h.length_eq
    match us with
    | [] | [_] => simp at hlength
    | _ :: _ :: _ => rfl

lemma lookup?_eq_sole? (names : List String) (ms : List (String × v)) :
    lookup? names ms = sole? (under names ms) := by
  rw [lookup?, under]
  generalize ms.filter (fun m => names.contains m.1) = found
  rcases found with _ | ⟨m, _ | ⟨m', rest⟩⟩ <;> rfl

/-- What is found of a field depends on the values under its names, in any order. -/
lemma lookup?_congr {names : List String} {ms ms' : List (String × v)}
    (h : (under names ms').Perm (under names ms)) : lookup? names ms' = lookup? names ms := by
  rw [lookup?_eq_sole?, lookup?_eq_sole?, sole?_congr h]

lemma lookup?_eq_some_iff {names : List String} {ms : List (String × v)} {found : Option v} :
    lookup? names ms = some found ↔ under names ms = found.toList := by
  rw [lookup?_eq_sole?]
  rcases under names ms with _ | ⟨x, _ | ⟨y, rest⟩⟩ <;> cases found <;> simp [sole?]

lemma required?_eq_some_iff {names : List String} {read : v → Option α} {a : α} :
    required? names read ms = some a ↔ ∃ x, under names ms = [x] ∧ read x = some a := by
  rw [required?, lookup?_eq_sole?]
  rcases under names ms with _ | ⟨x, _ | ⟨y, rest⟩⟩ <;> simp [sole?]

/-- What is read of a required field depends on what the values under its names read as, in any
order. -/
lemma required?_congr {names : List String} {read : v → Option α} {ms ms' : List (String × v)}
    (h : ((under names ms').map read).Perm ((under names ms).map read)) :
    required? names read ms' = required? names read ms := by
  have hread (ms : List (String × v)) : required? names read ms =
      (sole? ((under names ms).map read)).bind fun found => found.bind id := by
    rw [required?, lookup?_eq_sole?]
    rcases under names ms with _ | ⟨x, _ | ⟨y, rest⟩⟩ <;> rfl
  rw [hread, hread, sole?_congr h]

/-- A record without the fields that go by the given names. -/
def without (names : List String) (ms : List (String × v)) : List (String × v) :=
  ms.filter fun m => !names.contains m.1

lemma under_without_self (names : List String) (ms : List (String × v)) :
    under names (without names ms) = [] := by
  rw [under, without, List.filter_filter, List.map_eq_nil_iff, List.filter_eq_nil_iff]
  simp

lemma under_without_of_disjoint {names others : List String} (h : names.Disjoint others)
    (ms : List (String × v)) : under names (without others ms) = under names ms := by
  rw [under, without, List.filter_filter, under]
  congr 1
  refine List.filter_congr fun m _ => ?_
  by_cases hm : m.1 ∈ names
  · have hothers : m.1 ∉ others := fun hothers => h hm hothers
    simp [hm, hothers]
  · simp [hm]

lemma optional?_eq_some_iff {names : List String} {read : v → Option α} {default a : α} :
    optional? names read default ms = some a ↔
      ∃ found, lookup? names ms = some found ∧ found.elim (some default) read = some a := by
  rw [optional?, Option.bind_eq_some_iff]
  refine exists_congr fun found => and_congr_right fun _ => ?_
  cases found <;> rfl

end Fields
end Json
end TokenLaunch
