/-
# Brackets

A text is balanced when its round, square and curly brackets are nested: reading from left to
right, a closing bracket closes the bracket that was opened last, and nothing is left open.

What is pending below does not matter to a balanced text (`Balanced.after_eq`), so balanced texts
may be put one after another and between brackets.  `depth_pos_iff` tells where a text is inside
the pair of curly brackets that encloses all others.
-/
import Mathlib.Tactic

namespace TokenLaunch
namespace Solidity

/-! ## Brackets -/

namespace Brackets

/-- The bracket that closes an opening bracket. -/
def closer? : Char → Option Char
  | '(' => some ')'
  | '[' => some ']'
  | '{' => some '}'
  | _ => none

/-- The closing brackets. -/
def closers : List Char := [')', ']', '}']

/-- What is still to be closed after one more character, the next closing bracket first; nothing is
known any more after a bracket that closes what is not open. -/
def next (pending : List Char) (c : Char) : Option (List Char) :=
  match closer? c with
  | some d => some (d :: pending)
  | none =>
    if c ∈ closers then (if pending.head? = some c then some pending.tail else none)
    else some pending

/-- What is still to be closed after a text. -/
def after : List Char → List Char → Option (List Char)
  | pending, [] => some pending
  | pending, c :: cs => (next pending c).bind fun pending => after pending cs

/-- How many more curly brackets a text opens than it closes. -/
def depth (cs : List Char) : ℤ :=
  cs.count '{' - cs.count '}'

@[simp] lemma after_nil (pending : List Char) : after pending [] = some pending := rfl

lemma after_append (pending a b : List Char) :
    after pending (a ++ b) = (after pending a).bind fun pending => after pending b := by
  induction a generalizing pending with
  | nil => rfl
  | cons c a ih =>
    rw [List.cons_append, after, after, Option.bind_assoc]
    exact Option.bind_congr fun p _ => ih p

/-- What one character can do. -/
lemma next_cases {pending pending' : List Char} {c : Char} (h : next pending c = some pending') :
    (∃ d, closer? c = some d ∧ pending' = d :: pending) ∨
      (closer? c = none ∧ c ∈ closers ∧ pending = c :: pending') ∨
      (closer? c = none ∧ c ∉ closers ∧ pending' = pending) := by
  unfold next at h
  cases hc : closer? c with
  | some d =>
    simp only [hc, Option.some.injEq] at h
    exact .inl ⟨d, rfl, h.symm⟩
  | none =>
    simp only [hc] at h
    split_ifs at h with hmem hhead
    · obtain ⟨rest, rfl⟩ := List.head?_eq_some_iff.mp hhead
      exact .inr (.inl ⟨rfl, hmem, by simpa using h⟩)
    · exact .inr (.inr ⟨rfl, hmem, (Option.some.inj h).symm⟩)

/-- What is pending below does not matter to a text that gets along without it. -/
lemma after_append_pending {pending pending' cs : List Char} (h : after pending cs = some pending')
    (below : List Char) : after (pending ++ below) cs = some (pending' ++ below) := by
  induction cs generalizing pending with
  | nil => simpa [after] using h
  | cons c cs ih =>
    obtain ⟨p, hp, hafter⟩ := Option.bind_eq_some_iff.mp h
    have hnext : next (pending ++ below) c = some (p ++ below) := by
      rcases next_cases hp with ⟨d, hc, rfl⟩ | ⟨hc, hmem, rfl⟩ | ⟨hc, hmem, rfl⟩
      · simp [next, hc]
      · simp [next, hc, hmem]
      · simp [next, hc, hmem]
    rw [after, hnext]
    exact ih hafter

lemma depth_cons (c : Char) (cs : List Char) : depth (c :: cs) = depth [c] + depth cs := by
  simp only [depth, ← List.singleton_append (x := c) (l := cs), List.count_append]
  push_cast
  ring

lemma depth_append (a b : List Char) : depth (a ++ b) = depth a + depth b := by
  simp only [depth, List.count_append]
  push_cast
  ring

/-- A text without curly brackets opens none. -/
lemma depth_eq_zero {cs : List Char} (hopen : '{' ∉ cs) (hclose : '}' ∉ cs) : depth cs = 0 := by
  simp [depth, List.count_eq_zero_of_not_mem hopen, List.count_eq_zero_of_not_mem hclose]

/-- The curly brackets that are pending are those that the text has left open. -/
lemma count_after {pending pending' cs : List Char} (h : after pending cs = some pending') :
    (pending'.count '}' : ℤ) = pending.count '}' + depth cs := by
  induction cs generalizing pending with
  | nil => simp_all [after, depth]
  | cons c cs ih =>
    obtain ⟨p, hp, hafter⟩ := Option.bind_eq_some_iff.mp h
    have hstep : (p.count '}' : ℤ) = pending.count '}' + depth [c] := by
      rcases next_cases hp with ⟨d, hc, rfl⟩ | ⟨hc, hmem, rfl⟩ | ⟨hc, hmem, rfl⟩
      -- an opening bracket, a closing bracket, any other character
      · unfold closer? at hc
        split at hc <;> cases hc <;> simp [depth]
      · simp only [closers, List.mem_cons, List.not_mem_nil, or_false] at hmem
        rcases hmem with rfl | rfl | rfl <;> simp [depth]
      · have hopen : c ≠ '{' := by
          rintro rfl
          cases hc
        have hclose : c ≠ '}' := by
          rintro rfl
          exact hmem (by decide)
        simp [depth_eq_zero, hopen.symm, hclose.symm]
    rw [ih hafter, hstep, depth_cons c cs, add_assoc]

end Brackets

/-- A text whose brackets are nested. -/
def Balanced (cs : List Char) : Prop :=
  Brackets.after [] cs = some []

instance (cs : List Char) : Decidable (Balanced cs) :=
  inferInstanceAs (Decidable (_ = _))

namespace Balanced

variable {a b cs : List Char}

/-- Whatever is pending in front of a balanced text is pending after it. -/
lemma after_eq (h : Balanced cs) (pending : List Char) :
    Brackets.after pending cs = some pending := by
  simpa using Brackets.after_append_pending h pending

lemma nil : Balanced [] := rfl

lemma append (ha : Balanced a) (hb : Balanced b) : Balanced (a ++ b) := by
  rw [Balanced, Brackets.after_append, ha.after_eq, Option.bind_some, hb.after_eq]

lemma flatMap {α : Type} {xs : List α} {f : α → List Char} (h : ∀ x ∈ xs, Balanced (f x)) :
    Balanced (xs.flatMap f) := by
  induction xs with
  | nil => exact nil
  | cons x xs ih =>
    obtain ⟨hx, hxs⟩ := List.forall_mem_cons.mp h
    rw [List.flatMap_cons]
    exact hx.append (ih hxs)

/-- A balanced text between brackets. -/
lemma wrap (h : Balanced cs) {c d : Char} (hc : Brackets.closer? c = some d) :
    Balanced (c :: (cs ++ [d])) := by
  have hd : Brackets.closer? d = none ∧ d ∈ Brackets.closers := by
    unfold Brackets.closer? at hc
    split at hc <;> cases hc <;> decide
  have hopen : Brackets.next [] c = some [d] := by simp [Brackets.next, hc]
  have hclose : Brackets.next [d] d = some [] := by simp [Brackets.next, hd]
  rw [Balanced, Brackets.after, hopen, Option.bind_some, Brackets.after_append, h.after_eq,
    Option.bind_some, Brackets.after, hclose, Option.bind_some, Brackets.after_nil]

/-- A balanced text closes no curly bracket that it has not opened, and opens none that it does not
close. -/
lemma depth_eq (h : Balanced cs) : Brackets.depth cs = 0 := by
  simpa using (Brackets.count_after h).symm

lemma depth_nonneg (h : Balanced (a ++ b)) : 0 ≤ Brackets.depth a := by
  rw [Balanced, Brackets.after_append] at h
  obtain ⟨pending, ha, -⟩ := Option.bind_eq_some_iff.mp h
  have hcount := Brackets.count_after ha
  simp only [List.count_nil, Nat.cast_zero, zero_add] at hcount
  omega

end Balanced

/-- **Where a text is inside its curly brackets**: in a text whose only curly brackets are one pair
and those of the balanced text between them, the depth is positive exactly between the two. -/
lemma depth_pos_iff {front inner back p rest : List Char}
    (hfront : '{' ∉ front ∧ '}' ∉ front) (hinner : Balanced inner)
    (hback : '{' ∉ back ∧ '}' ∉ back) (h : front ++ '{' :: (inner ++ '}' :: back) = p ++ rest) :
    0 < Brackets.depth p ↔ front.length < p.length ∧ back.length < rest.length := by
  have hfront_depth : Brackets.depth front = 0 := Brackets.depth_eq_zero hfront.1 hfront.2
  have hopen : Brackets.depth ['{'] = 1 := by decide
  have hclose : Brackets.depth ['}'] = -1 := by decide
  -- the prefix ends in front, between the two brackets, or behind them
  rcases List.append_eq_append_iff.mp h with ⟨q, rfl, hq⟩ | ⟨q, rfl, rfl⟩
  · cases q with
    | nil => simp [hfront_depth]
    | cons c q =>
      obtain ⟨rfl, hinside⟩ := List.cons.inj hq
      have hdepth : Brackets.depth (front ++ '{' :: q) = 1 + Brackets.depth q := by
        rw [Brackets.depth_append, Brackets.depth_cons, hfront_depth, hopen, zero_add]
      rcases List.append_eq_append_iff.mp hinside with ⟨r, rfl, hr⟩ | ⟨r, rfl, rfl⟩
      · cases r with
        | nil =>
          have hrest : rest = '}' :: back := hr.symm
          rw [hdepth, List.append_nil, hinner.depth_eq, hrest]
          simp
        | cons d r =>
          -- the last curly bracket is closed
          obtain ⟨rfl, rfl⟩ := List.cons.inj hr
          have hr_depth : Brackets.depth r = 0 :=
            Brackets.depth_eq_zero (fun hmem => hback.1 (List.mem_append_left _ hmem))
              fun hmem => hback.2 (List.mem_append_left _ hmem)
          rw [hdepth, Brackets.depth_append, Brackets.depth_cons, hinner.depth_eq, hclose, hr_depth]
          simp
      · have hnonneg := hinner.depth_nonneg
        simp only [hdepth, List.length_append, List.length_cons]
        omega
  · have hp : Brackets.depth p = 0 :=
      Brackets.depth_eq_zero (fun hmem => hfront.1 (List.mem_append_left _ hmem))
        fun hmem => hfront.2 (List.mem_append_left _ hmem)
    simp [hp]

end Solidity
end TokenLaunch
