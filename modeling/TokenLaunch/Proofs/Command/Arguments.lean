/-
# One more option

What an option does to what has been read rarely depends on the rest of it.  If a change to what has
been read goes past every option (`Effect.Follows`), then arguments that are read after the change
are read as before, but for the change (`read_follows`).  So an option that may be given once, and
is not given, can as well be given in front of all others.

The options before a command end at its name, and what comes after the name is handed on unread
(`exists_front_of_read`).
-/
import Mathlib.Tactic
import TokenLaunch.Command.Arguments

namespace TokenLaunch
namespace Arguments

variable {σ τ : Type}

/-! ## Steps of reading -/

/-- What comes of an argument of one dash and more. -/
def readOption (ps : List (Parameter σ)) (c : Char) (cs : List Char) (s : σ) :
    Except Stop (Reading σ) :=
  if c == '-' then readLong ps cs s else readShort ps (c :: cs) s

section Steps

variable {g : Grammar σ} {arg text : String} {rest : List String} {c : Char} {cs : List Char}
  {s s' : σ} {set : String → Option σ}

lemma read_cons_done (harg : arg.toList = '-' :: c :: cs) (hdashes : c = '-' → cs ≠ [])
    (h : readOption g.parameters c cs s = .ok (.done s')) :
    read g (arg :: rest) s = read g rest s' := by
  unfold readOption at h
  rw [read]
  split
  · next heq =>
    obtain ⟨-, heq⟩ := List.cons.inj (harg.symm.trans heq)
    exact absurd (List.cons.inj heq).2 (hdashes (List.cons.inj heq).1)
  · next heq =>
    obtain ⟨-, heq⟩ := List.cons.inj (harg.symm.trans heq)
    obtain ⟨rfl, rfl⟩ := List.cons.inj heq
    rw [h]
  · next hnone => exact absurd harg (hnone c cs)

lemma read_cons_awaiting (harg : arg.toList = '-' :: c :: cs) (hdashes : c = '-' → cs ≠ [])
    (h : readOption g.parameters c cs s = .ok (.awaiting set))
    (htext : (if canBeValue text then set text else none) = some s') :
    read g (arg :: text :: rest) s = read g rest s' := by
  unfold readOption at h
  rw [read]
  split
  · next heq =>
    obtain ⟨-, heq⟩ := List.cons.inj (harg.symm.trans heq)
    exact absurd (List.cons.inj heq).2 (hdashes (List.cons.inj heq).1)
  · next heq =>
    obtain ⟨-, heq⟩ := List.cons.inj (harg.symm.trans heq)
    obtain ⟨rfl, rfl⟩ := List.cons.inj heq
    simp only [h, htext]
  · next hnone => exact absurd harg (hnone c cs)

end Steps

/-! ## Changes that go past options -/

/-- Whether a change `f` goes past a step, at least where the step ends well: then it began well,
and after the change it ends in the changed end. -/
def Follows (f : σ → σ) (P : σ → Prop) (step : σ → Option σ) : Prop :=
  ∀ s s', step s = some s' → P s' → P s ∧ step (f s) = some (f s')

/-- Whether a change goes past an option. -/
def Effect.Follows (f : σ → σ) (P : σ → Prop) : Effect σ → Prop
  | .switch set => Arguments.Follows f P set
  | .value set => ∀ text, Arguments.Follows f P (set text)
  | .stop _ => True

/-- What has been read in the end, if a next argument serves as the value that is awaited. -/
def Reading.ended : Reading σ → Option String → Option σ
  | .done s, none => some s
  | .awaiting set, some text => set text
  | .done _, some _ | .awaiting _, none => none

/-- What has been read in the end of one argument, and of a next one if a value is awaited. -/
def ended (read : σ → Except Stop (Reading σ)) (value : Option String) (s : σ) : Option σ :=
  (read s).toOption.bind (Reading.ended · value)

section Follows

variable {f : σ → σ} {P : σ → Prop} {ps : List (Parameter σ)} {g : Grammar σ}
  {read : σ → Except Stop (Reading σ)}

lemma Follows.comp {step step' : σ → Option σ} (h : Follows f P step) (h' : Follows f P step') :
    Follows f P fun s => (step s).bind step' := by
  intro s s'' hs hP
  obtain ⟨s', hs', hs''⟩ := Option.bind_eq_some_iff.mp hs
  obtain ⟨hP', hnext⟩ := h' s' s'' hs'' hP
  obtain ⟨hP, hfirst⟩ := h s s' hs' hP'
  refine ⟨hP, ?_⟩
  calc (step (f s)).bind step' = step' (f s') := by rw [hfirst, Option.bind_some]
    _ = some (f s'') := hnext

/-- What is read to its end is read to the changed end after the change. -/
lemma exists_of_ended {s s' : σ} {value : Option String} (h : ∀ v, Follows f P (ended read v))
    (hs : ended read value s = some s') (hP : P s') :
    P s ∧ ∃ r, read (f s) = .ok r ∧ r.ended value = some (f s') := by
  obtain ⟨hstart, hend⟩ := h value s s' hs hP
  obtain ⟨r, hr, hended⟩ := Option.bind_eq_some_iff.mp hend
  refine ⟨hstart, r, ?_, hended⟩
  revert hr
  cases read (f s) with
  | error reason => exact nofun
  | ok r' =>
    rintro ⟨⟩
    rfl

lemma effect_follows (h : ∀ p ∈ ps, p.effect.Follows f P) {b : Parameter σ → Bool} {e : Effect σ}
    (he : (ps.find? b).map Parameter.effect = some e) : e.Follows f P := by
  obtain ⟨p, hp, rfl⟩ := Option.map_eq_some_iff.mp he
  exact h p (List.mem_of_find?_eq_some hp)

lemma ended_obeyed (step : σ → Option σ) (value : Option String) :
    ended (fun s => obeyed (step s)) value = if value.isNone then step else fun _ => none := by
  funext s
  cases value <;> cases h : step s <;> simp [ended, obeyed, Reading.ended, h, Except.toOption]

lemma follows_obeyed {step : σ → Option σ} (h : Follows f P step) (value : Option String) :
    Follows f P (ended (fun s => obeyed (step s)) value) := by
  rw [ended_obeyed]
  split_ifs
  · exact h
  · exact fun _ _ => nofun

lemma follows_awaiting {set : String → σ → Option σ} (h : ∀ text, Follows f P (set text))
    (value : Option String) :
    Follows f P (ended (fun s => .ok (.awaiting fun text => set text s)) value) := by
  cases value with
  | none => exact fun _ _ => nofun
  | some text => exact h text

lemma follows_readLong (h : ∀ p ∈ ps, p.effect.Follows f P) (cs : List Char)
    (value : Option String) : Follows f P (ended (readLong ps cs) value) := by
  unfold readLong
  dsimp only
  split
  · next set he _ => exact follows_obeyed (effect_follows h he) value
  · next set text he _ => exact follows_obeyed (effect_follows h he (String.ofList text)) value
  · next set he _ => exact follows_awaiting (effect_follows h he) value
  · exact fun _ _ => nofun
  · exact fun _ _ => nofun

lemma follows_readShort (h : ∀ p ∈ ps, p.effect.Follows f P) (cs : List Char)
    (value : Option String) : Follows f P (ended (readShort ps cs) value) := by
  induction cs with
  | nil =>
    cases value with
    | none =>
      rintro s _ ⟨⟩ hP
      exact ⟨hP, rfl⟩
    | some text => exact fun _ _ => nofun
  | cons c rest ih =>
    cases he : (ps.find? fun p => p.short == some c).map Parameter.effect with
    | none => exact fun s s' hs => absurd hs (by simp [ended, readShort, he, Except.toOption])
    | some e =>
      have hfollows := effect_follows h he
      cases e with
      | switch set =>
        -- the option of this name first, and then those of the other names
        have hread : ended (readShort ps (c :: rest)) value =
            fun s => (set s).bind (ended (readShort ps rest) value) := by
          funext s
          cases hs : set s <;> simp [ended, readShort, he, hs, Except.toOption]
        rw [hread]
        exact hfollows.comp ih
      | value set =>
        cases rest with
        | nil =>
          have hread : readShort ps [c] = fun s => .ok (.awaiting fun text => set text s) := by
            funext s
            simp [readShort, he]
          rw [hread]
          exact follows_awaiting hfollows value
        | cons c' text =>
          have hread : ∃ text', readShort ps (c :: c' :: text) = fun s => obeyed (set text' s) := by
            by_cases hc : c' = '='
            · refine ⟨String.ofList text, funext fun s => ?_⟩
              simp [readShort, he, hc]
            · refine ⟨String.ofList (c' :: text), funext fun s => ?_⟩
              simp [readShort, he, hc]
          obtain ⟨text', hread⟩ := hread
          rw [hread]
          exact follows_obeyed (hfollows text') value
      | stop reason => exact fun s s' hs => absurd hs (by simp [ended, readShort, he, Except.toOption])

lemma follows_readOption (h : ∀ p ∈ ps, p.effect.Follows f P) (c : Char) (cs : List Char)
    (value : Option String) : Follows f P (ended (readOption ps c cs) value) := by
  unfold readOption
  split_ifs
  · exact follows_readLong h cs value
  · exact follows_readShort h (c :: cs) value

lemma follows_readOperands {take : String → σ → Option σ} (h : ∀ text, Follows f P (take text))
    (args : List String) : Follows f P fun s => (readOperands take args s).toOption := by
  induction args with
  | nil =>
    rintro s _ ⟨⟩ hP
    exact ⟨hP, rfl⟩
  | cons arg rest ih =>
    have hrest : (fun s => (readOperands take (arg :: rest) s).toOption) =
        fun s => (take arg s).bind fun s => (readOperands take rest s).toOption := by
      funext s
      cases hs : take arg s <;> simp [readOperands, hs, Except.toOption]
    rw [hrest]
    exact (h arg).comp ih

/-- **Reading after a change.**  If a change goes past every option and every operand, arguments are
read after it as they are read before it, and what has been read in the end is changed. -/
theorem read_follows (h : ∀ p ∈ g.parameters, p.effect.Follows f P)
    (hoperand : ∀ take, g.operand = some take → ∀ text, Follows f P (take text))
    {args rest : List String} {s s' : σ} (hread : Arguments.read g args s = .ok (s', rest))
    (hP : P s') : P s ∧ Arguments.read g args (f s) = .ok (f s', rest) := by
  fun_induction Arguments.read g args s
  case case1 s =>
    cases hread
    exact ⟨hP, rfl⟩
  case case2 arg args s harg take htake =>
    cases hs : readOperands take args s with
    | error reason => simp [hs, Except.map] at hread
    | ok s₁ =>
      simp only [hs, Except.map, Except.ok.injEq, Prod.mk.injEq] at hread
      obtain ⟨rfl, rfl⟩ := hread
      obtain ⟨hstart, hend⟩ := follows_readOperands (hoperand take htake) args s s₁
        (by simp [hs, Except.toOption]) hP
      refine ⟨hstart, ?_⟩
      cases hfs : readOperands take args (f s) with
      | error reason => simp [hfs, Except.toOption] at hend
      | ok s₂ =>
        obtain rfl : s₂ = f s₁ := by simpa [hfs, Except.toOption] using hend
        simp [Arguments.read, harg, htake, hfs, Except.map]
  case case3 arg args s harg hnone hempty =>
    cases hread
    exact ⟨hP, by simp [Arguments.read, harg, hnone, hempty]⟩
  case case6 arg args s c cs hdashes harg s₁ hoption ih =>
    obtain ⟨hP₁, hrest⟩ := ih hread
    have hended : ended (readOption g.parameters c cs) none s = some s₁ := by
      simp only [ended, readOption, hoption, Except.toOption, Option.bind_some, Reading.ended]
    obtain ⟨hstart, r, hr, hend⟩ := exists_of_ended (follows_readOption h c cs) hended hP₁
    cases r with
    | awaiting set => cases hend
    | done s₂ =>
      obtain rfl := Option.some.inj hend
      exact ⟨hstart, by rw [read_cons_done harg hdashes hr, hrest]⟩
  case case8 arg s c cs hdashes harg set hoption text args s₁ htext ih =>
    obtain ⟨hP₁, hrest⟩ := ih hread
    have hvalue : canBeValue text = true ∧ set text = some s₁ := by simpa using htext
    have hended : ended (readOption g.parameters c cs) (some text) s = some s₁ := by
      simp only [ended, readOption, hoption, Except.toOption, Option.bind_some, Reading.ended,
        hvalue.2]
    obtain ⟨hstart, r, hr, hend⟩ := exists_of_ended (follows_readOption h c cs) hended hP₁
    cases r with
    | done s₂ => cases hend
    | awaiting set' =>
      have htext' : (if canBeValue text then set' text else none) = some (f s₁) := by
        rw [if_pos hvalue.1]
        exact hend
      exact ⟨hstart, by rw [read_cons_awaiting harg hdashes hr htext', hrest]⟩
  case case10 arg args s hnone _ _ =>
    cases hread
    exact ⟨hP, by simp [Arguments.read, hnone]⟩
  case case11 arg args s take htake s₁ hs₁ _ _ ih =>
    obtain ⟨hP₁, hrest⟩ := ih hread
    obtain ⟨hstart, hend⟩ := hoperand take htake arg s s₁ hs₁ hP₁
    exact ⟨hstart, by simp [Arguments.read, htake, hend, hrest]⟩
  all_goals cases hread

end Follows

/-! ## The options of a part -/

/-- A change of another part goes past the options of a part. -/
lemma Effect.follows_within (get : τ → σ) (put : σ → τ → τ) {f : τ → τ} {P : τ → Prop}
    (hget : ∀ t, get (f t) = get t) (hput : ∀ s t, f (put s t) = put s (f t))
    (hP : ∀ s t, P (put s t) → P t) (e : Effect σ) : (e.within get put).Follows f P := by
  have hstep (step : σ → Option σ) :
      Arguments.Follows f P fun t => (step (get t)).map fun s => put s t := by
    intro t t' ht ht'
    obtain ⟨s, hs, rfl⟩ := Option.map_eq_some_iff.mp ht
    exact ⟨hP s t ht', by simp only [hget, hs, Option.map_some, hput]⟩
  cases e with
  | switch set => exact hstep set
  | value set => exact fun text => hstep (set text)
  | stop reason => exact trivial

/-! ## The name of a command -/

/-- Where operands are names of commands, the first of them ends the arguments, and what comes after
it does not matter. -/
theorem exists_front_of_read {g : Grammar σ} (hg : g.operand = none) {args rest : List String}
    {name : String} {s s' : σ} (hread : read g args s = .ok (s', name :: rest)) :
    ∃ front, args = front ++ name :: rest ∧
      ∀ rest', read g (front ++ name :: rest') s = .ok (s', name :: rest') := by
  fun_induction read g args s
  case case2 arg args s harg take htake => cases hg.symm.trans htake
  case case6 arg args s c cs hdashes harg s₁ hoption ih =>
    obtain ⟨front, rfl, hfront⟩ := ih hread
    refine ⟨arg :: front, rfl, fun rest' => ?_⟩
    rw [List.cons_append, read_cons_done harg hdashes hoption, hfront]
  case case8 arg s c cs hdashes harg set hoption text args s₁ htext ih =>
    obtain ⟨front, rfl, hfront⟩ := ih hread
    refine ⟨arg :: text :: front, rfl, fun rest' => ?_⟩
    rw [List.cons_append, List.cons_append, read_cons_awaiting harg hdashes hoption htext, hfront]
  case case10 arg args s hnone _ _ =>
    cases hread
    exact ⟨[], rfl, fun rest' => by simp [read, hg]⟩
  case case11 arg args s take htake s₁ hs₁ _ _ ih => cases hg.symm.trans htake
  all_goals cases hread

end Arguments
end TokenLaunch
