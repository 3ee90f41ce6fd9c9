/-
# Decoding literals

Literals are a prefix-free code for strings.  A scanner that goes through a literal from its opening
quote on stops at the quote that closes it, whatever stands behind (`Literal.scan?_quoteChars`), and
undoing the escapes of what it has read gives the string back but for the characters that literals
leave out (`Literal.decode?_body`).  `Literal.quote_decodable` puts this together and draws the
conclusions: no literal is the beginning of another, and a literal of two strings joined is made of
what their literals say.

The literals of a whole text are found one by one in the same way (`literalsOf_text`).
-/
import TokenLaunch.Proofs.Source.Literals

namespace TokenLaunch
namespace Solidity

/-! ## Where a literal ends -/

namespace Scan

/-- From a place in a literal: what the literal says up to the quote that closes it, and what
follows that quote. -/
def close? : Scan → List Char → Option (List Char × List Char)
  | _, [] => none
  | s, c :: cs =>
    if s.next c = outside then some ([], cs)
    else (close? (s.next c) cs).map fun r => (c :: r.1, r.2)

/-- What is written for a character does not close the literal. -/
lemma close?_escape (c : Char) (rest : List Char) :
    inside.close? (Literal.escape c ++ rest) =
      (inside.close? rest).map fun r => (Literal.escape c ++ r.1, r.2) := by
  unfold Literal.escape
  split_ifs with hquote hslash hfeed hreturn htab hcontrol
  -- the character stands behind a backslash
  · simp [close?, next, Function.comp_def]
  · simp [close?, next, Function.comp_def]
  · simp [close?, next, Function.comp_def]
  · simp [close?, next, Function.comp_def]
  · simp [close?, next, Function.comp_def]
  -- or it is left out
  · simp
  -- or it stands as it is, and is neither a quote nor a backslash
  · simp [close?, next, hquote, hslash]

/-- A literal is closed by the quote behind its body. -/
lemma close?_body (cs rest : List Char) :
    inside.close? (Literal.body cs ++ '"' :: rest) = some (Literal.body cs, rest) := by
  induction cs with
  | nil => rfl
  | cons c cs ih =>
    rw [Literal.body_cons, List.append_assoc, close?_escape, ih]
    rfl

end Scan

namespace Literal

/-- A literal at the beginning of a text: what it says, and what follows it. -/
def scan? : List Char → Option (List Char × List Char)
  | '"' :: cs => Scan.inside.close? cs
  | _ => none

lemma scan?_quoteChars (cs rest : List Char) :
    scan? (quoteChars cs ++ rest) = some (body cs, rest) := by
  rw [quoteChars, List.cons_append, List.append_assoc, List.singleton_append, scan?,
    Scan.close?_body]

/-! ## Undoing escapes -/

/-- The escapes, each with the character that it stands for. -/
def escapes : List (Char × Char) :=
  [('"', '"'), ('\\', '\\'), ('n', '\n'), ('r', '\r'), ('t', '\t')]

/-- The string that the body of a literal stands for.  A backslash has to begin one of the escapes,
and no quote stands without one. -/
def decode? : List Char → Option (List Char)
  | [] => some []
  | '\\' :: [] => none
  | '\\' :: e :: cs => do
    let c ← escapes.lookup e
    let rest ← decode? cs
    some (c :: rest)
  | c :: cs => if c = '"' then none else (decode? cs).map (c :: ·)

lemma decode?_slash {e c : Char} (h : escapes.lookup e = some c) (rest : List Char) :
    decode? ('\\' :: e :: rest) = (decode? rest).map (c :: ·) := by
  rw [decode?, h]
  cases decode? rest <;> rfl

/-- What is written for a character is decoded as that character, or as none. -/
lemma decode?_escape (c : Char) (rest : List Char) :
    decode? (escape c ++ rest) = (decode? rest).map ([c].filter isKept ++ ·) := by
  unfold escape
  split_ifs with hquote hslash hfeed hreturn htab hcontrol
  -- the character stands behind a backslash
  · subst hquote
    exact decode?_slash rfl rest
  · subst hslash
    exact decode?_slash rfl rest
  · subst hfeed
    exact decode?_slash rfl rest
  · subst hreturn
    exact decode?_slash rfl rest
  · subst htab
    exact decode?_slash rfl rest
  -- or it is left out
  · have hkept : isKept c = false := by
      simp [isKept, hfeed, hreturn, htab, hcontrol]
    simp [hkept]
  -- or it stands as it is
  · have hkept : isKept c = true := by
      simp [isKept, hcontrol]
    simp [decode?, hslash, hquote, hkept]

/-- **A literal is decoded**: undoing its escapes gives what it has kept of the string. -/
theorem decode?_body (cs : List Char) : decode? (body cs) = some (cs.filter isKept) := by
  induction cs with
  | nil => rfl
  | cons c cs ih =>
    rw [body_cons, decode?_escape, ih, Option.map_some, ← List.filter_append]
    rfl

/-- Printable ASCII, but for the two characters that need an escape. -/
def Bare (c : Char) : Prop :=
  0x20 ≤ c.toNat ∧ c.toNat ≤ 0x7E ∧ c ≠ '"' ∧ c ≠ '\\'

instance (c : Char) : Decidable (Bare c) :=
  inferInstanceAs (Decidable (_ ∧ _ ∧ _ ∧ _))

lemma escape_of_bare {c : Char} (h : Bare c) : escape c = [c] := by
  obtain ⟨hlow, hhigh, hquote, hslash⟩ := h
  have hblank : ∀ d : Char, d.toNat < 0x20 → c ≠ d := by
    rintro d hd rfl
    omega
  have hcontrol : Text.isControl c = false := by
    rw [Bool.eq_false_iff, ne_eq, Text.isControl_iff]
    omega
  rw [escape, if_neg hquote, if_neg hslash, if_neg (hblank _ (by decide)),
    if_neg (hblank _ (by decide)), if_neg (hblank _ (by decide)), if_neg (by simp [hcontrol])]

/-- A literal writes such characters as they stand. -/
lemma body_of_bare {cs : List Char} (h : ∀ c ∈ cs, Bare c) : body cs = cs := by
  induction cs with
  | nil => rfl
  | cons c cs ih =>
    obtain ⟨hc, hcs⟩ := List.forall_mem_cons.mp h
    rw [body_cons, escape_of_bare hc, ih hcs, List.singleton_append]

/-- **Literals are a prefix-free code.**  Whatever follows the literal of a string, a scanner stops
right behind the literal, and from what it has read the string comes back without the control
characters that have no escape.  So the literals of two strings never run into each other, and the
literal of two strings joined says what their literals say. -/
theorem quote_decodable (v : String) :
    (∀ rest : String, ∃ said, scan? (quote v ++ rest).toList = some (said, rest.toList) ∧
        decode? said = some (v.toList.filter isKept)) ∧
      (∀ w rest rest' : String, quote v ++ rest = quote w ++ rest' ↔
        rest = rest' ∧ v.toList.filter isKept = w.toList.filter isKept) ∧
      ∀ w : String, ∃ said said', scan? (quote v).toList = some (said, []) ∧
        scan? (quote w).toList = some (said', []) ∧
          scan? (quote (v ++ w)).toList = some (said ++ said', []) := by
  have hscan : ∀ v rest : String,
      scan? (quote v ++ rest).toList = some (body v.toList, rest.toList) := by
    intro v rest
    rw [String.toList_append, toList_quote, scan?_quoteChars]
  have halone : ∀ v : String, scan? (quote v).toList = some (body v.toList, []) := by
    intro v
    simpa using hscan v ""
  refine ⟨fun rest => ⟨_, hscan v rest, decode?_body v.toList⟩, fun w rest rest' => ?_, fun w => ?_⟩
  · rw [← body_eq_body_iff]
    constructor
    · intro h
      have hread := hscan v rest
      rw [h, hscan w rest'] at hread
      obtain ⟨hbody, hrest⟩ := Prod.mk.inj (Option.some.inj hread)
      exact ⟨String.toList_injective hrest.symm, hbody.symm⟩
    · rintro ⟨rfl, hbody⟩
      rw [quote, quote, quoteChars, quoteChars, hbody]
  · refine ⟨_, _, halone v, halone w, ?_⟩
    rw [halone, String.toList_append, body_append]

/-- A backslash, a character that is left out and a quote, and behind their literal a quote. -/
example : scan? (quoteChars ['\\', '\x07', '"'] ++ ['"']) =
    some (['\\', '\\', '\\', '"'], ['"']) := by
  decide

end Literal

/-! ## The literals of a text -/

namespace Scan

/-- The bodies of literals that stand one behind the other, each up to the quote that closes it. -/
def bodies : Scan → List Char → List (List Char)
  | _, [] => []
  | s, c :: cs =>
    if s.next c = outside then [] :: bodies inside cs
    else match bodies (s.next c) cs with
      | [] => [[c]]
      | said :: later => (c :: said) :: later

lemma bodies_of_close? {s : Scan} {cs said rest : List Char}
    (h : s.close? cs = some (said, rest)) : s.bodies cs = said :: inside.bodies rest := by
  induction cs generalizing s said with
  | nil => cases h
  | cons c cs ih =>
    rw [close?] at h
    split_ifs at h with hnext
    · obtain ⟨rfl, rfl⟩ := Prod.mk.inj (Option.some.inj h)
      rw [bodies, if_pos hnext]
    · obtain ⟨⟨more, rest'⟩, hclose, heq⟩ := Option.map_eq_some_iff.mp h
      obtain ⟨rfl, rfl⟩ := Prod.mk.inj heq
      rw [bodies, if_neg hnext, ih hclose]

end Scan

/-- The bodies of the literals of a source text. -/
def literalsOf (text : String) : List (List Char) :=
  Scan.inside.bodies (Scan.outside.inner text.toList)

/-- **The literals of a text** are those of its lines. -/
theorem literalsOf_text {lines : List Line} (h : ∀ line ∈ lines, line.Unquoted) :
    literalsOf (Line.text lines) =
      (lines.flatMap Line.literals).map fun value => Literal.body value.toList := by
  have hbodies : ∀ values : List String, Scan.inside.bodies (values.flatMap Literal.written) =
      values.map fun value => Literal.body value.toList := by
    intro values
    induction values with
    | nil => rfl
    | cons value values ih =>
      rw [List.flatMap_cons, Literal.written, List.append_assoc, List.singleton_append,
        Scan.bodies_of_close? (Scan.close?_body _ _), ih, List.map_cons]
  rw [literalsOf, Line.text, String.toList_ofList, Line.inner_textChars h, hbodies]

end Solidity
end TokenLaunch
