/-
# Reading JSON back

Every JSON value is read back from its pretty form (`parse?_pretty`), unless it holds a part that
stands for no text.  The readers are followed along the writer, one lemma for each kind of value,
and always with an arbitrary text behind the value: it may be the rest of an array or of an object.
Only a number has to know that text, for a number ends where the text goes on with no character
that could belong to it (`Ends`).
-/
import TokenLaunch.Json.Printer
import TokenLaunch.Proofs.Digits
import TokenLaunch.Proofs.Json.Quoted

namespace TokenLaunch
namespace Json

/-! ## Values that stand for texts -/

mutual
/-- Whether no part of a value is unreadable. -/
def isReadable : Json → Bool
  | null | bool _ | number _ | string _ => true
  | array items => allReadable items
  | object members => membersReadable members
  | unreadable => false
/-- Whether every item is readable. -/
def allReadable : List Json → Bool
  | [] => true
  | j :: rest => isReadable j && allReadable rest
/-- Whether the value of every member is readable. -/
def membersReadable : List (String × Json) → Bool
  | [] => true
  | (_, j) :: rest => isReadable j && membersReadable rest
end

lemma allReadable_iff (items : List Json) :
    allReadable items = true ↔ ∀ j ∈ items, j.isReadable = true := by
  induction items with
  | nil => simp [allReadable]
  | cons j rest ih => simp [allReadable, ih]

lemma membersReadable_iff (members : List (String × Json)) :
    membersReadable members = true ↔ ∀ m ∈ members, m.2.isReadable = true := by
  induction members with
  | nil => simp [membersReadable]
  | cons m rest ih => simp [membersReadable, ih]

/-! ## Numbers -/

/-- Whether a text goes on with no character that could belong to a number. -/
def Ends (rest : List Char) : Prop :=
  ∀ c ∈ rest.head?, c.isDigit = false ∧ c ≠ '.' ∧ c ≠ 'e' ∧ c ≠ 'E'

lemma ends_nil : Ends [] := by
  simp [Ends]

lemma ends_cons {c : Char} (hc : c.isDigit = false ∧ c ≠ '.' ∧ c ≠ 'e' ∧ c ≠ 'E')
    (rest : List Char) : Ends (c :: rest) := by
  simpa [Ends] using hc

variable {rest : List Char} {n : ℕ}

lemma scanDigits?_toDigits (hrest : ∀ c ∈ rest.head?, c.isDigit = false) :
    scanDigits? (Nat.toDigits 10 n ++ rest) = some (Nat.toDigits 10 n, rest) := by
  have hempty : (Nat.toDigits 10 n).isEmpty = false := by simp
  simp only [scanDigits?, Digits.takeWhile_append (fun _ => Digits.isDigit_of_mem_toDigits) hrest,
    Digits.dropWhile_append (fun _ => Digits.isDigit_of_mem_toDigits) hrest, hempty,
    Bool.false_eq_true, if_false]

/-- A natural number is written without leading zeros. -/
lemma scanWhole?_toDigits (hrest : ∀ c ∈ rest.head?, c.isDigit = false) :
    scanWhole? (Nat.toDigits 10 n ++ rest) = some (Nat.toDigits 10 n, rest) := by
  have hzero : ¬ ((Nat.toDigits 10 n).head? = some '0' ∧ (Nat.toDigits 10 n).length ≠ 1) := by
    rintro ⟨hhead, hlength⟩
    rcases Nat.eq_zero_or_pos n with rfl | hn
    · exact hlength rfl
    · exact Digits.head?_toDigits_ne_zero hn.ne' hhead
  rw [scanWhole?, scanDigits?_toDigits hrest, Option.bind_some, if_neg hzero]

/-- A number without a point has no fraction. -/
lemma scanFraction?_none (hrest : ∀ c ∈ rest.head?, c ≠ '.') :
    scanFraction? rest = some ([], rest) := by
  cases rest with
  | nil => rfl
  | cons c rest => simp [scanFraction?, hrest c rfl]

lemma scanExponent?_none (hrest : ∀ c ∈ rest.head?, c ≠ 'e' ∧ c ≠ 'E') :
    scanExponent? rest = some (none, rest) := by
  cases rest with
  | nil => rfl
  | cons c rest => simp [scanExponent?, hrest c rfl]

/-- The first character of a number is a digit. -/
lemma exists_toDigits_eq_cons (n : ℕ) :
    ∃ c cs, Nat.toDigits 10 n = c :: cs ∧ c.isDigit = true := by
  obtain ⟨c, cs, h⟩ := List.exists_cons_of_ne_nil (Nat.toDigits_ne_nil (n := n) (b := 10))
  exact ⟨c, cs, h, Digits.isDigit_of_mem_toDigits (h ▸ List.mem_cons_self)⟩

/-- An exponent as it is written. -/
def exponentText (exponent : ℤ) : List Char :=
  (if exponent < 0 then ['-'] else []) ++ Nat.toDigits 10 exponent.natAbs

lemma scanExponent?_text (exponent : ℤ) (hrest : ∀ c ∈ rest.head?, c.isDigit = false) :
    scanExponent? ('e' :: (exponentText exponent ++ rest)) = some (some exponent, rest) := by
  unfold exponentText
  split_ifs with hneg
  · have hvalue : -(exponent.natAbs : ℤ) = exponent := by omega
    rw [List.singleton_append, List.cons_append, scanExponent?, if_pos (by decide)]
    simp only [scanDigits?_toDigits hrest, Option.map_some, Nat.ofDigitChars_ten_toDigits, hvalue]
  · obtain ⟨c, cs, hc, hdigit⟩ := exists_toDigits_eq_cons exponent.natAbs
    have hvalue : (exponent.natAbs : ℤ) = exponent := by omega
    have hread := scanDigits?_toDigits (n := exponent.natAbs) hrest
    rw [hc, List.cons_append] at hread
    rw [List.nil_append, hc, List.cons_append, scanExponent?, if_pos (by decide), hread,
      Option.map_some, ← hc, Nat.ofDigitChars_ten_toDigits, hvalue]
    all_goals
      rintro _ ⟨⟩
      exact absurd hdigit (by decide)

lemma scanUnsigned?_natural (hrest : Ends rest) :
    scanUnsigned? false (Nat.toDigits 10 n ++ rest) = some (.natural n, rest) := by
  have hwhole := scanWhole?_toDigits (n := n) fun c hc => (hrest c hc).1
  have hfraction := scanFraction?_none fun c hc => (hrest c hc).2.1
  have hexponent := scanExponent?_none fun c hc => (hrest c hc).2.2
  simp [scanUnsigned?, hwhole, hfraction, hexponent, Nat.ofDigitChars_ten_toDigits]

lemma scanUnsigned?_decimal (negative : Bool) (exponent : ℤ) (hrest : Ends rest) :
    scanUnsigned? negative (Nat.toDigits 10 n ++ 'e' :: (exponentText exponent ++ rest)) =
      some (.decimal negative n exponent, rest) := by
  have hwhole : scanWhole? (Nat.toDigits 10 n ++ 'e' :: (exponentText exponent ++ rest)) =
      some (Nat.toDigits 10 n, 'e' :: (exponentText exponent ++ rest)) :=
    scanWhole?_toDigits (by simp)
  have hfraction : scanFraction? ('e' :: (exponentText exponent ++ rest)) =
      some ([], 'e' :: (exponentText exponent ++ rest)) :=
    scanFraction?_none (by simp)
  have hexponent := scanExponent?_text exponent fun c hc => (hrest c hc).1
  simp [scanUnsigned?, hwhole, hfraction, hexponent, Nat.ofDigitChars_ten_toDigits]

/-- A number without a sign starts with a digit. -/
lemma scanNumber?_toDigits_append (cs : List Char) :
    scanNumber? (Nat.toDigits 10 n ++ cs) = scanUnsigned? false (Nat.toDigits 10 n ++ cs) := by
  obtain ⟨c, ds, hc, hdigit⟩ := exists_toDigits_eq_cons n
  rw [hc, List.cons_append, scanNumber?]
  rintro _ ⟨⟩
  exact absurd hdigit (by decide)

/-- A number is read back where it ends. -/
lemma scanNumber?_write (number : JsonNumber) (hrest : Ends rest) :
    scanNumber? (writeNumber number ++ rest) = some (number, rest) := by
  cases number with
  | natural n => rw [writeNumber, scanNumber?_toDigits_append, scanUnsigned?_natural hrest]
  | decimal negative mantissa exponent =>
    have hdecimal := scanUnsigned?_decimal (n := mantissa) negative exponent hrest
    cases negative with
    | false => simpa [writeNumber, exponentText, scanNumber?_toDigits_append] using hdecimal
    | true => simpa [writeNumber, exponentText, scanNumber?] using hdecimal

/-- A number starts with its sign or with a digit. -/
lemma exists_writeNumber_eq_cons (number : JsonNumber) :
    ∃ c cs, writeNumber number = c :: cs ∧ (c = '-' ∨ c.isDigit = true) := by
  cases number with
  | natural n =>
    obtain ⟨c, cs, hcs, hdigit⟩ := exists_toDigits_eq_cons n
    exact ⟨c, cs, hcs, .inr hdigit⟩
  | decimal negative mantissa exponent =>
    cases negative with
    | true => exact ⟨'-', _, rfl, .inl rfl⟩
    | false =>
      obtain ⟨c, cs, hcs, hdigit⟩ := exists_toDigits_eq_cons mantissa
      exact ⟨c, _, by rw [writeNumber, hcs]; rfl, .inr hdigit⟩

/-! ## Blanks -/

/-- Whether a text starts with a character that is no blank and closes nothing. -/
def Starts (cs : List Char) : Prop :=
  ∃ c rest, cs = c :: rest ∧ isSpace c = false ∧ c ≠ ']' ∧ c ≠ '\x7d'

lemma Starts.append {cs : List Char} (h : Starts cs) (rest : List Char) : Starts (cs ++ rest) := by
  obtain ⟨c, cs', rfl, hc⟩ := h
  exact ⟨c, cs' ++ rest, rfl, hc⟩

lemma Starts.skipSpace {cs : List Char} (h : Starts cs) : skipSpace cs = cs := by
  obtain ⟨c, rest, rfl, hspace, -⟩ := h
  simp [Json.skipSpace, hspace]

lemma skipSpace_newline (level : ℕ) (cs : List Char) :
    skipSpace (newline level ++ cs) = skipSpace cs := by
  refine List.dropWhile_append_of_pos fun c hc => ?_
  rcases List.mem_cons.mp hc with rfl | hc
  · rfl
  · rw [List.eq_of_mem_replicate hc]
    rfl

lemma skipSpace_comma (cs : List Char) : skipSpace (',' :: cs) = ',' :: cs := rfl

lemma skipSpace_colon (cs : List Char) : skipSpace (':' :: cs) = ':' :: cs := rfl

lemma skipSpace_blank (cs : List Char) : skipSpace (' ' :: cs) = skipSpace cs := rfl

lemma starts_write (level : ℕ) (j : Json) : Starts (write level j) := by
  cases j with
  | number number =>
    obtain ⟨c, cs, hcs, hc⟩ := exists_writeNumber_eq_cons number
    refine ⟨c, cs, hcs, ?_⟩
    rcases hc with rfl | hdigit
    · decide
    · have hne : ∀ d : Char, d.isDigit = false → c ≠ d := by
        rintro d hd rfl
        exact absurd hdigit (by simp [hd])
      refine ⟨?_, hne _ (by decide), hne _ (by decide)⟩
      simp only [isSpace, Bool.or_eq_false_iff, beq_eq_false_iff_ne]
      exact ⟨⟨⟨hne _ (by decide), hne _ (by decide)⟩, hne _ (by decide)⟩, hne _ (by decide)⟩
  | null => exact ⟨'n', _, rfl, by decide⟩
  | bool b => cases b <;> exact ⟨_, _, rfl, by decide⟩
  | string s => exact ⟨'"', _, rfl, by decide⟩
  | array items => cases items <;> exact ⟨'[', _, by rw [write], by decide⟩
  | object members => cases members <;> exact ⟨'\x7b', _, by rw [write], by decide⟩
  | unreadable => exact ⟨'n', _, rfl, by decide⟩

lemma skipSpace_write (level : ℕ) (j : Json) (cs : List Char) :
    skipSpace (write level j ++ cs) = write level j ++ cs :=
  ((starts_write level j).append cs).skipSpace

lemma starts_quoted (name : String) : Starts (Quoted.write name) :=
  ⟨'"', _, rfl, by decide⟩

/-- A closing bracket or brace stands on a line of its own. -/
lemma skipSpace_newline_close {c : Char} (hc : isSpace c = false) (level : ℕ) (cs : List Char) :
    skipSpace (newline level ++ c :: cs) = c :: cs := by
  rw [skipSpace_newline]
  simp [skipSpace, hc]

/-! ## Values -/

/-- Whether a value is read back, on any level and before any text where it ends. -/
def ReadsBack (j : Json) : Prop :=
  ∀ level fuel rest, 2 * (write level j).length ≤ fuel → Ends rest →
    scanValue? fuel (write level j ++ rest) = some (j, rest)

/-- Reading a value takes at least one step. -/
lemma exists_fuel {level fuel : ℕ} {j : Json} (h : 2 * (write level j).length ≤ fuel) :
    ∃ n, fuel = n + 1 := by
  obtain ⟨c, cs, hcs, -⟩ := starts_write level j
  rw [hcs, List.length_cons] at h
  exact ⟨fuel - 1, by omega⟩

lemma readsBack_number (number : JsonNumber) : ReadsBack (.number number) := by
  intro level fuel rest hfuel hrest
  obtain ⟨fuel, rfl⟩ := exists_fuel hfuel
  obtain ⟨c, cs, hcs, hc⟩ := exists_writeNumber_eq_cons number
  have hnumber := scanNumber?_write number hrest
  rw [hcs, List.cons_append] at hnumber
  rw [write, hcs, List.cons_append, scanValue?, hnumber, Option.map_some]
  all_goals
    rintro _ ⟨⟩
    revert hc
    decide

lemma readsBack_string (s : String) : ReadsBack (.string s) := by
  intro level fuel rest hfuel hrest
  obtain ⟨fuel, rfl⟩ := exists_fuel hfuel
  rw [write, Quoted.write, List.cons_append, List.append_assoc, List.singleton_append, scanValue?,
    scanName?_body]
  rfl

/-! ## Arrays -/

/-- What stands behind a value inside an array is no part of a number. -/
lemma ends_writeItems (level : ℕ) (items : List Json) (n : ℕ) (rest : List Char) :
    Ends (writeItems level items ++ (newline n ++ rest)) := by
  cases items with
  | nil => exact ends_cons (by decide) _
  | cons j items =>
    rw [writeItems]
    exact ends_cons (by decide) _

/-- The items of an array are read up to its closing bracket. -/
lemma scanItems?_write {items : List Json} (hitems : ∀ j ∈ items, ReadsBack j)
    {j : Json} (hj : ReadsBack j) {level fuel : ℕ} (n : ℕ) (rest : List Char)
    (hfuel : 2 * ((write level j).length + (writeItems level items).length) < fuel) :
    scanItems? fuel (write level j ++ (writeItems level items ++ (newline n ++ ']' :: rest))) =
      some (j :: items, rest) := by
  induction items generalizing j fuel with
  | nil =>
    obtain ⟨fuel, rfl⟩ : ∃ m, fuel = m + 1 := ⟨fuel - 1, by omega⟩
    have hread := hj level fuel _ (by simp only [writeItems] at hfuel; omega)
      (ends_writeItems level [] n (']' :: rest))
    have hspace := skipSpace_newline_close (c := ']') (by decide) n rest
    simp only [writeItems, List.nil_append] at hread ⊢
    simp only [scanItems?, hread, Option.bind_eq_bind, Option.bind_some, hspace]
    rfl
  | cons i items ih =>
    obtain ⟨fuel, rfl⟩ : ∃ m, fuel = m + 1 := ⟨fuel - 1, by omega⟩
    rw [List.forall_mem_cons] at hitems
    have hread := hj level fuel _ (by omega) (ends_writeItems level (i :: items) n (']' :: rest))
    have hnext : scanItems? fuel _ = some (i :: items, rest) := ih hitems.2 hitems.1 (by
      simp only [writeItems, List.length_cons, List.length_append] at hfuel
      omega)
    have hspace : skipSpace (newline level ++ (write level i ++
        (writeItems level items ++ (newline n ++ ']' :: rest)))) =
        write level i ++ (writeItems level items ++ (newline n ++ ']' :: rest)) := by
      rw [skipSpace_newline, skipSpace_write]
    simp only [writeItems, List.cons_append, List.append_assoc] at hread ⊢
    simp only [scanItems?, hread, Option.bind_eq_bind, Option.bind_some, skipSpace_comma,
      hspace, hnext]
    rfl

/-- An array that is not empty is read by its items. -/
lemma scanValue?_items {cs : List Char} (h : Starts cs) (level fuel : ℕ) :
    scanValue? (fuel + 1) ('[' :: (newline level ++ cs)) =
      (scanItems? fuel cs).map fun r => (array r.1, r.2) := by
  rw [scanValue?, skipSpace_newline, h.skipSpace]
  obtain ⟨c, cs, rfl, -, hclose, -⟩ := h
  split
  · next heq => exact absurd (List.cons.inj heq).1 hclose
  · rfl

lemma readsBack_array {items : List Json} (hitems : ∀ j ∈ items, ReadsBack j) :
    ReadsBack (.array items) := by
  intro level fuel rest hfuel hrest
  obtain ⟨fuel, rfl⟩ := exists_fuel hfuel
  cases items with
  | nil => simp [write, scanValue?, skipSpace, isSpace]
  | cons j items =>
    rw [List.forall_mem_cons] at hitems
    have hread : scanItems? fuel (write (level + 1) j ++ (writeItems (level + 1) items ++
        (newline level ++ ']' :: rest))) = some (j :: items, rest) :=
      scanItems?_write hitems.2 hitems.1 level rest (by
        simp only [write, List.length_cons, List.length_append] at hfuel
        omega)
    rw [write, List.cons_append]
    simp only [List.append_assoc, List.singleton_append]
    rw [scanValue?_items ((starts_write _ j).append _), hread, Option.map_some]

/-! ## Objects -/

/-- What stands behind a value inside an object is no part of a number. -/
lemma ends_writeMembers (level : ℕ) (members : List (String × Json)) (n : ℕ) (rest : List Char) :
    Ends (writeMembers level members ++ (newline n ++ rest)) := by
  cases members with
  | nil => exact ends_cons (by decide) _
  | cons m members =>
    rw [writeMembers]
    exact ends_cons (by decide) _

/-- The members of an object are read up to its closing brace. -/
lemma scanMembers?_write {members : List (String × Json)} (hmembers : ∀ m ∈ members, ReadsBack m.2)
    {name : String} {j : Json} (hj : ReadsBack j) {level fuel : ℕ} (n : ℕ) (rest : List Char)
    (hfuel : 2 * ((write level j).length + (writeMembers level members).length) < fuel) :
    scanMembers? fuel (Quoted.write name ++ (':' :: ' ' :: (write level j ++
      (writeMembers level members ++ (newline n ++ '\x7d' :: rest))))) =
      some (some ((name, j) :: members), rest) := by
  induction members generalizing name j fuel with
  | nil =>
    obtain ⟨fuel, rfl⟩ : ∃ m, fuel = m + 1 := ⟨fuel - 1, by omega⟩
    have hread := hj level fuel _ (by simp only [writeMembers] at hfuel; omega)
      (ends_writeMembers level [] n ('\x7d' :: rest))
    have hspace := skipSpace_newline_close (c := '\x7d') (by decide) n rest
    simp only [writeMembers, List.nil_append] at hread ⊢
    simp only [Quoted.write, List.cons_append, List.append_assoc, List.nil_append, scanMembers?,
      scanName?_body, Option.bind_eq_bind, Option.bind_some, skipSpace_colon, skipSpace_blank,
      skipSpace_write, hread, hspace]
    rfl
  | cons m members ih =>
    obtain ⟨other, i⟩ := m
    obtain ⟨fuel, rfl⟩ : ∃ m, fuel = m + 1 := ⟨fuel - 1, by omega⟩
    simp only [List.forall_mem_cons] at hmembers
    have hread := hj level fuel _ (by omega)
      (ends_writeMembers level ((other, i) :: members) n ('\x7d' :: rest))
    have hnext : scanMembers? fuel (Quoted.write other ++ _) =
        some (some ((other, i) :: members), rest) := ih hmembers.2 hmembers.1 (by
      simp only [writeMembers, List.length_cons, List.length_append] at hfuel
      omega)
    have hspace : ∀ cs, skipSpace (newline level ++ (Quoted.write other ++ cs)) =
        Quoted.write other ++ cs := fun cs => by
      rw [skipSpace_newline, ((starts_quoted other).append _).skipSpace]
    simp only [writeMembers, List.cons_append, List.nil_append, List.append_assoc] at hread ⊢
    rw [Quoted.write, List.cons_append, scanMembers?]
    simp only [List.append_assoc, List.nil_append, List.cons_append, scanName?_body,
      Option.bind_eq_bind, Option.bind_some, skipSpace_colon, skipSpace_blank, skipSpace_write,
      hread, skipSpace_comma, hspace, hnext]
    rfl

/-- An object that is not empty is read by its members. -/
lemma scanValue?_members {cs : List Char} (name : String) (level fuel : ℕ) :
    scanValue? (fuel + 1) ('\x7b' :: (newline level ++ (Quoted.write name ++ cs))) =
      (scanMembers? fuel (Quoted.write name ++ cs)).map fun r => (ofMembers r.1, r.2) := by
  rw [scanValue?, skipSpace_newline, ((starts_quoted name).append _).skipSpace]
  rfl

lemma readsBack_object {members : List (String × Json)} (hmembers : ∀ m ∈ members, ReadsBack m.2) :
    ReadsBack (.object members) := by
  intro level fuel rest hfuel hrest
  obtain ⟨fuel, rfl⟩ := exists_fuel hfuel
  cases members with
  | nil => simp [write, scanValue?, skipSpace, isSpace]
  | cons m members =>
    obtain ⟨name, j⟩ := m
    simp only [List.forall_mem_cons] at hmembers
    have hread : scanMembers? fuel (Quoted.write name ++ (':' :: ' ' :: (write (level + 1) j ++
        (writeMembers (level + 1) members ++ (newline level ++ '\x7d' :: rest))))) =
        some (some ((name, j) :: members), rest) :=
      scanMembers?_write hmembers.2 hmembers.1 level rest (by
        simp only [write, List.length_cons, List.length_append] at hfuel
        omega)
    rw [write, List.cons_append]
    simp only [List.append_assoc, List.cons_append, List.nil_append]
    rw [scanValue?_members, hread, Option.map_some]
    rfl

/-! ## All values -/

/-- **A value is read back** where every part of it stands for a text. -/
theorem readsBack {j : Json} (hj : j.isReadable = true) : ReadsBack j := by
  match j with
  | null =>
    intro level fuel rest hfuel hrest
    obtain ⟨fuel, rfl⟩ := exists_fuel hfuel
    rfl
  | bool b =>
    intro level fuel rest hfuel hrest
    obtain ⟨fuel, rfl⟩ := exists_fuel hfuel
    cases b <;> rfl
  | number n => exact readsBack_number n
  | string s => exact readsBack_string s
  | array items =>
    rw [isReadable, allReadable_iff] at hj
    exact readsBack_array fun j h => readsBack (hj j h)
  | object members =>
    rw [isReadable, membersReadable_iff] at hj
    exact readsBack_object fun m h => readsBack (hj m h)
termination_by j
decreasing_by
  · have := List.sizeOf_lt_of_mem h
    simp_wf
    omega
  · have := List.sizeOf_lt_of_mem h
    have : sizeOf m = 1 + sizeOf m.1 + sizeOf m.2 := by cases m; simp
    simp_wf
    omega

/-- **The pretty form of a value is read as that value.** -/
theorem parse?_pretty {j : Json} (hj : j.isReadable = true) : parse? j.pretty = some j := by
  have hread := readsBack hj 0 (2 * (write 0 j).length + 1) [] (by omega) ends_nil
  rw [List.append_nil] at hread
  simp only [parse?, pretty, String.toList_ofList, (starts_write 0 j).skipSpace, hread]
  rfl

/-! ## Values of other types -/

section

variable {α : Type} {toJson : α → Json} {ofJson? : Json → Option α}

/-- Who can read values from what is written for them can read them from its text. -/
lemma bind_parse?_pretty (hreadable : ∀ a, (toJson a).isReadable = true)
    (hread : ∀ a, ofJson? (toJson a) = some a) (a : α) :
    (parse? (toJson a).pretty).bind ofJson? = some a := by
  rw [parse?_pretty (hreadable a)]
  exact hread a

/-- Values that can be read back have texts of their own. -/
lemma pretty_injective (hreadable : ∀ a, (toJson a).isReadable = true)
    (hread : ∀ a, ofJson? (toJson a) = some a) : Function.Injective fun a => (toJson a).pretty := by
  intro a b h
  have hback := bind_parse?_pretty hreadable hread a
  rw [show (toJson a).pretty = (toJson b).pretty from h,
    bind_parse?_pretty hreadable hread b] at hback
  exact (Option.some.inj hback).symm

end

end Json
end TokenLaunch
