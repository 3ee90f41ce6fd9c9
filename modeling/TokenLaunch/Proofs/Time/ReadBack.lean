/-
# Reading timestamps back

An instant is read back from its timestamp (`Timestamp.parse?_text`): in any year, before the year 0
and after the year 9999 too, with any fraction of a second, and in a leap second that ends a minute.
A leap second that does not is shown like the next second, and is read back as that
(`Instant.reread`); so an instant comes back exactly if it is proper (`Instant.reread_eq_iff`), and
whatever is read is (`isProper_of_parse?`).  The fields are followed one by one; each is read as it
was written, whatever follows it, but for the year with a sign and the fraction, which end where no
digit follows.
-/
import TokenLaunch.Proofs.Digits
import TokenLaunch.Time.Timestamp

namespace TokenLaunch

/-- No digit is blank. -/
lemma Text.isBlank_of_isDigit {c : Char} (hc : c.isDigit = true) : Text.isBlank c = false := by
  have hrange : 48 ≤ c.toNat ∧ c.toNat ≤ 57 := by
    simpa [Char.isDigit, UInt32.le_iff_toNat_le] using hc
  simp only [Text.isBlank, Text.blankRanges, List.any_eq_false, List.forall_mem_cons,
    Bool.and_eq_true, decide_eq_true_eq]
  refine ⟨?_, ?_, ?_, ?_, ?_, ?_, ?_, ?_, ?_, ?_, by simp⟩ <;> omega

namespace Timestamp

variable {width n : ℕ} {rest : List Char}

/-! ## Fields -/

lemma exists_atLeast_eq_cons (width n : ℕ) :
    ∃ c cs, Digits.atLeast width n = c :: cs ∧ c.isDigit = true := by
  have hne : Digits.atLeast width n ≠ [] := Digits.atLeast_ne_nil
  obtain ⟨c, cs, h⟩ := List.exists_cons_of_ne_nil hne
  exact ⟨c, cs, h, Digits.isDigit_of_mem_atLeast (h ▸ List.mem_cons_self)⟩

lemma skipBlank_cons {c : Char} (hc : Text.isBlank c = false) (cs : List Char) :
    skipBlank (c :: cs) = c :: cs := by
  simp [skipBlank, hc]

lemma skipBlank_atLeast (width n : ℕ) (rest : List Char) :
    skipBlank (Digits.atLeast width n ++ rest) = Digits.atLeast width n ++ rest := by
  obtain ⟨c, cs, h, hc⟩ := exists_atLeast_eq_cons width n
  rw [h, List.cons_append, skipBlank_cons (Text.isBlank_of_isDigit hc)]

/-- A field of two digits is read back, whatever follows it. -/
lemma scanField?_atLeast (hn : n < 100) :
    scanField? (Digits.atLeast 2 n ++ rest) = some (n, rest) := by
  rw [scanField?, skipBlank_atLeast, Digits.scan?_width (by decide) hn, Option.map_some,
    Digits.value_atLeast]

lemma skip?_self (c : Char) (hc : Text.isBlank c = false) (rest : List Char) :
    skip? c (c :: rest) = some rest := by
  simp [skip?, skipBlank_cons hc]

/-- A year without a sign has four digits. -/
lemma scanYear?_of_digits (hn : n < 10000) :
    scanYear? (Digits.atLeast 4 n ++ rest) = some ((n : ℤ), rest) := by
  have hread : Digits.scan? 4 (Digits.atLeast 4 n ++ rest) = some (Digits.atLeast 4 n, rest) :=
    Digits.scan?_width (by decide) hn
  obtain ⟨c, cs, hcs, hc⟩ := exists_atLeast_eq_cons 4 n
  have hvalue : Digits.value (c :: cs) = n := by rw [← hcs, Digits.value_atLeast]
  rw [scanYear?, skipBlank_atLeast]
  rw [hcs, List.cons_append] at hread ⊢
  split
  · next heq => exact absurd ((List.cons.inj heq).1 ▸ hc) (by decide)
  · next heq => exact absurd ((List.cons.inj heq).1 ▸ hc) (by decide)
  · rw [hread, Option.map_some, hvalue]

/-- A year is read back in front of a dash. -/
lemma scanYear?_year (y : ℤ) (rest : List Char) :
    scanYear? (year y ++ '-' :: rest) = some (y, '-' :: rest) := by
  have hdash : ∀ c ∈ ('-' :: rest).head?, c.isDigit = false := by simp
  unfold year
  split_ifs with hplain hneg
  · rw [scanYear?_of_digits (by omega), Int.toNat_of_nonneg hplain.1]
  · rw [List.cons_append, scanYear?, skipBlank_cons (by decide)]
    simp only [Digits.scanAll?_atLeast hdash, Option.map_some, Digits.value_atLeast]
    congr 2
    omega
  · rw [List.cons_append, scanYear?, skipBlank_cons (by decide)]
    simp only [Digits.scanAll?_atLeast hdash, Option.map_some, Digits.value_atLeast]
    congr 2
    omega

/-! ## Dates and fractions -/

/-- The months and the days of a proper date have two digits. -/
lemma month_day_lt {d : Date} (hd : d.isProper = true) : d.month < 100 ∧ d.day < 100 := by
  have hdays : Date.daysIn d.year d.month < 100 := by
    unfold Date.daysIn
    split_ifs <;> decide
  simp only [Date.isProper, Bool.and_eq_true, decide_eq_true_eq] at hd
  omega

/-- A date is read back in front of any text. -/
lemma scanDate?_date {d : Date} (hd : d.isProper = true) (rest : List Char) :
    scanDate? (date d ++ rest) = some (d, rest) := by
  have hbounds := month_day_lt hd
  simp only [scanDate?, date, List.append_assoc, List.cons_append, scanYear?_year,
    skip?_self '-' (by decide), scanField?_atLeast hbounds.1,
    scanField?_atLeast hbounds.2, Option.bind_eq_bind, Option.bind_some]
  rfl

/-- A fraction with up to nine digits is read back where no digit follows. -/
lemma scanFraction?_digits (hwidth : 0 < width) (hle : width ≤ 9) (hn : n < 10 ^ width)
    (hrest : ∀ c ∈ rest.head?, c.isDigit = false) :
    scanFraction? ('.' :: (Digits.atLeast width n ++ rest)) =
      some (n * 10 ^ (9 - width), rest) := by
  have hlength := Digits.length_atLeast hwidth hn
  have hread : Digits.scan? 9 (Digits.atLeast width n ++ rest) =
      some (Digits.atLeast width n, rest) :=
    Digits.scan?_atLeast (by omega) (.inr hrest)
  have hstop : rest.dropWhile Char.isDigit = rest :=
    Digits.dropWhile_append (List.forall_mem_nil _) hrest
  simp only [scanFraction?, hread, Option.map_some, Digits.value_atLeast, hlength, hstop]
  rfl

/-- The fraction of a second is read back in front of the offset. -/
lemma scanFraction?_fraction (hn : n < 1000000000) :
    scanFraction? (fraction n ++ ['Z']) = some (n, ['Z']) := by
  have hrest : ∀ c ∈ (['Z'] : List Char).head?, c.isDigit = false := by simp
  unfold fraction
  split_ifs with hzero hmilli hmicro
  · subst hzero
    rfl
  · rw [List.cons_append, scanFraction?_digits (by decide) (by decide) (by omega) hrest]
    congr 2
    omega
  · rw [List.cons_append, scanFraction?_digits (by decide) (by decide) (by omega) hrest]
    congr 2
    omega
  · rw [List.cons_append, scanFraction?_digits (by decide) (by decide) (by omega) hrest]
    simp

end Timestamp

/-! ## What is shown of an instant -/

namespace Instant

lemma shownSecond_le (t : Instant) : t.shownSecond ≤ 60 := by
  have hsecond := t.second_lt
  have hnanosecond := t.nanosecond_lt
  simp only [shownSecond]
  omega

/-- The proper instant that is shown alike.  A leap second that does not end a minute is the next
second. -/
def reread (t : Instant) : Instant :=
  { t with
    second := min t.shownSecond 59
    nanosecond := t.shownSecond / 60 * 1000000000 + t.shownNanosecond
    second_lt := by omega
    nanosecond_lt := by
      have hsecond := t.shownSecond_le
      have hnanosecond := t.shownNanosecond_lt
      omega }

/-- Reading anew keeps an instant exactly if it is proper. -/
lemma reread_eq_iff {t : Instant} : t.reread = t ↔ t.IsProper := by
  obtain ⟨date, minute, second, nanosecond, hdate, hminute, hsecond, hnanosecond⟩ := t
  simp only [reread, IsProper, shownSecond, shownNanosecond, mk.injEq, true_and]
  omega

lemma ofParts?_shown (t : Instant) :
    ofParts? t.date t.minute t.shownSecond t.shownNanosecond = some t.reread :=
  dif_pos ⟨t.date_proper, t.minute_lt, t.shownSecond_le, t.shownNanosecond_lt⟩

lemma isProper_reread (t : Instant) : t.reread.IsProper :=
  isProper_of_ofParts? t.ofParts?_shown

/-- Without an offset, the parts that are read are those that are shown. -/
lemma ofLocal?_shown (t : Instant) :
    ofLocal? t.date t.minute t.shownSecond t.shownNanosecond 0 = some t.reread := by
  have hminute := t.minute_lt
  have hneg : ¬ ((t.minute : ℤ) - 0 < 0) := by omega
  have hpast : ¬ (1440 ≤ (t.minute : ℤ) - 0) := by omega
  have hmod : (((t.minute : ℤ) - 0) % 1440).toNat = t.minute := by omega
  simp only [ofLocal?, hneg, hpast, hmod, if_false, ofParts?_shown]

end Instant

/-! ## Instants -/

namespace Timestamp

/-- **An instant is read back** from its timestamp, as the proper instant that is shown alike. -/
theorem parse?_text (t : Instant) : parse? (text t) = some t.reread := by
  have hminute := t.minute_lt
  have hsecond := t.shownSecond_le
  have hclock : 60 * (t.minute / 60) + t.minute % 60 = t.minute := by omega
  have hrange : t.minute / 60 ≤ 23 ∧ t.minute % 60 ≤ 59 := by omega
  have hdivider : ∀ cs, skipDivider? ('T' :: cs) = some cs := fun cs => rfl
  have hoffset : scanOffset? (skipBlank ['Z']) = some (0, []) := rfl
  rw [parse?, text, String.toList_ofList]
  simp only [read?, write, hourMinute, List.append_assoc, List.cons_append,
    scanDate?_date t.date_proper, Option.bind_eq_bind, Option.bind_some, hdivider,
    scanField?_atLeast (n := t.minute / 60) (by omega),
    scanField?_atLeast (n := t.minute % 60) (by omega),
    scanField?_atLeast (n := t.shownSecond) (by omega), skip?_self ':' (by decide),
    scanFraction?_fraction t.shownNanosecond_lt, hoffset, hclock, t.ofLocal?_shown]
  exact if_pos ⟨hrange.1, hrange.2, t.date_proper, rfl⟩

/-- What is read is proper. -/
lemma isProper_of_parse? {s : String} {t : Instant} (h : parse? s = some t) : t.IsProper := by
  simp only [parse?, read?, Option.bind_eq_bind, Option.bind_eq_some_iff, Prod.exists] at h
  -- whatever the fields are, they are put together last
  obtain ⟨_, _, -, _, -, _, _, -, _, -, _, _, -, _, -, _, _, -, _, _, -, _, _, -, h⟩ := h
  split_ifs at h
  exact Instant.isProper_of_ofParts? h

end Timestamp
end TokenLaunch
