/-
# Instants

An instant is a date and a time of day in universal time, down to nanoseconds.  A leap second is
counted with the second before it: its nanoseconds go on where those of that second end, at a
billion.  Leap seconds belong to the ends of minutes (`Instant.IsProper`), and clocks show them there
only; but an instant can be made with one after any second.
-/
import TokenLaunch.Time.Date

namespace TokenLaunch

/-- A moment in universal time. -/
structure Instant where
  date : Date
  /-- Minutes since midnight. -/
  minute : Nat
  /-- Seconds in the minute. -/
  second : Nat
  /-- Nanoseconds in the second, and in the leap second after it. -/
  nanosecond : Nat
  date_proper : date.isProper = true
  minute_lt : minute < 1440
  second_lt : second < 60
  nanosecond_lt : nanosecond < 2000000000
deriving DecidableEq

namespace Instant

/-- Whether the instant is in a leap second at the end of a minute, or in none. -/
def IsProper (t : Instant) : Prop :=
  1000000000 ≤ t.nanosecond → t.second = 59

instance (t : Instant) : Decidable t.IsProper :=
  inferInstanceAs (Decidable (_ → _))

/-- The second as it is shown: a leap second has the number after that of the second before it. -/
def shownSecond (t : Instant) : Nat :=
  t.second + t.nanosecond / 1000000000

/-- The nanoseconds in the second that is shown. -/
def shownNanosecond (t : Instant) : Nat :=
  t.nanosecond % 1000000000

theorem shownNanosecond_lt (t : Instant) : t.shownNanosecond < 1000000000 :=
  Nat.mod_lt _ (by decide)

/-- The proper instant that is shown with the given parts, where there is one.  The sixtieth second
is the leap second at the end of the minute. -/
def ofParts? (date : Date) (minute second nanosecond : Nat) : Option Instant :=
  if h : date.isProper = true ∧ minute < 1440 ∧ second ≤ 60 ∧ nanosecond < 1000000000 then
    some
      { date, minute
        second := min second 59
        nanosecond := second / 60 * 1000000000 + nanosecond
        date_proper := h.1
        minute_lt := h.2.1
        second_lt := by omega
        nanosecond_lt := by omega }
  else none

/-- What is told by its parts is proper. -/
theorem isProper_of_ofParts? {date : Date} {minute second nanosecond : Nat} {t : Instant}
    (h : ofParts? date minute second nanosecond = some t) : t.IsProper := by
  unfold ofParts? at h
  split at h
  · next hparts =>
    cases h
    simp only [IsProper]
    omega
  · cases h

/-- The instant whose parts are read on a clock that is `offset` minutes ahead of universal
time. -/
def ofLocal? (date : Date) (minute second nanosecond : Nat) (offset : Int) : Option Instant :=
  let m : Int := minute - offset
  let universalDate := if m < 0 then date.previous else if 1440 ≤ m then date.next else date
  ofParts? universalDate (m % 1440).toNat second nanosecond

/-- The first moment of the year 1970. -/
def epoch : Instant :=
  ⟨⟨1970, 1, 1⟩, 0, 0, 0, by decide, by decide, by decide, by decide⟩

/-- The number of seconds of a day. -/
def daySeconds : Nat := 86400

/-- The instant a number of seconds and nanoseconds after the first moment of the year 1970, leap
seconds not counted. -/
def ofUnixTime (second nanosecond : Nat) : Instant :=
  let date := (second / daySeconds).repeat Date.next epoch.date
  let rest := second % daySeconds
  (ofParts? date (rest / 60) (rest % 60) nanosecond).getD epoch

theorem isProper_epoch : epoch.IsProper := by decide

theorem isProper_ofUnixTime (second nanosecond : Nat) : (ofUnixTime second nanosecond).IsProper := by
  simp only [ofUnixTime]
  generalize h : ofParts? _ _ _ nanosecond = parts
  cases parts with
  | none => exact isProper_epoch
  | some t => exact isProper_of_ofParts? h

end Instant

/-- An instant that a clock can show. -/
structure ClockTime where
  instant : Instant
  proper : instant.IsProper
deriving DecidableEq

namespace ClockTime

/-- The first moment of the year 1970. -/
def epoch : ClockTime :=
  ⟨.epoch, Instant.isProper_epoch⟩

/-- The time of a clock that counts seconds and nanoseconds from the first moment of the year
1970. -/
def ofUnixTime (second nanosecond : Nat) : ClockTime :=
  ⟨.ofUnixTime second nanosecond, Instant.isProper_ofUnixTime second nanosecond⟩

end ClockTime
end TokenLaunch
