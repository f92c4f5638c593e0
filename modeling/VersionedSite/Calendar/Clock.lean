import VersionedSite.Calendar.Moment
import VersionedSite.Text.Blank
import VersionedSite.Text.Case

/-!
# Moments of a clock

A clock counts the seconds since the start of 1970 in universal time, and before it in negative
numbers. The date that a count falls on is found by taking the cycles of four hundred years off
it, after which the calendar repeats itself, then whole years, and then whole months.

A text may give a moment by such a count, or by its distance from the present, which is none.
-/

namespace VersionedSite.Calendar

def daysInYear (y : Int) : Nat := if isLeapYear y then 366 else 365

/-- The days after which the calendar repeats itself. -/
def daysInCycle : Nat := 146097

theorem daysInYear_pos (y : Int) : 0 < daysInYear y := by
  unfold daysInYear; split <;> decide

theorem daysInMonth_pos (y : Int) (m : Nat) : 0 < daysInMonth y m := by
  unfold daysInMonth; repeat' split
  all_goals decide

/-- The year of the day that comes `days` after the start of the year `y`, and the days of that
year before it. -/
def yearAfter (y : Int) (days : Nat) : Int × Nat :=
  if days < daysInYear y then (y, days) else yearAfter (y + 1) (days - daysInYear y)
termination_by days
decreasing_by have := daysInYear_pos y; omega

/-- The month of the day that comes `days` after the start of the month `m`, and the days of that
month before it. -/
def monthAfter (y : Int) (m days : Nat) : Nat × Nat :=
  if days < daysInMonth y m then (m, days) else monthAfter y (m + 1) (days - daysInMonth y m)
termination_by days
decreasing_by have := daysInMonth_pos y m; omega

namespace Moment

/-- The moment at which a clock has counted so many seconds. -/
def ofSeconds (seconds : Int) : Moment :=
  let days := daysBeforeYear 1970 + seconds / 86400
  let (year, days) := yearAfter (400 * (days / daysInCycle)) (days % daysInCycle).toNat
  let (month, days) := monthAfter year 1 days
  let time := (seconds % 86400).toNat
  ⟨year, month, days + 1, time / 3600, time / 60 % 60, time % 60, 0, 0⟩

/-- The date and time as one word, in universal time. -/
def stamp (m : Moment) : String :=
  let two := fun (n : Nat) ↦ (if n < 10 then "0" else "") ++ toString n
  s!"{m.year}-{two m.month}-{two m.day}T{two m.hour}:{two m.minute}:{two m.second}Z"

/-- Whether a text is a word for the present moment. -/
def isPresent (s : List Char) : Bool :=
  ["now", "today"].contains (String.ofList (Text.trim (Text.lower s)))

/-- A count of seconds: at most fourteen digits, perhaps after a sign. -/
def count? (s : List Char) : Option Int :=
  if (s.filter Char.isDigit).length ≤ 14 then Decimal.readInt? s else none

/-- The moment that a text denotes: the present one, the one of a count of seconds, or the one of a
date. A count has a moment only as far as years have four digits. -/
def ofText? (now : Moment) (s : List Char) : Option Moment :=
  if isPresent s then some now
  else
    match count? s with
    | some seconds =>
      let m := ofSeconds seconds
      if -9999 ≤ m.year && m.year ≤ 9999 then some m else none
    | none => Moment.read? s

end Moment

end VersionedSite.Calendar
