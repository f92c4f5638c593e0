import VersionedSite.Text.Search
import VersionedSite.Decimal.Numeral

/-!
# Moments

A date and a time of day with the distance from universal time, and the notations that one is read
from. A notation without a distance is read as universal time.
-/

namespace VersionedSite.Calendar

/-! ## Dates -/

def monthNames : List String := ["January", "February", "March", "April", "May", "June", "July",
  "August", "September", "October", "November", "December"]

/-- Names of the days of the week, Sunday first. -/
def dayNames : List String :=
  ["Sunday", "Monday", "Tuesday", "Wednesday", "Thursday", "Friday", "Saturday"]

/-- The first three letters of a name. -/
def abbreviated (name : String) : String := String.ofList (name.toList.take 3)

def isLeapYear (y : Int) : Bool := (y % 4 == 0 && y % 100 != 0) || y % 400 == 0

def daysInMonth (y : Int) (m : Nat) : Nat :=
  if m == 2 then if isLeapYear y then 29 else 28
  else if [4, 6, 9, 11].contains m then 30 else 31

/-- Days of the year before the month. -/
def daysBeforeMonth (y : Int) (m : Nat) : Nat :=
  (List.range' 1 (m - 1)).foldl (fun n k ↦ n + daysInMonth y k) 0

/-- Days from the first day of the year zero to that of the year. Every fourth year has one more,
but of the hundredth years only every fourth. -/
def daysBeforeYear (y : Int) : Int := 365 * y + (y + 3) / 4 - (y + 99) / 100 + (y + 399) / 400

/-- A moment in the time of a place. Years before the first one count down from zero. -/
structure Moment where
  year : Int
  month : Nat
  day : Nat
  hour : Nat
  minute : Nat
  second : Nat
  nanosecond : Nat
  /-- Minutes that the place is ahead of universal time. -/
  offset : Int
  deriving DecidableEq, Repr

namespace Moment

/-- The start of a year in universal time. -/
def startOfYear (y : Int) : Moment := ⟨y, 1, 1, 0, 0, 0, 0, 0⟩

def isValid (m : Moment) : Bool :=
  1 ≤ m.month && m.month ≤ 12 && 1 ≤ m.day && m.day ≤ daysInMonth m.year m.month
    && m.hour < 24 && m.minute < 60 && m.second < 60

/-- The place of the day in its year, from one. -/
def dayOfYear (m : Moment) : Nat := daysBeforeMonth m.year m.month + m.day

/-- Days since the first day of the year zero, which was a Saturday. -/
def dayNumber (m : Moment) : Int := daysBeforeYear m.year + m.dayOfYear - 1

/-- The day of the week, from zero for Sunday. -/
def weekday (m : Moment) : Nat := ((m.dayNumber + 6) % 7).toNat

/-- Seconds since the start of 1970 in universal time. -/
def timestamp (m : Moment) : Int :=
  (m.dayNumber - daysBeforeYear 1970) * 86400 + m.hour * 3600 + m.minute * 60 + m.second
    - m.offset * 60

/-- The week of the year when weeks start on the given day. -/
def weekOfYear (m : Moment) (start : Nat) : Nat :=
  (m.dayOfYear + 6 - (m.weekday + 7 - start) % 7) / 7

/-- Weeks of a year that start on Monday and have most of their days in it. -/
def weeksInYear (y : Int) : Nat :=
  let first := (daysBeforeYear y + 6) % 7
  if first == 4 || (first == 3 && isLeapYear y) then 53 else 52

/-- The year and week that a day is in when a week belongs to the year of most of its days. -/
def isoWeek (m : Moment) : Int × Nat :=
  let weekday := if m.weekday == 0 then 7 else m.weekday
  let week := (m.dayOfYear + 10 - weekday) / 7
  if week = 0 then (m.year - 1, weeksInYear (m.year - 1))
  else if week > weeksInYear m.year then (m.year + 1, 1)
  else (m.year, week)

end Moment

/-! ## Notations -/

/-- The parts of a notation. -/
inductive Part where
  | year | month | monthName | monthShort | dayOfMonth | dayShort | weekdayShort
  | hour | minute | second | fraction | offset
  | mark (s : String)

/-- A number of the given count of digits. -/
def digits? (least most : Nat) (s : List Char) : Option (Nat × List Char) :=
  let ds := (s.take most).takeWhile Char.isDigit
  if ds.length < least then none
  else (Decimal.readNat? 10 ds).map (·, s.drop ds.length)

/-- A sign, and whether it is a minus. -/
def sign? : List Char → Option (Bool × List Char)
  | '+' :: s => some (false, s)
  | '-' :: s => some (true, s)
  | _ => none

/-- The place of the name that the text starts with. -/
def nameAt? (names : List String) (s : List Char) : Option (Nat × List Char) :=
  (names.zipIdx).findSome? fun (n, i) ↦ (Text.dropStart? n.toList s).map (i, ·)

/-- The moment with one part read from the text. -/
def Part.read? (m : Moment) (s : List Char) : Part → Option (Moment × List Char)
  | .year =>
    let (negative, r) := (sign? s).getD (false, s)
    (digits? 4 4 r).map fun (n, r) ↦ ({ m with year := if negative then -n else n }, r)
  | .month => (digits? 2 2 s).map fun (n, r) ↦ ({ m with month := n }, r)
  | .monthName => (nameAt? monthNames s).map fun (i, r) ↦ ({ m with month := i + 1 }, r)
  | .monthShort =>
    (nameAt? (monthNames.map abbreviated) s).map fun (i, r) ↦ ({ m with month := i + 1 }, r)
  | .dayOfMonth => (digits? 2 2 s).map fun (n, r) ↦ ({ m with day := n }, r)
  | .dayShort => (digits? 1 2 s).map fun (n, r) ↦ ({ m with day := n }, r)
  | .weekdayShort => (nameAt? (dayNames.map abbreviated) s).map fun (_, r) ↦ (m, r)
  | .hour => (digits? 2 2 s).map fun (n, r) ↦ ({ m with hour := n }, r)
  | .minute => (digits? 2 2 s).map fun (n, r) ↦ ({ m with minute := n }, r)
  | .second => (digits? 2 2 s).map fun (n, r) ↦ ({ m with second := n }, r)
  | .fraction =>
    (digits? 1 9 s).map fun (n, r) ↦
      let places := s.length - r.length
      ({ m with nanosecond := n * Nat.pow 10 (9 - places) }, r.dropWhile Char.isDigit)
  | .offset => do
    let (negative, r) ← sign? s
    let (h, r) ← digits? 2 2 r
    let (n, r) ← digits? 2 2 r
    let offset := (h * 60 + n : Nat)
    if n < 60 then some ({ m with offset := if negative then -offset else offset }, r) else none
  | .mark w => (Text.dropStart? w.toList s).map (m, ·)

def clock : List Part := [.hour, .mark ":", .minute, .mark ":", .second]

/-- The notations of a moment; each ends with the distance from universal time. -/
def notations : List (List Part) := [
  [.year, .mark "-", .month, .mark "-", .dayOfMonth, .mark " "] ++ clock,
  [.year, .mark "-", .month, .mark "-", .dayOfMonth, .mark " "] ++ clock ++ [.mark ".", .fraction],
  [.dayOfMonth, .mark " ", .monthName, .mark " ", .year, .mark " "] ++ clock,
  [.dayOfMonth, .mark " ", .monthShort, .mark " ", .year, .mark " "] ++ clock,
  [.month, .mark "/", .dayOfMonth, .mark "/", .year, .mark " "] ++ clock,
  [.weekdayShort, .mark " ", .monthShort, .mark " ", .dayShort, .mark " "] ++ clock
    ++ [.mark " ", .year]]

/-- The moment that a text denotes in a notation. -/
def readAs? (s : List Char) (parts : List Part) : Option Moment := do
  let parts := parts ++ [Part.mark " ", Part.offset]
  let (m, rest) ← parts.foldlM (fun (m, r) p ↦ Part.read? m r p) (.startOfYear 0, s)
  if rest.isEmpty && m.isValid then some m else none

/-- Whether a text ends with a distance from universal time. -/
def endsWithOffset (s : List Char) : Bool :=
  match s.reverse.take 5 with
  | [d, c, b, a, sign] =>
    (sign == '+' || sign == '-') && (a == '0' || a == '1') && b.isDigit && c.isDigit && d.isDigit
  | _ => false

/-- The moment that a text denotes in one of the notations. -/
def Moment.read? (s : List Char) : Option Moment :=
  let s := if endsWithOffset s then s else s ++ " +0000".toList
  notations.findSome? (readAs? s)

end VersionedSite.Calendar
