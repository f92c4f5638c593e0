import VersionedSite.Calendar.Moment

/-!
# Patterns of moments

Writing a moment by a pattern: plain text with directives, each a percent sign, flags, a width, a
modifier that changes nothing, and a letter. Flags say how a number is filled up and in which case
a name is written; what is no directive is written as it stands.

A number is filled up between its sign and its digits with zeros, and before its sign with spaces.
Fractions of a second are filled up on the right.
-/

namespace VersionedSite.Calendar

/-! ## Flags -/

/-- What fills a number or name up to its width. -/
inductive Fill where
  | usual
  | space
  | zero
  deriving DecidableEq, Repr

/-- The case of a name. -/
inductive LetterCase where
  | usual
  | upper
  /-- The other case than usual. -/
  | swapped
  deriving DecidableEq, Repr

/-- The flags of a directive, and its width. -/
structure Flags where
  fill : Fill := .usual
  /-- Numbers and names are not filled up, whatever the fill is. -/
  bare : Bool := false
  letters : LetterCase := .usual
  width : Option Nat := none

/-- One more flag; of two of a kind, the last counts. -/
def Flags.push (f : Flags) : Char → Option Flags
  | '-' => some { f with bare := true }
  | '_' => some { f with fill := .space }
  | '0' => some { f with fill := .zero }
  | '^' => some { f with letters := .upper }
  | '#' => some { f with letters := .swapped }
  | _ => none

/-- The flags at the start of the text. -/
def Flags.read (f : Flags) : List Char → Flags × List Char
  | [] => (f, [])
  | c :: s =>
    match f.push c with
    | some f => f.read s
    | none => (f, c :: s)

/-- What stands between the percent sign and the letter of a directive. A width has sixty-four
bits; a greater one is refused. -/
def readFlags? (s : List Char) : Option (Flags × List Char) :=
  let (f, s) := Flags.read {} s
  let ds := s.takeWhile Char.isDigit
  let width := Decimal.readNat? 10 ds
  if width.any (· ≥ 18446744073709551616) then none
  else
    let f := { f with width }
    match s.drop ds.length with
    | 'E' :: s => some (f, s)
    | 'O' :: s => some (f, s)
    | s => some (f, s)

/-! ## Parts -/

/-- `s` with `c` before it, up to the width. -/
def filled (c : Char) (width : Nat) (s : List Char) : List Char :=
  List.replicate (width - s.length) c ++ s

/-- The fill that flags ask for; unless they ask for one, it is that of the directive. -/
def Flags.fillOr (f : Flags) (own : Fill) : Fill := if f.fill = .usual then own else f.fill

/-- A text up to the width. -/
def padded (f : Flags) (s : List Char) : List Char :=
  filled (if f.fill = .zero then '0' else ' ') (f.width.getD 0) s

/-- A name or a single character. -/
def word (f : Flags) (s : List Char) : List Char := if f.bare then s else padded f s

def sign (negative : Bool) : List Char := if negative then ['-'] else []

/-- A number up to the width. -/
def decimal (f : Flags) (own : Fill) (width : Nat) (n : Int) : List Char :=
  let width := f.width.getD width
  let ds := (toString n.natAbs).toList
  let s := sign (n < 0)
  if f.bare then s ++ ds
  else if f.fillOr own = .zero then s ++ filled '0' (width - s.length) ds
  else filled ' ' width (s ++ ds)

/-- A number of so many digits, with perhaps a sign before them. -/
def signed (f : Flags) (digits : Nat) (n : Int) : List Char :=
  decimal f .zero (if n < 0 then digits + 1 else digits) n

/-- A name in the case that the flags ask for. -/
def named (f : Flags) (swapped : List Char → List Char) (s : List Char) : List Char :=
  word f <|
    match f.letters with
    | .usual => s
    | .upper => s.map Char.toUpper
    | .swapped => swapped s

def upperCase (s : List Char) : List Char := s.map Char.toUpper

def lowerCase (s : List Char) : List Char := s.map Char.toLower

def nameAt (names : List String) (i : Nat) : List Char := (names[i]?.getD "").toList

/-- The half of the day. -/
def halfDay (hour : Nat) : List Char := if hour < 12 then ['A', 'M'] else ['P', 'M']

/-- The distance from universal time with so many colons. The width is that of the whole, and what
remains of it for the hours fills them up; before spaces they take the sign with them. -/
def offsetText (f : Flags) (colons : Nat) (offset : Int) : List Char :=
  let two := fun n ↦ filled '0' 2 (toString (n : Nat)).toList
  let n := offset.natAbs
  let minutes := (if colons = 0 then [] else [':']) ++ two (n % 60)
    ++ (if colons ≥ 2 then [':', '0', '0'] else [])
  let hours := (toString (n / 60)).toList
  let width := max 2 (f.width.getD 0 - (minutes.length + 1))
  if f.fill = .space then
    filled ' ' width ((if offset < 0 && 60 ≤ n then '-' else '+') :: hours) ++ minutes
  else (if offset < 0 then '-' else '+') :: filled '0' width hours ++ minutes

/-- So many digits of the fraction of a second. Zeros that it starts with are not written but
follow its other digits. -/
def fractionText (f : Flags) (places nanosecond : Nat) : List Char :=
  let places := f.width.getD places
  let ds := (toString (nanosecond / Nat.pow 10 (9 - places))).toList
  ds ++ List.replicate (places - ds.length) '0'

/-- The hour on a clock of twelve. -/
def hour12 (h : Nat) : Nat := if h % 12 = 0 then 12 else h % 12

/-- The place of the day in a week that starts on Monday, from one. -/
def isoWeekday (m : Moment) : Nat := if m.weekday = 0 then 7 else m.weekday

/-- What a directive of a single part writes. -/
def part? (m : Moment) (f : Flags) (letter : Char) : Option (List Char) :=
  match letter with
  | 'Y' => some (signed f 4 m.year)
  | 'C' => some (signed f 2 (m.year.tdiv 100))
  | 'y' => some (signed f 2 (m.year.tmod 100))
  | 'm' => some (decimal f .zero 2 m.month)
  | 'B' => some (named f upperCase (nameAt monthNames (m.month - 1)))
  | 'b' | 'h' => some (named f upperCase ((nameAt monthNames (m.month - 1)).take 3))
  | 'd' => some (decimal f .zero 2 m.day)
  | 'e' => some (decimal f .space 2 m.day)
  | 'j' => some (decimal f .zero 3 m.dayOfYear)
  | 'H' => some (decimal f .zero 2 m.hour)
  | 'k' => some (decimal f .space 2 m.hour)
  | 'I' => some (decimal f .zero 2 (hour12 m.hour))
  | 'l' => some (decimal f .space 2 (hour12 m.hour))
  | 'P' => some (named f upperCase (lowerCase (halfDay m.hour)))
  | 'p' => some (named f lowerCase (halfDay m.hour))
  | 'M' => some (decimal f .zero 2 m.minute)
  | 'S' => some (decimal f .zero 2 m.second)
  | 'L' => some (fractionText f 3 m.nanosecond)
  | 'N' => some (fractionText f 9 m.nanosecond)
  | 'z' => some (offsetText f 0 m.offset)
  | 'Z' => some (offsetText f 1 m.offset)
  | 'A' => some (named f upperCase (nameAt dayNames m.weekday))
  | 'a' => some (named f upperCase ((nameAt dayNames m.weekday).take 3))
  | 'u' => some (decimal f .zero 1 (isoWeekday m))
  | 'w' => some (decimal f .zero 1 m.weekday)
  | 'G' => some (signed f 4 m.isoWeek.1)
  | 'g' => some (signed f 2 (m.isoWeek.1.tmod 100))
  | 'V' => some (decimal f .zero 2 m.isoWeek.2)
  | 'U' => some (decimal f .zero 2 (m.weekOfYear 0))
  | 'W' => some (decimal f .zero 2 (m.weekOfYear 1))
  | 's' => some (decimal f .zero 1 m.timestamp)
  | 'n' => some (word f ['\n'])
  | 't' => some (word f ['\t'])
  | '%' => some (word f ['%'])
  | _ => none

/-! ## Patterns -/

/-- The pattern that a directive stands for. In its years a sign takes the place of a digit. -/
def shorthand? : Char → Option String
  | 'c' => some "%a %b %e %H:%M:%S %4Y"
  | 'D' | 'x' => some "%m/%d/%2y"
  | 'F' => some "%4Y-%m-%d"
  | 'v' => some "%e-%^b-%4Y"
  | 'r' => some "%I:%M:%S %p"
  | 'R' => some "%H:%M"
  | 'T' | 'X' => some "%H:%M:%S"
  | _ => none

/-- The text of a pattern that a directive stands for. -/
def composite (f : Flags) (s : List Char) : List Char :=
  padded f (if f.letters = .usual then s else upperCase s)

/-- A directive at the start of the text, after its percent sign: how many characters it has, and
what it writes, or nothing if it is none. `shorthands` writes the patterns that directives stand
for. A directive without a letter is refused. Up to two colons may stand before a letter, whatever
that is, but only one letter makes a directive with them. -/
def directive? (m : Moment) (shorthands : List Char → Option (List Char)) (s : List Char) :
    Option (Nat × Option (List Char)) := do
  let (f, rest) ← readFlags? s
  let size := s.length - rest.length
  match rest with
  | [] => none
  | ':' :: ':' :: 'z' :: _ => return (size + 3, some (offsetText f 2 m.offset))
  | ':' :: ':' :: _ => return (size + 3, none)
  | ':' :: 'z' :: _ => return (size + 2, some (offsetText f 1 m.offset))
  | ':' :: _ => return (size + 2, none)
  | letter :: _ =>
    match part? m f letter, shorthand? letter with
    | some text, _ => return (size + 1, some text)
    | none, some pattern => return (size + 1, some (composite f (← shorthands pattern.toList)))
    | none, none => return (size + 1, none)

/-- The moment by a pattern; `fuel` bounds the length of the pattern. -/
def writeWith (m : Moment) (shorthands : List Char → Option (List Char)) :
    Nat → List Char → Option (List Char)
  | _, [] => some []
  | 0, _ :: _ => none
  | fuel + 1, c :: s =>
    if c ≠ '%' then (writeWith m shorthands fuel s).map (c :: ·)
    else do
      let (size, text) ← directive? m shorthands s
      let more ← writeWith m shorthands fuel (s.drop size)
      return text.getD (c :: s.take size) ++ more

/-- The moment as the pattern wants it. The patterns that directives stand for hold no such
directives. -/
def Moment.write? (m : Moment) (pattern : List Char) : Option (List Char) :=
  writeWith m (fun s ↦ writeWith m (fun _ ↦ none) (s.length + 1) s) (pattern.length + 1) pattern

end VersionedSite.Calendar
