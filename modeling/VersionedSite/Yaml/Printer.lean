import VersionedSite.Value
import VersionedSite.Yaml.Scalar
import VersionedSite.Yaml.Datum

/-!
# Printing YAML

A value as a block document: two columns for each level, sequences of a mapping in the column of
their key, and no width at which lines are folded. A text is written plain if it reads back as
the same text, between single quotes if it would read back as something else, as a literal block
if it has line feeds, and with escapes if none of these can hold it.

The page knows its column, and whether only blanks stand before it: that decides whether a line
is ended before an indentation is written.
-/

namespace VersionedSite.Yaml

/-- A character that a printed document may hold as it is. -/
def isPrintable (c : Char) : Bool :=
  let n := c.toNat
  n == 0x0A || (0x20 ≤ n && n ≤ 0x7E) || (0xA0 ≤ n && n ≤ 0xD7FF)
    || (0xE000 ≤ n && n ≤ 0xFFFD && c != byteOrderMark) || 0x10000 ≤ n

/-! ## What a text allows -/

/-- The ways in which a text may be written. -/
structure Shape where
  multiline : Bool
  plain : Bool
  singleQuoted : Bool
  block : Bool
  deriving DecidableEq, Repr

/-- The text ends here, or a gap or a break follows. -/
def atGap (s : List Char) : Bool := s.head?.all fun c ↦ isGap c || isBreak c

/-- An indicator stands where a plain scalar in a block cannot have it: at the start, or before or
after a blank. -/
def hasIndicator (s : List Char) : Bool :=
  s.take 3 == ['-', '-', '-'] || s.take 3 == ['.', '.', '.'] || atStart s || inside s
where
  atStart : List Char → Bool
    | [] => false
    | c :: rest =>
      "#,[]\x7b\x7d&*!|>'\"%@\x60".toList.contains c
        || ((c == '?' || c == ':' || c == '-') && atGap rest)
  inside : List Char → Bool
    | a :: b :: rest =>
      (b == ':' && atGap rest) || (b == '#' && (isGap a || isBreak a)) || inside (b :: rest)
    | _ => false

/-- Two neighbours of which the first satisfies `p` and the second `q`. -/
def hasPair (p q : Char → Bool) : List Char → Bool
  | a :: b :: rest => (p a && q b) || hasPair p q (b :: rest)
  | _ => false

/-- What the characters of a text allow. -/
def shapeOf (s : List Char) : Shape :=
  if s.isEmpty then ⟨false, true, true, false⟩
  else
    let space := fun c ↦ c == ' '
    let edge := fun c : Option Char ↦ c.any fun c ↦ space c || isBreak c
    let breaks := s.any isBreak
    let special := s.any (!isPrintable ·) || hasPair space isBreak s
    { multiline := breaks
      plain := !(edge s.head? || edge s.getLast? || breaks || special || hasIndicator s)
      singleQuoted := !(hasPair isBreak space s || special)
      block := !(s.getLast?.any space || special) }

/-- How a text is to be written, before its shape is considered. -/
def wantedStyle (s : String) : Style :=
  if s.toList.contains '\n' then .literal
  else match Datum.ofPlain s with
    | .text _ => if isPaddedDigits s.toList then .singleQuoted else .plain
    | _ => .singleQuoted

/-- How a text is written. A key of one line may not be a block. -/
def chosenStyle (s : String) (simpleKey : Bool) : Style :=
  let shape := shapeOf s.toList
  let wanted := if simpleKey && shape.multiline then .doubleQuoted else wantedStyle s
  let quoted := if shape.singleQuoted then Style.singleQuoted else .doubleQuoted
  match wanted with
  | .plain => if shape.plain && !(s.isEmpty && simpleKey) then .plain else quoted
  | .singleQuoted => quoted
  | .literal | .folded => if shape.block && !simpleKey then .literal else .doubleQuoted
  | .doubleQuoted => .doubleQuoted

/-! ## The page -/

structure Page where
  /-- What has been written, last character first. -/
  written : List Char
  column : Nat
  /-- The last thing written leaves a blank behind it. -/
  spaced : Bool
  /-- Only indentation and indicators that indent stand in the line. -/
  indenting : Bool
  deriving Repr

namespace Page

def blank : Page := ⟨[], 0, true, true⟩

def put (p : Page) (c : Char) : Page := { p with written := c :: p.written, column := p.column + 1 }

def putAll (p : Page) (s : List Char) : Page := s.foldl put p

/-- A line break of the text: a line feed, or one of the separators that stand for themselves. -/
def putBreak (p : Page) (c : Char) : Page := { p with written := c :: p.written, column := 0 }

/-- Ends the line if something stands in it already, and fills it up to the column. -/
def indentTo (p : Page) (indent : Int) : Page :=
  let column := indent.toNat
  let p := if !p.indenting || p.column > column || (p.column == column && !p.spaced)
    then p.putBreak '\n' else p
  { p.putAll (List.replicate (column - p.column) ' ') with spaced := true, indenting := true }

/-- An indicator, after a space if it needs one. -/
def indicator (p : Page) (s : String) (apart spaced indents : Bool) : Page :=
  let p := if apart && !p.spaced then p.put ' ' else p
  { p.putAll s.toList with spaced, indenting := p.indenting && indents }

/-- The state behind a scalar. -/
def endScalar (p : Page) : Page := { p with spaced := false, indenting := false }

/-! ## Scalars -/

/-- Writes a character that is no break in a text of several lines, whose next line starts in
column `indent`. -/
def putInLine (p : Page) (indent : Int) (afterBreak : Bool) (s : List Char) : Page :=
  { (if afterBreak then p.indentTo indent else p).putAll s with indenting := false }

def plain (p : Page) (s : List Char) : Page :=
  ((if p.spaced || s.isEmpty then p else p.put ' ').putAll s).endScalar

/-- A text between single quotes, whose breaks are separators that stand for themselves. -/
def singleQuoted (indent : Int) (p : Page) (s : List Char) : Page :=
  let rec body : Bool → List Char → Page → Page
    | afterBreak, [], p => if afterBreak then p.indentTo indent else p
    | afterBreak, c :: rest, p =>
      if c == ' ' then body afterBreak rest (p.put c)
      else if isBreak c then
        let p := if !afterBreak && c == '\n' then p.putBreak '\n' else p
        body true rest { p.putBreak c with indenting := true }
      else body false rest (p.putInLine indent afterBreak (if c == '\'' then [c, c] else [c]))
  ((body false s (p.indicator "'" true false false)).indicator "'" false false false).endScalar

/-- The letter of an escape. -/
def escapeLetter? : Char → Option Char
  | '\x00' => some '0'
  | '\x07' => some 'a'
  | '\x08' => some 'b'
  | '\t' => some 't'
  | '\n' => some 'n'
  | '\x0b' => some 'v'
  | '\x0c' => some 'f'
  | '\r' => some 'r'
  | '\x1b' => some 'e'
  | '"' => some '"'
  | '\\' => some '\\'
  | '\u0085' => some 'N'
  | '\u00a0' => some '_'
  | '\u2028' => some 'L'
  | '\u2029' => some 'P'
  | _ => none

/-- A code point in `width` upper-case hexadecimal digits. -/
def hexCode (width n : Nat) : List Char :=
  let digits := (Nat.toDigits 16 n).map Char.toUpper
  List.replicate (width - digits.length) '0' ++ digits

/-- A character between double quotes. -/
def escape (c : Char) : List Char :=
  if isPrintable c && !isBreak c && c != '"' && c != '\\' then [c]
  else match escapeLetter? c with
    | some l => ['\\', l]
    | none =>
      let n := c.toNat
      if n ≤ 0xFF then '\\' :: 'x' :: hexCode 2 n
      else if n ≤ 0xFFFF then '\\' :: 'u' :: hexCode 4 n
      else '\\' :: 'U' :: hexCode 8 n

def doubleQuoted (p : Page) (s : List Char) : Page :=
  (((p.indicator "\"" true false false).putAll (s.flatMap escape)).indicator "\"" false false
    false).endScalar

/-- How the breaks at the end of a block are marked: none is stripped, several are kept. -/
def chompMark (s : List Char) : String :=
  match s.reverse with
  | [] => "-"
  | [c] => if isBreak c then "+" else "-"
  | c :: d :: _ => if !isBreak c then "-" else if isBreak d then "+" else ""

/-- A text as a block of lines. A blank at its start would be taken for indentation, so the
indentation is written then. -/
def literal (indent : Int) (p : Page) (s : List Char) : Page :=
  let p := p.indicator "|" true false false
  let p :=
    if s.head?.any fun c ↦ c == ' ' || isBreak c then p.indicator "2" false false false else p
  let mark := chompMark s
  let p := if mark.isEmpty then p else p.indicator mark false false false
  let p := { p.putBreak '\n' with indenting := true, spaced := true }
  (s.foldl (fun (st : Bool × Page) c ↦
    if isBreak c then (true, { st.2.putBreak c with indenting := true })
    else (false, st.2.putInLine indent st.1 [c])) (true, p)).2

end Page

/-! ## Values -/

/-- The indentation inside a collection or scalar; a sequence of a mapping may keep that of its
key. -/
def deeper (indent : Int) (inline aligned : Bool) : Int :=
  if indent < 0 then (if inline then 2 else 0) else if aligned then indent else indent + 2

def printText (indent : Int) (simpleKey : Bool) (s : String) (p : Page) : Page :=
  let inner := deeper indent true false
  match chosenStyle s simpleKey with
  | .plain => p.plain s.toList
  | .singleQuoted => Page.singleQuoted inner p s.toList
  | .doubleQuoted => p.doubleQuoted s.toList
  | .literal | .folded => Page.literal inner p s.toList

/-- A key fits before a colon if it has one line of at most 128 bytes. -/
def isSimpleKey (s : String) : Bool := !(shapeOf s.toList).multiline && s.utf8ByteSize ≤ 128

mutual

/-- Prints a value in a collection indented by `indent`, negative at the top. -/
def printValue (indent : Int) (inMapping : Bool) : Value → Page → Page
  | .null, p => p.plain "null".toList
  | .bool b, p => p.plain (if b then "true" else "false").toList
  | .number n, p => p.plain (toString n).toList
  | .text s, p => printText indent false s p
  | .list [], p => (p.indicator "[" true true false).indicator "]" false false false
  | .list (x :: xs), p => printItems (deeper indent false (inMapping && !p.indenting)) (x :: xs) p
  | .record [], p => (p.indicator "\x7b" true true false).indicator "\x7d" false false false
  | .record (f :: fs), p => printFields (deeper indent false false) (f :: fs) p

def printItems (indent : Int) : List Value → Page → Page
  | [], p => p
  | x :: xs, p =>
    let p := (p.indentTo indent).indicator "-" true false true
    printItems indent xs (printValue indent false x p)

def printFields (indent : Int) : List (String × Value) → Page → Page
  | [], p => p
  | (k, v) :: fs, p =>
    let p := p.indentTo indent
    let p :=
      if isSimpleKey k then (printText indent true k p).indicator ":" false false false
      else ((printText indent false k (p.indicator "?" true false true)).indentTo indent).indicator
        ":" true false true
    printFields indent fs (printValue indent true v p)

end

/-- The value as a document, without a break at its end. -/
def print (v : Value) : List Char := (printValue (-1) false v Page.blank).written.reverse

end VersionedSite.Yaml
