import VersionedSite.Text.Search

/-!
# Reading position

A cursor is the text that is still to be read, together with how far it has been read: in the
bytes of UTF-8, in lines, and in the columns of the current line. Indentation is a matter of
columns, and the reach of a key that needs no mark is a matter of bytes and lines, so the scanner
carries all three. Outside this module only `skip` and `readBreak` move a cursor.
-/

namespace VersionedSite.Yaml

/-! ## Classes of characters -/

/-- The five line breaks of YAML 1.1, a carriage return and line feed counting as one. -/
def isBreak (c : Char) : Bool :=
  c == '\n' || c == '\r' || c == '\u0085' || c == '\u2028' || c == '\u2029'

/-- Space and tab. -/
def isGap (c : Char) : Bool := c == ' ' || c == '\t'

/-- The characters of anchor names and tag handles. -/
def isWord (c : Char) : Bool := c.isAlphanum || c == '_' || c == '-'

/-- The characters that may stand in a document at all. -/
def isAllowed (c : Char) : Bool :=
  let n := c.toNat
  n == 9 || n == 10 || n == 13 || (0x20 ≤ n && n ≤ 0x7E) || n == 0x85
    || (0xA0 ≤ n && n ≤ 0xD7FF) || (0xE000 ≤ n && n ≤ 0xFFFD) || 0x10000 ≤ n

/-- The byte order mark. -/
def byteOrderMark : Char := '\uFEFF'

/-! ## The cursor -/

structure Cursor where
  rest : List Char
  /-- Bytes before the cursor. -/
  index : Nat
  line : Nat
  column : Nat
  deriving DecidableEq, Repr

namespace Cursor

def start (text : List Char) : Cursor := ⟨text, 0, 0, 0⟩

/-- Bytes before the place that is `n` characters on. -/
def indexAt (c : Cursor) (n : Nat) : Nat := c.index + Text.byteCount (c.rest.take n)

/-- The cursor `n` characters on, in the same line. -/
def skip (c : Cursor) (n : Nat) : Cursor :=
  { c with rest := c.rest.drop n, index := c.indexAt n, column := c.column + n }

/-- The cursor behind the characters at its front that satisfy `p`, which no break may. -/
def skipWhile (p : Char → Bool) (c : Cursor) : Cursor := c.skip (c.rest.takeWhile p).length

/-- The cursor at the start of the next line, `n` characters on. -/
def newline (c : Cursor) (n : Nat) : Cursor :=
  { rest := c.rest.drop n, index := c.indexAt n, line := c.line + 1, column := 0 }

/-- The cursor behind the break at its front, with the text that the break stands for: the two
Unicode separators stand for themselves, all others for a line feed. -/
def readBreak (c : Cursor) : List Char × Cursor :=
  match c.rest with
  | '\r' :: '\n' :: _ => (['\n'], c.newline 2)
  | ch :: _ =>
    if ch == '\u2028' || ch == '\u2029' then ([ch], c.newline 1)
    else if isBreak ch then (['\n'], c.newline 1)
    else ([], c)
  | [] => ([], c)

/-- The character `n` places on. -/
def at? (c : Cursor) (n : Nat) : Option Char := c.rest[n]?

/-- The character at the front is `ch`. -/
def sees (c : Cursor) (ch : Char) : Bool := c.rest.head? == some ch

/-- The character `n` places on satisfies `p`. -/
def holdsAt (c : Cursor) (n : Nat) (p : Char → Bool) : Bool := (c.at? n).any p

/-- The text ends, or has a gap or a break, `n` places on. -/
def endsWordAt (c : Cursor) (n : Nat) : Bool := (c.at? n).all fun ch ↦ isGap ch || isBreak ch

/-- The text ends, or has a break, at the front. -/
def endsLine (c : Cursor) : Bool := (c.at? 0).all isBreak

/-- A line made of three dashes or three points at its start, which ends a document. -/
def atDocumentMark (c : Cursor) : Bool :=
  c.column == 0 &&
    (c.rest.take 3 == ['-', '-', '-'] || c.rest.take 3 == ['.', '.', '.']) && c.endsWordAt 3

/-- The cursor behind the gaps at its front. -/
def skipGaps (c : Cursor) : Cursor := c.skipWhile isGap

/-- The cursor at the end of the line, behind a comment if one stands at the front. -/
def skipComment (c : Cursor) : Cursor :=
  if c.sees '#' then c.skipWhile (!isBreak ·) else c

end Cursor

end VersionedSite.Yaml
