/-!
# Blank characters

The characters that count as white space in texts, URLs and titles: the twenty-five of the
Unicode property `White_Space`. Core's `Char.isWhitespace` knows four of them, so the table is
written out here and every module that trims or forbids blanks goes through it.
-/

namespace VersionedSite.Text

/-- The members of `White_Space`, as ranges of code points. -/
def isBlank (c : Char) : Bool :=
  let n := c.toNat
  (9 ≤ n && n ≤ 13) || n == 0x20 || n == 0x85 || n == 0xA0 || n == 0x1680
    || (0x2000 ≤ n && n ≤ 0x200A) || n == 0x2028 || n == 0x2029 || n == 0x202F
    || n == 0x205F || n == 0x3000

/-- The text without its leading blanks. -/
def trimStart (s : List Char) : List Char := s.dropWhile isBlank

/-- The text without its trailing characters that satisfy `p`. -/
def trimEndWhile (p : Char → Bool) (s : List Char) : List Char := (s.reverse.dropWhile p).reverse

/-- The text without its trailing blanks. -/
def trimEnd (s : List Char) : List Char := trimEndWhile isBlank s

/-- The text without the blanks at its two ends. -/
def trim (s : List Char) : List Char := trimEnd (trimStart s)

/-- A text of blanks alone, the empty text included. -/
def allBlank (s : List Char) : Bool := s.all isBlank

end VersionedSite.Text
