import VersionedSite.Yaml.Cursor
import VersionedSite.Decimal.Numeral

/-!
# Scalars as they are written

The five ways to write a scalar and the text that each stands for. A scalar that runs over
several lines is folded: what matters of the blanks between two of its words is collected in a
`Fold`, and the fold alone decides what text it contributes. Plain and quoted scalars share it.
-/

namespace VersionedSite.Yaml

/-- How a scalar is written. -/
inductive Style where
  | plain
  | singleQuoted
  | doubleQuoted
  | literal
  | folded
  deriving DecidableEq, Repr

/-! ## Folding -/

/-- The blanks between two words of a scalar: gaps in one line, or a first break and the breaks
after it. -/
structure Fold where
  broken : Bool
  gaps : List Char
  first : List Char
  more : List Char
  deriving DecidableEq, Repr

namespace Fold

def none : Fold := ⟨false, [], [], []⟩

/-- The fold after a break that is escaped and so stands for nothing. -/
def escaped : Fold := ⟨true, [], [], []⟩

/-- A single line feed folds to a space, and one line feed fewer is kept of several. -/
def text (f : Fold) : List Char :=
  if f.broken then
    if f.first.head? == some '\n' then (if f.more.isEmpty then [' '] else f.more)
    else f.first ++ f.more
  else f.gaps

/-- The fold with one more gap character. -/
def addGap (f : Fold) (c : Char) : Fold := if f.broken then f else { f with gaps := f.gaps ++ [c] }

/-- The fold with one more break. -/
def addBreak (f : Fold) (b : List Char) : Fold :=
  if f.broken then { f with more := f.more ++ b } else ⟨true, [], b, []⟩

/-- All blanks at the front of the cursor. In a plain scalar no tab may stand before column
`indent` of a continuation line. -/
def read (indent : Nat) : Nat → Fold → Cursor → Option (Fold × Cursor)
  | 0, f, c => some (f, c)
  | fuel + 1, f, c =>
    match c.rest with
    | [] => some (f, c)
    | ch :: _ =>
      if isGap ch then
        if f.broken && c.column < indent && ch == '\t' then Option.none
        else read indent fuel (f.addGap ch) (c.skip 1)
      else if isBreak ch then
        let (b, c) := c.readBreak
        read indent fuel (f.addBreak b) c
      else some (f, c)

end Fold

/-! ## Plain scalars -/

/-- The indicators that end a plain scalar inside brackets and braces. -/
def isFlowMark (c : Char) : Bool :=
  c == ',' || c == '[' || c == ']' || c == '{' || c == '}'

/-- The text ends, or a gap or break stands at its front. -/
def atWordEnd (s : List Char) : Bool := s.head?.all fun c ↦ isGap c || isBreak c

/-- A run of a plain scalar without blanks, and what follows it. A colon ends it before a blank;
inside brackets and braces it may not stand before an indicator. -/
def plainRun (inFlow : Bool) : List Char → Option (List Char × List Char)
  | [] => some ([], [])
  | c :: rest =>
    if isGap c || isBreak c then some ([], c :: rest)
    else if inFlow && c == ':' && rest.head?.any (fun d ↦ isFlowMark d || d == '?') then none
    else if (c == ':' && atWordEnd rest) || (inFlow && isFlowMark c) then some ([], c :: rest)
    else (plainRun inFlow rest).map fun (run, after) ↦ (c :: run, after)

/-- A plain scalar from `c` on, after `text` and the blanks `fold`. The last component says
whether the scalar ended at the start of a line. -/
def readPlain (inFlow : Bool) (indent : Nat) :
    Nat → List Char → Fold → Cursor → Option (List Char × Cursor × Bool)
  | 0, text, fold, c => some (text, c, fold.broken)
  | fuel + 1, text, fold, c =>
    if c.atDocumentMark || c.sees '#' then some (text, c, fold.broken)
    else do
      let (run, after) ← plainRun inFlow c.rest
      let joined := if run.isEmpty then text else text ++ fold.text ++ run
      let fold := if run.isEmpty then fold else Fold.none
      let c := c.skip run.length
      if after.head?.all fun ch ↦ !(isGap ch || isBreak ch) then return (joined, c, fold.broken)
      let (fold, c) ← Fold.read indent (c.rest.length + 1) fold c
      if !inFlow && c.column < indent then return (joined, c, fold.broken)
      readPlain inFlow indent fuel joined fold c

/-! ## Quoted scalars -/

/-- The character that an escape of one letter stands for. -/
def simpleEscape? : Char → Option Char
  | '0' => some '\x00'
  | 'a' => some '\x07'
  | 'b' => some '\x08'
  | 't' => some '\t'
  | '\t' => some '\t'
  | 'n' => some '\n'
  | 'v' => some '\x0b'
  | 'f' => some '\x0c'
  | 'r' => some '\r'
  | 'e' => some '\x1b'
  | ' ' => some ' '
  | '"' => some '"'
  | '/' => some '/'
  | '\\' => some '\\'
  | 'N' => some '\u0085'
  | '_' => some '\u00a0'
  | 'L' => some '\u2028'
  | 'P' => some '\u2029'
  | _ => none

/-- How many hexadecimal digits follow the letter of a numeric escape. -/
def escapeWidth? : Char → Option Nat
  | 'x' => some 2
  | 'u' => some 4
  | 'U' => some 8
  | _ => none

/-- The character of an escape, given what follows the backslash, with the number of characters
that the escape takes after it. -/
def readEscape? : List Char → Option (Char × Nat)
  | [] => none
  | c :: rest =>
    match simpleEscape? c with
    | some d => some (d, 1)
    | none => do
      let width ← escapeWidth? c
      let digits := rest.take width
      if digits.length < width then none
      let n ← Decimal.readNat? 16 digits
      if n.isValidChar then some (Char.ofNat n, width + 1) else none

/-- A run of a quoted scalar up to a blank or to the closing quote, with the fold that an escaped
break starts. -/
def quotedRun (single : Bool) : Nat → Cursor → Option (List Char × Fold × Cursor)
  | 0, c => some ([], Fold.none, c)
  | fuel + 1, c =>
    match c.rest with
    | [] => some ([], Fold.none, c)
    | ch :: rest =>
      if isGap ch || isBreak ch then some ([], Fold.none, c)
      else if single && ch == '\'' then
        if rest.head? == some '\'' then
          (quotedRun single fuel (c.skip 2)).map fun (run, more) ↦ ('\'' :: run, more)
        else some ([], Fold.none, c)
      else if !single && ch == '"' then some ([], Fold.none, c)
      else if !single && ch == '\\' then
        if rest.head?.any isBreak then some ([], Fold.escaped, (c.skip 1).readBreak.2)
        else do
          let (d, n) ← readEscape? rest
          let (run, more) ← quotedRun single fuel (c.skip (n + 1))
          some (d :: run, more)
      else (quotedRun single fuel (c.skip 1)).map fun (run, more) ↦ (ch :: run, more)

/-- The rest of a quoted scalar up to its closing quote. -/
def readQuoted (single : Bool) : Nat → List Char → Cursor → Option (List Char × Cursor)
  | 0, _, _ => none
  | fuel + 1, text, c =>
    if c.atDocumentMark || c.rest.isEmpty then none
    else do
      let (run, fold, c) ← quotedRun single (c.rest.length + 1) c
      let text := text ++ run
      if c.sees (if single then '\'' else '"') then return (text, c.skip 1)
      let (fold, c) ← Fold.read 0 (c.rest.length + 1) fold c
      readQuoted single fuel (text ++ fold.text) c

/-! ## Block scalars -/

/-- What happens to the breaks at the end of a block scalar. -/
inductive Chomp where
  | strip
  | clip
  | keep
  deriving DecidableEq, Repr

/-- The mark for the breaks at the end, if one is written. -/
def readChomp? (c : Cursor) : Option (Chomp × Cursor) :=
  match c.rest with
  | '+' :: _ => some (.keep, c.skip 1)
  | '-' :: _ => some (.strip, c.skip 1)
  | _ => none

/-- The indentation, if one is written; zero is refused. -/
def readIndentDigit (c : Cursor) : Option (Nat × Cursor) :=
  match c.rest with
  | d :: _ =>
    if d.isDigit then (if d == '0' then none else some (d.toNat - 48, c.skip 1)) else some (0, c)
  | [] => some (0, c)

/-- The marks after the indicator of a block scalar, in either order. An indentation of zero
stands for none. -/
def readBlockHeader (c : Cursor) : Option (Chomp × Nat × Cursor) :=
  match readChomp? c with
  | some (chomp, c) => (readIndentDigit c).map fun (n, c) ↦ (chomp, n, c)
  | none => (readIndentDigit c).map fun (n, c) ↦
    if n = 0 then (.clip, 0, c)
    else match readChomp? c with
      | some (chomp, c) => (chomp, n, c)
      | none => (.clip, n, c)

/-- Empty lines of a block scalar, with the greatest column that their spaces reach. While no
indentation is known, all spaces at the start of a line count as indentation. -/
def blockBreaks (indent : Nat) : Nat → List Char → Nat → Cursor → Option (List Char × Nat × Cursor)
  | 0, breaks, deepest, c => some (breaks, deepest, c)
  | fuel + 1, breaks, deepest, c =>
    let spaces := (c.rest.takeWhile (· == ' ')).length
    let c := c.skip (if indent = 0 then spaces else min spaces (indent - c.column))
    let deepest := max deepest c.column
    if (indent = 0 || c.column < indent) && c.sees '\t' then none
    else if c.holdsAt 0 isBreak then
      let (b, c) := c.readBreak
      blockBreaks indent fuel (breaks ++ b) deepest c
    else some (breaks, deepest, c)

/-- The lines of a block scalar. `pending` is the break after the last line, and `breaks` the
empty lines after it; both reach the text only if another line follows. -/
def blockLines (literal : Bool) (indent : Nat) :
    Nat → List Char → List Char → Bool → List Char → Cursor →
    Option (List Char × List Char × List Char × Cursor)
  | 0, text, pending, _, breaks, c => some (text, pending, breaks, c)
  | fuel + 1, text, pending, gapBefore, breaks, c =>
    if c.column ≠ indent || c.rest.isEmpty then some (text, pending, breaks, c)
    else do
      let gapHere := c.holdsAt 0 isGap
      let joint :=
        if !literal && pending.head? == some '\n' && !gapBefore && !gapHere then
          (if breaks.isEmpty then [' '] else [])
        else pending
      let line := c.rest.takeWhile (!isBreak ·)
      let (b, c) := (c.skip line.length).readBreak
      let (breaks', _, c) ← blockBreaks indent (c.rest.length + 1) [] 0 c
      blockLines literal indent fuel (text ++ joint ++ breaks ++ line) b gapHere breaks' c

/-- A block scalar after its indicator, inside a collection indented by `outer`, which is
negative at the top. -/
def readBlock (literal : Bool) (outer : Int) (c : Cursor) : Option (List Char × Cursor) := do
  let (chomp, digit, c) ← readBlockHeader c
  let c := c.skipGaps.skipComment
  if !c.endsLine then none
  let c := c.readBreak.2
  let written := if digit = 0 then 0 else (if outer ≥ 0 then outer.toNat + digit else digit)
  let (breaks, deepest, c) ← blockBreaks written (c.rest.length + 1) [] 0 c
  let indent := if written = 0 then max (max deepest (outer + 1).toNat) 1 else written
  let (text, pending, breaks, c) ←
    blockLines literal indent (c.rest.length + 1) [] [] false breaks c
  let tail := match chomp with
    | .strip => []
    | .clip => pending
    | .keep => pending ++ breaks
  return (text ++ tail, c)

end VersionedSite.Yaml
