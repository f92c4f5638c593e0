import VersionedSite.Yaml.Cursor
import VersionedSite.Decimal.Numeral

/-!
# Tags, anchors and directives

The parts of a document that name things: tags with their handles, anchors and aliases, and the
directives before a document that give handles their meaning. A handle is a shorthand for the
start of a tag; `!!` stands for the tags of YAML itself.
-/

namespace VersionedSite.Yaml

/-- The characters that a tag is made of. Commas and brackets belong to it only between angle
brackets and in a directive. -/
def isTagChar (verbatim : Bool) (c : Char) : Bool :=
  isWord c || ";/?:@&=+$.%!~*'()".toList.contains c
    || (verbatim && (c == ',' || c == '[' || c == ']'))

/-- The octets of two hexadecimal digits after each percent sign, `count` times. -/
def readOctets : Nat → List Char → Option (List UInt8 × List Char)
  | 0, s => some ([], s)
  | count + 1, s =>
    match s with
    | '%' :: a :: b :: rest => do
      let n ← Decimal.readNat? 16 [a, b]
      let (more, after) ← readOctets count rest
      some (n.toUInt8 :: more, after)
    | _ => none

/-- How many octets a UTF-8 sequence has, by its first. -/
def sequenceLength? (n : UInt8) : Option Nat :=
  if n < 0x80 then some 1
  else if 0xC0 ≤ n && n < 0xE0 then some 2
  else if 0xE0 ≤ n && n < 0xF0 then some 3
  else if 0xF0 ≤ n && n < 0xF8 then some 4
  else none

/-- The octets of an escaped sequence, which need not be a character, with what follows it. -/
def readEscape (s : List Char) : Option (List UInt8 × List Char) := do
  let (first, _) ← readOctets 1 s
  let length ← sequenceLength? (← first.head?)
  let (octets, after) ← readOctets length s
  if (octets.drop 1).all fun n ↦ n / 64 == 2 then some (octets, after) else none

/-- The octets of a tag at the front, with what follows them. -/
def readTagOctets (verbatim : Bool) : Nat → List Char → Option (List UInt8 × List Char)
  | 0, s => some ([], s)
  | fuel + 1, s =>
    match s with
    | [] => some ([], [])
    | c :: rest =>
      if !isTagChar verbatim c then some ([], c :: rest)
      else do
        let (octets, rest) ←
          if c == '%' then readEscape (c :: rest) else some ([c.toNat.toUInt8], rest)
        let (more, after) ← readTagOctets verbatim fuel rest
        some (octets ++ more, after)

/-- The cursor at `after`, which ends its text. -/
def Cursor.moveTo (c : Cursor) (after : List Char) : Cursor := c.skip (c.rest.length - after.length)

/-- A handle: an exclamation mark, word characters, and in general a second mark. -/
def readHandle (c : Cursor) : Option (List Char × Cursor) :=
  match c.rest with
  | '!' :: rest =>
    let word := rest.takeWhile isWord
    let handle := '!' :: word
    if rest.drop word.length |>.head? |>.any (· == '!') then
      some (handle ++ ['!'], c.skip (handle.length + 1))
    else some (handle, c.skip handle.length)
  | _ => none

/-- A tag as it is meant. Escapes may give it any octets but zero, which cuts it off, so a tag
need not be a text. -/
structure Tag where
  octets : List UInt8
  deriving DecidableEq, Repr

namespace Tag

def ofString (s : String) : Tag := ⟨s.toUTF8.toList⟩

/-- The tag `!`, which is in front of all tags that a document makes up. -/
def own : Tag := ofString "!"

/-- The tags of YAML itself. -/
def core (name : String) : Tag := ofString ("tag:yaml.org,2002:" ++ name)

/-- What is left of the octets when zero cuts them off. -/
def cutOff (octets : List UInt8) : List UInt8 := octets.takeWhile (· != 0)

/-- The octets one after the other, each part of them cut off by itself. -/
def ofParts (start rest : List UInt8) : Tag := ⟨cutOff start ++ cutOff rest⟩

/-- A tag that a document makes up. -/
def isOwn (t : Tag) : Bool := t.octets.head? == some 33

/-- The name after the mark of a tag that a document makes up, if it is a text. The mark alone is
its own name. -/
def name? (t : Tag) : Option String :=
  match t.octets with
  | 33 :: rest => String.fromUTF8? ⟨(if rest.isEmpty then [33] else rest).toArray⟩
  | _ => none

end Tag

/-- A tag as it is written: a handle, which may be empty, and the octets of the rest. -/
structure TagText where
  handle : List Char
  suffix : List UInt8
  deriving DecidableEq, Repr

/-- Where a tag may end: before a blank or, inside brackets and braces, before a comma. -/
def endsTag (inFlow : Bool) (c : Cursor) : Bool := c.endsWordAt 0 || (inFlow && c.sees ',')

/-- A tag at its exclamation mark. A mark alone is the tag `!` without a handle. -/
def readTag (inFlow : Bool) (c : Cursor) : Option (TagText × Cursor) := do
  let (tag, c) ←
    if c.at? 1 == some '<' then do
      let c := c.skip 2
      let (suffix, after) ← readTagOctets true (c.rest.length + 1) c.rest
      let c := c.moveTo after
      if suffix.isEmpty || !c.sees '>' then none
      else some (TagText.mk [] suffix, c.skip 1)
    else do
      let (handle, c) ← readHandle c
      let (suffix, after) ← readTagOctets false (c.rest.length + 1) c.rest
      let c := c.moveTo after
      if handle.length > 1 && handle.getLast? == some '!' then
        if suffix.isEmpty then none else some (TagText.mk handle suffix, c)
      else
        let suffix := (handle.drop 1).map (·.toNat.toUInt8) ++ suffix
        some (if (Tag.cutOff suffix).isEmpty then TagText.mk [] Tag.own.octets
          else TagText.mk ['!'] suffix, c)
  if endsTag inFlow c then return (tag, c) else none

/-- The characters that may follow the name of an anchor or alias, blanks apart. -/
def endsAnchor (c : Cursor) : Bool :=
  c.endsWordAt 0 || c.holdsAt 0 fun ch ↦ "?:,]\x7d%@\x60".toList.contains ch

/-- The name of an anchor or alias, after its indicator. -/
def readAnchor (c : Cursor) : Option (List Char × Cursor) :=
  let c := c.skip 1
  let name := c.rest.takeWhile isWord
  let c := c.skip name.length
  if name.isEmpty || !endsAnchor c then none else some (name, c)

/-! ## Directives -/

/-- What a directive says. -/
inductive Directive where
  | version (major minor : Nat)
  | tag (handle : List Char) (start : List UInt8)
  deriving DecidableEq, Repr

/-- A numeral of at most nine digits. -/
def readVersionNumber (c : Cursor) : Option (Nat × Cursor) :=
  let digits := c.rest.takeWhile Char.isDigit
  if digits.isEmpty || digits.length > 9 then none
  else some (Decimal.digitsValue 10 0 digits, c.skip digits.length)

/-- The version after the directive's name. -/
def readVersion (c : Cursor) : Option (Directive × Cursor) := do
  let (major, c) ← readVersionNumber c.skipGaps
  if !c.sees '.' then none
  let (minor, c) ← readVersionNumber (c.skip 1)
  return (.version major minor, c)

/-- A handle, a blank, and what the handle stands for. -/
def readTagMeaning (c : Cursor) : Option (Directive × Cursor) := do
  let (handle, c) ← readHandle c.skipGaps
  if handle ≠ ['!'] && handle.getLast? ≠ some '!' then none
  if !c.holdsAt 0 isGap then none
  let c := c.skipGaps
  let (start, after) ← readTagOctets true (c.rest.length + 1) c.rest
  let c := c.moveTo after
  if start.isEmpty || !c.endsWordAt 0 then none
  return (.tag handle start, c)

/-- A directive at its percent sign, with the rest of its line. -/
def readDirective (c : Cursor) : Option (Directive × Cursor) := do
  let c := c.skip 1
  let name := c.rest.takeWhile isWord
  let c := c.skip name.length
  if name.isEmpty || !c.endsWordAt 0 then none
  let (directive, c) ←
    if name = "YAML".toList then readVersion c
    else if name = "TAG".toList then readTagMeaning c
    else none
  let c := c.skipGaps.skipComment
  if !c.endsLine then none
  return (directive, c.readBreak.2)

end VersionedSite.Yaml
