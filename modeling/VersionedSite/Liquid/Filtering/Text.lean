import VersionedSite.Calendar.Clock
import VersionedSite.Calendar.Pattern
import VersionedSite.Liquid.Value
import VersionedSite.Text.Blank
import VersionedSite.Text.Case
import VersionedSite.Text.Cluster
import VersionedSite.Text.Html
import VersionedSite.Text.Percent

/-!
# Filters of texts

Every value has a text, so these filters apply to all; where the value is nil, the codings for
markup and URLs leave it nil. Lengths are given in characters and compared with the number of
bytes, and a text is cut between clusters of characters.
-/

namespace VersionedSite.Liquid.Filtering

/-- A filter that changes the text of a value. -/
def onText (f : List Char → List Char) (v : Value) : Value := .ofChars (f v.chars)

/-- The same for a filter that leaves nil as it is. -/
def onTextUnlessNil (f : List Char → List Char) (v : Value) : Value :=
  if v.isNil then .nil else onText f v

/-- The text with `r` for the first occurrence of `p`. -/
def replaceFirst (p r s : List Char) : List Char :=
  match Text.cutAt? p s with
  | some (before, after) => before ++ r ++ after
  | none => s

def isLineBreak (c : Char) : Bool := c == '\n' || c == '\r'

def stripNewlines (s : List Char) : List Char := s.filter fun c ↦ !isLineBreak c

def newlineToBreak (s : List Char) : List Char :=
  s.flatMap fun c ↦ if c == '\n' then "<br />\n".toList else [c]

/-- The pieces of a text; the empty text has none. -/
def split (p s : List Char) : Value :=
  if s.isEmpty then .list [] else .list ((Text.splitAt p s).map .ofChars)

/-- The text cut to a length that includes the mark of the cut, as far as there is room for more
than the mark. A value whose text is not cut stays what it is, and a length below zero cuts
nothing. -/
def truncate (length : Int) (mark : List Char) (v : Value) : Value :=
  if length < 0 || length ≥ v.byteSize then v
  else
    let room := length - Text.byteCount mark
    .ofChars (Text.takeClusters room.toNat v.chars ++ mark)

/-- The text cut to a number of words, which stand between single spaces. -/
def truncateWords (count : Int) (mark : List Char) (v : Value) : Value :=
  let words := Text.splitAt [' '] v.chars
  if count < 0 || count ≥ words.length then v
  else .ofChars (Text.join [' '] (words.take count.toNat) ++ mark)

/-- Where a slice of a sequence starts and how long it is. -/
def sliceBounds (offset length : Int) (size : Nat) : Option (Nat × Nat) :=
  let offset := min offset size
  let offset := if offset < 0 then offset + size else offset
  let length := if offset + length > size then size - offset else length
  if offset < 0 then none else some (offset.toNat, length.toNat)

/-- A part of a list or of a text; an offset below zero counts from the end. -/
def slice (v : Value) (offset length : Int) : Option Value :=
  if length < 1 then none
  else
    match v with
    | .list items =>
      let bounds := (sliceBounds offset length items.length).getD (0, 0)
      some (.list ((items.drop bounds.1).take bounds.2))
    | v =>
      let bounds := (sliceBounds offset length v.byteSize).getD (0, 0)
      some (.ofChars ((v.chars.drop bounds.1).take bounds.2))

/-- The moment that a text denotes, by a pattern; what is no moment stays as it is. -/
def date (now : Calendar.Moment) (v : Value) (pattern : List Char) : Option Value :=
  match v with
  | .text s =>
    if pattern.isEmpty then some v
    else
      match Calendar.Moment.ofText? now s.toList with
      | some m => (m.write? pattern).map .ofChars
      | none => some v
  | v => some v

def urlEncode (s : List Char) : List Char := Text.percentEncode (String.ofList s)

/-- The text behind percent coding, where a plus sign is a space. -/
def urlDecode (v : Value) : Option Value :=
  if v.isNil then some .nil
  else (Text.percentDecode? (v.chars.map fun c ↦ if c == '+' then ' ' else c)).map .text

end VersionedSite.Liquid.Filtering
