/-!
# Finding and cutting texts

Searching, splitting and replacing inside a text, by the pattern's first occurrence from the
left. Texts are lists of characters, so that each function is a recursion on the text and its
laws are inductions.
-/

namespace VersionedSite.Text

/-- The text after `p`, if the text starts with `p`. -/
def dropStart? : List Char → List Char → Option (List Char)
  | [], s => some s
  | _ :: _, [] => none
  | p :: ps, c :: s => if p = c then dropStart? ps s else none

/-- What stands before and after the first occurrence of `p`. -/
def cutAt? (p : List Char) : List Char → Option (List Char × List Char)
  | [] => if p.isEmpty then some ([], []) else none
  | c :: s =>
    match dropStart? p (c :: s) with
    | some rest => some ([], rest)
    | none => (cutAt? p s).map fun (before, rest) ↦ (c :: before, rest)

/-- Whether `p` occurs in the text. -/
def occurs (p s : List Char) : Bool := (cutAt? p s).isSome

/-- The pieces between the occurrences of a non-empty `p`; `fuel` bounds their number. -/
def splitFuel (p : List Char) : Nat → List Char → List (List Char)
  | 0, s => [s]
  | fuel + 1, s =>
    match cutAt? p s with
    | some (before, rest) => before :: splitFuel p fuel rest
    | none => [s]

/-- The pieces between the occurrences of `p`. Splitting at the empty text takes the characters
apart and leaves an empty piece at either end. -/
def splitAt (p s : List Char) : List (List Char) :=
  if p.isEmpty then [] :: s.map ([·]) ++ [[]] else splitFuel p (s.length + 1) s

/-- The pieces joined with `sep` between them. -/
def join (sep : List Char) : List (List Char) → List Char
  | [] => []
  | [x] => x
  | x :: y :: rest => x ++ sep ++ join sep (y :: rest)

/-- Every occurrence of `p` replaced by `r`. -/
def replaceAll (p r s : List Char) : List Char := join r (splitAt p s)

/-- The first line of a text. -/
def firstLine (s : String) : String := String.ofList (s.toList.takeWhile (· ≠ '\n'))

/-- Bytes that the text takes in UTF-8. -/
def byteCount : List Char → Nat
  | [] => 0
  | c :: s => c.utf8Size + byteCount s

end VersionedSite.Text
