import VersionedSite.Text.Search

/-!
# Paths in text

A path is a text, and stays the text that it was written as: slashes may be doubled, and a point
may stand for the directory itself. What a path is joined with and what it is cut to is decided
by its components, the pieces that name something.
-/

namespace VersionedSite.Path

/-- The path is taken from the root of all directories. -/
def isAbsolute (p : String) : Bool := p.toList.head? == some '/'

/-- `q` as seen from the directory `p`. -/
def join (p q : String) : String :=
  if isAbsolute q then q
  else if p.isEmpty || p.toList.getLast? == some '/' then p ++ q
  else p ++ "/" ++ q

/-- A piece between slashes that names nothing: an empty one, or a point that is not first. -/
def isSilent (piece : List Char) : Bool := piece.isEmpty || piece == ['.']

/-- Drops the pieces at the end that name nothing; pieces stand last one first. The first piece of
all may be a point of its own. -/
def dropSilent : List (List Char) → List (List Char)
  | [] => []
  | [p] => [p]
  | p :: q :: rest => if isSilent p then dropSilent (q :: rest) else p :: q :: rest

/-- The directory that a path lies in, without blanks in the text before its last component; the
root of all directories and the empty path lie in none. -/
def parent? (p : String) : Option String :=
  let absolute := isAbsolute p
  let pieces := (Text.splitAt ['/'] p.toList).reverse
  match dropSilent pieces with
  | [] => none
  | [last] => if last.isEmpty then none else some ""
  | _ :: before =>
    match dropSilent before with
    | [[]] => some (if absolute then "/" else "")
    | rest => some (String.ofList (Text.join ['/'] rest.reverse))

/-- The path one component up, and whether there was one. -/
def pop (p : String) : String × Bool :=
  match parent? p with
  | some q => (q, true)
  | none => (p, false)

end VersionedSite.Path
