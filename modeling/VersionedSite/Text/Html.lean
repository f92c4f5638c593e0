import VersionedSite.Text.Search

/-!
# Text inside markup

Writing a text so that markup shows it as it is, and taking the markup out of a text.
-/

namespace VersionedSite.Text

/-! ## Escaping -/

/-- The name of an entity, for the five characters that mean something to markup. -/
def entity? : Char → Option (List Char)
  | '<' => some ['l', 't', ';']
  | '>' => some ['g', 't', ';']
  | '\'' => some ['#', '3', '9', ';']
  | '"' => some ['q', 'u', 'o', 't', ';']
  | '&' => some ['a', 'm', 'p', ';']
  | _ => none

/-- One character as it is written in markup. -/
def escapeChar (c : Char) : List Char :=
  match entity? c with
  | some name => '&' :: name
  | none => [c]

def escape (s : List Char) : List Char := s.flatMap escapeChar

/-- The names that an ampersand may already belong to. -/
def entityNames : List (List Char) := ['<', '>', '\'', '"', '&'].filterMap entity?

/-- Escapes what is not an entity yet. -/
def escapeOnce : List Char → List Char
  | [] => []
  | c :: s =>
    (if c == '&' && entityNames.any fun name ↦ (dropStart? name s).isSome then [c]
      else escapeChar c)
      ++ escapeOnce s

/-! ## Taking markup out -/

/-- One letter for the two cases of a letter; the long s counts as one too. -/
def foldLetter (c : Char) : Char := if c == '\u017f' then 's' else c.toLower

/-- The text after `p`, if the text starts with `p` in either case. -/
def dropStartFolded? : List Char → List Char → Option (List Char)
  | [], s => some s
  | _ :: _, [] => none
  | p :: ps, c :: s => if p = foldLetter c then dropStartFolded? ps s else none

/-- The text after the first occurrence of `p`. -/
def afterFolded? (p : List Char) : List Char → Option (List Char)
  | [] => none
  | c :: s => (dropStartFolded? p (c :: s)).or (afterFolded? p s)

/-- The text without the spans from `opening` to the nearest `closing`; `fuel` bounds its length. -/
def removeSpans (opening closing : List Char) : Nat → List Char → List Char
  | 0, s => s
  | _ + 1, [] => []
  | fuel + 1, c :: s =>
    match (dropStartFolded? opening (c :: s)).bind (afterFolded? closing) with
    | some rest => removeSpans opening closing fuel rest
    | none => c :: removeSpans opening closing fuel s

/-- The spans that are no text: scripts and styles with what is in them, comments, and tags. -/
def markupSpans : List (String × String) :=
  [("<script", "</script>"), ("<style", "</style>"), ("<!--", "-->"), ("<", ">")]

def stripMarkup (s : List Char) : List Char :=
  markupSpans.foldl (fun s (a, b) ↦ removeSpans a.toList b.toList (s.length + 1) s) s

end VersionedSite.Text
