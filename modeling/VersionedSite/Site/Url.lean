import VersionedSite.Text.Blank
import VersionedSite.Text.Search

/-!
# Addresses of a site

The two parts of an address that a site is served under: scheme and host, and a path prefix. Each
is a text that has passed its check, so that the three texts `url`, `base` and a relative path
make a well-formed address when they are written one after the other.
-/

namespace VersionedSite

/-! ## Scheme and host -/

/-- A character that ends a host: a slash, a blank, or the start of a query or fragment. -/
def endsHost (c : Char) : Bool := c == '/' || c == '?' || c == '#' || Text.isBlank c

/-- A scheme of the web, and a host that is not empty. -/
def isSiteUrl (s : String) : Bool :=
  let after := fun (scheme : String) ↦ Text.dropStart? scheme.toList s.toList
  let host := (after "https://").or (after "http://")
  host.any fun h ↦ h ≠ [] && !h.any endsHost

/-- Scheme and host that a site is served from, without a path and without a slash at the end. -/
structure SiteUrl where
  text : String
  valid : isSiteUrl text = true
  deriving DecidableEq

namespace SiteUrl

/-- What a text that is no scheme and host is told. -/
def refusal : String := "`url` must be a scheme and host without a path or trailing slash"

def ofString (s : String) : Except String SiteUrl :=
  if h : isSiteUrl s = true then .ok ⟨s, h⟩ else .error refusal

end SiteUrl

/-! ## Path prefix -/

/-- Why a text is no path prefix. -/
inductive BaseUrlFault where
  | notEnclosed
  | emptySegment
  | notPlain
  deriving DecidableEq, Repr

def BaseUrlFault.message : BaseUrlFault → String
  | .notEnclosed => "`base_url` must start and end with `/`"
  | .emptySegment => "`base_url` must not contain empty path segments"
  | .notPlain => "`base_url` must be a plain path"

/-- The first rule that a text breaks as a path prefix. -/
def baseUrlFault? (s : String) : Option BaseUrlFault :=
  let cs := s.toList
  if cs.head? ≠ some '/' || cs.getLast? ≠ some '/' then some .notEnclosed
  else if Text.occurs ['/', '/'] cs then some .emptySegment
  else if cs.any fun c ↦ Text.isBlank c || c == '?' || c == '#' then some .notPlain
  else none

/-- Path prefix of a site: it starts and ends with a slash and has no empty segment. -/
structure BaseUrl where
  text : String
  valid : baseUrlFault? text = none
  deriving DecidableEq

namespace BaseUrl

def ofString (s : String) : Except BaseUrlFault BaseUrl :=
  match h : baseUrlFault? s with
  | none => .ok ⟨s, h⟩
  | some f => .error f

/-- The prefix of a site that is served at the root of its host. -/
def root : BaseUrl := ⟨"/", by decide⟩

/-- The absolute path of `path`, whether or not it starts with slashes. -/
def join (b : BaseUrl) (path : String) : String :=
  b.text ++ String.ofList (path.toList.dropWhile (· == '/'))

end BaseUrl

end VersionedSite
