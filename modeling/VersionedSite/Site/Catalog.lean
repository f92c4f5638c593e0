import VersionedSite.Site.Resolve
import VersionedSite.Text.NameMap

/-!
# The catalog of a site

Which version a request is about, where the versions of a site are found, and whether they have
been published. A request names a version by the segment that follows the route of the
documentation; a request that names none, or names one that is not declared, is about the
canonical version. So there is always a version to show, and the answer says whether it was asked
for.
-/

namespace VersionedSite

/-! ## The version that is viewed -/

/-- How a version came to be viewed. -/
inductive Resolution where
  /-- The request named a declared version. -/
  | matched
  /-- The canonical version stands in. -/
  | fallback
  deriving DecidableEq, Repr

def Resolution.text : Resolution → String
  | .matched => "matched"
  | .fallback => "fallback"

/-- The version that a request is about. -/
structure ActiveVersion where
  version : Version
  resolution : Resolution
  deriving DecidableEq

def ActiveVersion.isFallback (a : ActiveVersion) : Bool := a.resolution == .fallback

/-- The version whose path is the segment; without one, the canonical version. -/
def Versions.select (vs : Versions) (segment : Option String) : ActiveVersion :=
  match segment.bind vs.get? with
  | some v => ⟨v, .matched⟩
  | none => ⟨vs.canonical, .fallback⟩

namespace Site

/-! ## Requests -/

/-- A character that ends a segment of a request. -/
def endsSegment (c : Char) : Bool := c == '/' || c == '?' || c == '#'

/-- The segment that follows the route of the documentation, if the path starts with the route and
the segment is not empty. -/
def docsSegment? (s : Site) (path : List Char) : Option String := do
  let below ← Text.dropStart? s.routeBasePath.toList path
  let below ← Text.dropStart? ['/'] below
  let segment := below.takeWhile fun c ↦ !endsSegment c
  if segment.isEmpty then none else some (String.ofList segment)

/-- The segment of a request that names a version. The path of the request is read below the path
prefix of the site first, and from the root of the site second. -/
def versionSegment? (s : Site) (request : String) : Option String :=
  let path := request.toList
  ((Text.dropStart? s.baseUrl.text.toList path).bind s.docsSegment?).or
    (s.docsSegment? (path.dropWhile (· == '/')))

/-- The version that a request is about. -/
def activeVersion (s : Site) (request : String) : ActiveVersion :=
  s.versions.select (s.versionSegment? request)

/-- The absolute path of a version's documentation. -/
def versionHref (s : Site) (v : Version) : String := s.docsRoot ++ v.path.text ++ "/"

/-! ## Audit -/

end Site

/-- What the declared and the published versions do not have in common, each side sorted. -/
structure Audit where
  /-- Declared, and not published. -/
  unpublished : List String
  /-- Published, and not declared. -/
  undeclared : List String
  deriving DecidableEq, Repr

def Audit.isClean (a : Audit) : Bool := a.unpublished.isEmpty && a.undeclared.isEmpty

/-- Compares the declared paths with the names that are published. -/
def Site.audit (s : Site) (published : List String) : Audit :=
  let declared := NameSet.ofList (s.versions.toList.map (·.path.text))
  let published := NameSet.ofList published
  ⟨declared.diff published, published.diff declared⟩

end VersionedSite
