import VersionedSite.Text.Blank
import VersionedSite.Report

/-!
# Documentation versions

A version is a label and the path segment that it is served under. The versions of a site are a
list that is not empty and in which no two entries share a path; the first one is the canonical
version, which stands in wherever no other is named.
-/

namespace VersionedSite

/-! ## Paths -/

/-- Why a text is no path of a version. -/
inductive VersionPathFault where
  | empty
  | notSegment
  | reserved
  | dotSegment
  deriving DecidableEq, Repr

def VersionPathFault.message : VersionPathFault → String
  | .empty => "version `path` must not be empty"
  | .notSegment => "version `path` must be a single URL segment"
  | .reserved => "version `path` must not contain `?`, `#` or `%`"
  | .dotSegment => "version `path` must not be a dot segment"

/-- The first rule that a text breaks as a path of a version. -/
def versionPathFault? (s : String) : Option VersionPathFault :=
  let cs := s.toList
  if cs = [] then some .empty
  else if cs.any fun c ↦ c == '/' || c == '\\' || Text.isBlank c then some .notSegment
  else if cs.any fun c ↦ c == '?' || c == '#' || c == '%' then some .reserved
  else if cs = ['.'] || cs = ['.', '.'] then some .dotSegment
  else none

/-- The path segment that a version is served under. -/
structure VersionPath where
  text : String
  valid : versionPathFault? text = none
  deriving DecidableEq

namespace VersionPath

def ofString (s : String) : Except VersionPathFault VersionPath :=
  match h : versionPathFault? s with
  | none => .ok ⟨s, h⟩
  | some f => .error f

end VersionPath

/-! ## Versions -/

/-- A version: the name that a reader chooses it by, and its path. -/
structure Version where
  label : String
  path : VersionPath
  deriving DecidableEq

/-- The first entry that has the path of an entry before it; `seen` are the paths further up. -/
def firstRepeated? : List VersionPath → List Version → Option Version
  | _, [] => none
  | seen, v :: rest => if v.path ∈ seen then some v else firstRepeated? (v.path :: seen) rest

/-- Why a list of versions is no catalog. -/
inductive VersionsFault where
  | none
  | repeated (path : VersionPath)
  deriving DecidableEq

/-- The versions of a site, canonical version first. -/
structure Versions where
  toList : List Version
  nonempty : toList ≠ []
  distinct : firstRepeated? [] toList = none
  deriving DecidableEq

namespace Versions

def ofList (vs : List Version) : Except VersionsFault Versions :=
  if h : vs = [] then .error .none
  else match h' : firstRepeated? [] vs with
    | none => .ok ⟨vs, h, h'⟩
    | some v => .error (.repeated v.path)

/-- The version that stands in where no other is named. -/
def canonical (vs : Versions) : Version := vs.toList.head vs.nonempty

/-- The version with the given path. -/
def get? (vs : Versions) (path : String) : Option Version :=
  vs.toList.find? fun v ↦ v.path.text == path

def size (vs : Versions) : Nat := vs.toList.length

end Versions

/-! ## The documentation tree -/

/-- Where the documentation is mounted, and its versions as they are configured. -/
structure Docs where
  routeBasePath : String
  versions : List Version
  deriving DecidableEq

def Docs.default : Docs := ⟨"docs", []⟩

/-- A route is a relative path that is not empty, without a slash at either end. -/
def isRoute (s : String) : Bool :=
  let cs := s.toList
  cs ≠ [] && cs.head? ≠ some '/' && cs.getLast? ≠ some '/'

end VersionedSite
