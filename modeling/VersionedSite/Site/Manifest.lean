import VersionedSite.Site.Catalog
import VersionedSite.Value

/-!
# The manifest of versions

What a version switcher outside the site needs to know: every version, where it is found, and
which one is the canonical one.
-/

namespace VersionedSite

/-- A version in the manifest. -/
structure VersionEntry where
  label : String
  path : String
  href : String
  canonical : Bool
  deriving DecidableEq, Repr

def VersionEntry.toValue (e : VersionEntry) : Value :=
  .record [("label", .text e.label), ("path", .text e.path), ("href", .text e.href),
    ("canonical", .bool e.canonical)]

/-- The versions of a site in their order. -/
def Site.versionManifest (s : Site) : List VersionEntry :=
  s.versions.toList.map fun v ↦
    ⟨v.label, v.path.text, s.versionHref v, v = s.versions.canonical⟩

end VersionedSite
