import VersionedSite.Page.Composition
import VersionedSite.Page.Templates

/-!
# Rendering the home page

The markup of a page by the templates that come with the program, where a site may put templates
of its own in the place of some.
-/

namespace VersionedSite.Page

/-- The templates that come with the program. -/
def bundled : Liquid.Library := { templates := parts.map fun (name, t) ↦ (name, .ok t) }

/-- The fields of a page as the data of its templates. -/
def data (p : HomePage) : List (String × Liquid.Value) := Liquid.Value.ofPrintedFields p.fields

/-- The markup of a page. -/
def render (lib : Liquid.Library) (p : HomePage) : Except Liquid.RenderFault String :=
  lib.render homeTemplate (data p)

end VersionedSite.Page
