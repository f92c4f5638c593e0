import VersionedSite.Liquid.Reading
import VersionedSite.Liquid.Rendering

/-!
# Libraries of templates

Templates that may embed each other by name. A text that is no template does no harm until it is
embedded, so a library keeps what reading each of its texts has come to.
-/

namespace VersionedSite.Liquid

/-- Templates by name; where a name is there twice, the first counts. -/
structure Library where
  templates : List (String × Except ReadFault Template)
  /-- The moment of rendering. -/
  now : Calendar.Moment := .startOfYear 1970

namespace Library

def empty : Library := { templates := [] }

/-- The library with named texts before the templates that are there, the last text first. -/
def withSources (l : Library) (sources : List (String × String)) : Library :=
  { l with templates :=
      sources.reverse.map (fun (name, s) ↦ (name, Template.ofString .standard s)) ++ l.templates }

/-- The library when it is rendered at a moment. -/
def atMoment (l : Library) (now : Calendar.Moment) : Library := { l with now }

/-- The template of a name. -/
def find (l : Library) (name : String) : Except RenderFault Template :=
  match l.templates.find? (·.1 == name) with
  | none => .error (.unknownTemplate name)
  | some (_, .error _) => .error (.unreadableTemplate name)
  | some (_, .ok t) => .ok t

/-- Renders a template and those that it embeds; `depth` bounds how far they are nested. -/
def renderAt (l : Library) : Nat → Template → Scope → State → Rendered
  | 0, _, _, _ => .error .endless
  | depth + 1, t, sc, st =>
    renderAll (fun name ↦ (l.find name).map fun body ↦ l.renderAt depth body) t sc st

/-- How far templates may be nested. -/
def maxDepth : Nat := 10000

/-- What a template prints on the given data. -/
def render (l : Library) (t : Template) (data : List (String × Value)) :
    Except RenderFault String := do
  let (out, _) ← l.renderAt maxDepth t { data, now := l.now } {}
  return String.ofList out

end Library

end VersionedSite.Liquid
