import VersionedSite.Site.Features
import VersionedSite.Site.Printing

/-!
# The home page

Everything that the home page shows, worked out for one site, one version and one year. Links have
their final targets, items of the bar stand on their sides, and what the templates of a page are
given is this value and nothing else.
-/

namespace VersionedSite

/-! ## Parts -/

/-- A link of the page. -/
structure PageLink where
  label : String
  href : String
  /-- It leads out of the site. -/
  external : Bool
  deriving DecidableEq, Repr

/-- An entry of the menu of versions. -/
structure VersionLink where
  label : String
  href : String
  /-- It is the version that is viewed. -/
  active : Bool
  deriving DecidableEq, Repr

inductive BarItemKind where
  | link
  | versionDropdown
  | search
  deriving DecidableEq, Repr

def BarItemKind.text : BarItemKind → String
  | .link => "link"
  | .versionDropdown => "version_dropdown"
  | .search => "search"

/-- An item of the bar. -/
structure BarItem where
  kind : BarItemKind
  label : String
  href : String
  external : Bool := false
  ariaLabel : Option String := none
  className : Option String := none
  /-- The entries of a menu of versions. -/
  versions : List VersionLink := []
  deriving DecidableEq, Repr

structure Bar where
  homeHref : String
  title : Option String
  logo : Option Logo
  left : List BarItem
  right : List BarItem
  deriving DecidableEq, Repr

structure PageHeader where
  title : String
  tagline : String
  description : String
  primary : PageLink
  secondary : PageLink
  deriving DecidableEq, Repr

/-- The commands that install the version. -/
structure InstallBlock where
  /-- The label of the version. -/
  version : String
  packageManager : String
  directApply : String
  deriving DecidableEq, Repr

structure CallToActionBlock where
  heading : String
  body : String
  action : PageLink
  deriving DecidableEq, Repr

structure LinkGroup where
  title : String
  links : List PageLink
  deriving DecidableEq, Repr

structure PageFooter where
  style : FooterStyle
  groups : List LinkGroup
  copyright : Option String
  deriving DecidableEq, Repr

structure HomePage where
  lang : String
  /-- The title of the document. -/
  title : String
  metaDescription : String
  favicon : Option String
  bar : Bar
  header : PageHeader
  features : List FeatureBlock
  install : Option InstallBlock
  callToAction : Option CallToActionBlock
  footer : PageFooter
  deriving DecidableEq, Repr

/-! ## As values -/

def PageLink.toValue (l : PageLink) : Value :=
  .record [("label", .text l.label), ("href", .text l.href), ("external", .bool l.external)]

def VersionLink.toValue (l : VersionLink) : Value :=
  .record [("label", .text l.label), ("href", .text l.href), ("active", .bool l.active)]

def BarItem.toValue (i : BarItem) : Value :=
  .record [("kind", .text i.kind.text), ("label", .text i.label), ("href", .text i.href),
    ("external", .bool i.external), ("aria_label", .textOrNull i.ariaLabel),
    ("class_name", .textOrNull i.className), ("versions", .list (i.versions.map (·.toValue)))]

def Bar.toValue (b : Bar) : Value :=
  .record [("home_href", .text b.homeHref), ("title", .textOrNull b.title),
    ("logo", .optional Logo.toValue b.logo), ("left", .list (b.left.map (·.toValue))),
    ("right", .list (b.right.map (·.toValue)))]

def PageHeader.toValue (h : PageHeader) : Value :=
  .record [("title", .text h.title), ("tagline", .text h.tagline),
    ("description", .text h.description),
    ("actions", .list [h.primary.toValue, h.secondary.toValue])]

def InstallBlock.toValue (b : InstallBlock) : Value :=
  .record [("version", .text b.version), ("package_manager", .text b.packageManager),
    ("direct_apply", .text b.directApply)]

def CallToActionBlock.toValue (b : CallToActionBlock) : Value :=
  .record [("heading", .text b.heading), ("body", .text b.body), ("action", b.action.toValue)]

def LinkGroup.toValue (g : LinkGroup) : Value :=
  .record [("title", .text g.title), ("links", .list (g.links.map (·.toValue)))]

def PageFooter.toValue (f : PageFooter) : Value :=
  .record [("style", f.style.toValue), ("groups", .list (f.groups.map (·.toValue))),
    ("copyright", .textOrNull f.copyright)]

namespace HomePage

/-- The fields of the page, which the templates know by these names. -/
def fields (p : HomePage) : List (String × Value) := [
  ("lang", .text p.lang), ("title", .text p.title), ("meta_description", .text p.metaDescription),
  ("favicon", .textOrNull p.favicon), ("navbar", p.bar.toValue), ("header", p.header.toValue),
  ("features", .list (p.features.map (·.toValue))),
  ("install", .optional InstallBlock.toValue p.install),
  ("call_to_action", .optional CallToActionBlock.toValue p.callToAction),
  ("footer", p.footer.toValue)]

def toValue (p : HomePage) : Value := .record p.fields

end HomePage

end VersionedSite
