import VersionedSite.Site.Config
import VersionedSite.Site.Path

/-!
# Resolving a configuration

A site is a configuration with one profile applied, in which nothing required is missing and every
check has passed. The checks are made in a fixed order and the first fault is the one that is
reported. A site knows which profile it was made with, and keeps no other.
-/

namespace VersionedSite

/-- A site: the checked description of one deployment. -/
structure Site where
  profile : Option String
  root : String
  /-- The directory that the site is built into. -/
  destination : String
  title : String
  tagline : String
  favicon : Option String
  url : SiteUrl
  baseUrl : BaseUrl
  organizationName : Option String
  projectName : Option String
  onBrokenLinks : OnBrokenLinks
  locales : Locales
  routeBasePath : String
  versions : Versions
  theme : Theme
  navbar : Navbar
  footer : Footer
  plugins : List String
  snippets : SnippetTemplates
  home : Home
  deriving DecidableEq

namespace Site

/-- The absolute path of a path inside the site. -/
def sitePath (s : Site) (page : String) : String := s.baseUrl.join page

/-- The whole address of a path inside the site. -/
def absoluteUrl (s : Site) (page : String) : String := s.url.text ++ s.sitePath page

/-- The absolute path of the documentation tree, with a slash at its end. -/
def docsRoot (s : Site) : String := s.baseUrl.text ++ s.routeBasePath ++ "/"

def hasPlugin (s : Site) (name : String) : Bool := s.plugins.contains name

end Site

/-! ## Faults -/

/-- Why a configuration describes no site. -/
inductive SiteFault where
  | unknownProfile (name : String) (available : List String)
  | missing (field : String)
  | undeclaredLocale (locale : String)
  | badRoute (route : String)
  | badLink (link : BadLink)
  | noVersions
  | repeatedPath (path : String)
  deriving DecidableEq, Repr

namespace SiteFault

def title : SiteFault → String
  | unknownProfile .. => "Unknown profile"
  | missing _ => "Missing required config field"
  | undeclaredLocale _ => "`i18n.default_locale` must be one of `i18n.locales`"
  | badRoute _ => "`docs.route_base_path` must be a relative path without surrounding `/`"
  | badLink _ => "Links need exactly one of `to` or `href`"
  | noVersions => "At least one documentation version is required"
  | repeatedPath _ => "Documentation versions must have distinct paths"

/-- What is to blame. -/
def details : SiteFault → List (String × String)
  | unknownProfile name available =>
    [("Profile", name), ("Available", ", ".intercalate available)]
  | missing field => [("Field", field)]
  | undeclaredLocale locale => [("Locale", locale)]
  | badRoute route => [("Value", route)]
  | badLink link => [("Section", link.part), ("Label", link.label)]
  | noVersions => [("Field", "docs.versions")]
  | repeatedPath path => [("Path", path)]

/-- The report on a list of versions. -/
def ofVersions : VersionsFault → SiteFault
  | .none => noVersions
  | .repeated path => repeatedPath path.text

def report (f : SiteFault) : Report := ⟨f.title, f.details⟩

end SiteFault

/-- A fault, and the profile under which it was found. -/
structure ResolveFault where
  fault : SiteFault
  profile : Option String
  deriving DecidableEq, Repr

/-- The report on a fault names the profile last. -/
def ResolveFault.report (f : ResolveFault) : Report :=
  ⟨f.fault.title, f.fault.details ++ (f.profile.map fun p ↦ ("Profile", p)).toList⟩

/-! ## Resolution -/

namespace Config

/-- A component that a site cannot do without. -/
def require {α : Type} (field : String) : Option α → Except SiteFault α
  | some a => .ok a
  | none => .error (.missing field)

/-- Passes if the condition holds. -/
def check (ok : Bool) (f : SiteFault) : Except SiteFault Unit := if ok then .ok () else .error f

/-- Passes if there is no bad link. -/
def checkLinks : Option BadLink → Except SiteFault Unit
  | none => .ok ()
  | some l => .error (.badLink l)

/-- The title, if it is not blank. -/
def usableTitle? (c : Config) : Option String := c.title.filter fun t ↦ !Text.allBlank t.toList

/-- The site that the base record describes. -/
def toSite (c : Config) (profile : Option String) : Except SiteFault Site := do
  let title ← require "title" c.usableTitle?
  let url ← require "url" c.url
  let baseUrl ← require "base_url" c.baseUrl
  let navbar ← require "navbar" c.navbar
  let footer ← require "footer" c.footer
  let locale := c.locales.defaultLocale
  check (c.locales.locales.contains locale) (.undeclaredLocale locale)
  check (isRoute c.docs.routeBasePath) (.badRoute c.docs.routeBasePath)
  checkLinks navbar.badLink?
  checkLinks footer.badLink?
  let versions ← (Versions.ofList c.docs.versions).mapError .ofVersions
  return {
    profile
    root := c.root
    destination := Path.join c.root c.destination
    title
    tagline := c.tagline.getD ""
    favicon := c.favicon
    url
    baseUrl
    organizationName := c.organizationName
    projectName := c.projectName
    onBrokenLinks := c.onBrokenLinks
    locales := c.locales
    routeBasePath := c.docs.routeBasePath
    versions
    theme := c.theme
    navbar := if c.search.enabled then navbar else navbar.withoutSearch
    footer
    plugins := c.search.apply c.plugins
    snippets := c.snippets
    home := c.home }

/-- The base record, with the named profile applied if one is named. -/
def layered (c : Config) : Option String → Except SiteFault Config
  | none => .ok c
  | some name =>
    match c.profiles.get? name with
    | some p => .ok (p.apply c)
    | none => .error (.unknownProfile name c.profileNames)

/-- The site of one deployment. -/
def resolve (c : Config) (profile : Option String) : Except ResolveFault Site :=
  match c.layered profile with
  | .error f => .error ⟨f, none⟩
  | .ok layered => (layered.toSite profile).mapError fun f ↦ ⟨f, profile⟩

end Config

end VersionedSite
