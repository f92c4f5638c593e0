import VersionedSite.Page.Home
import VersionedSite.Site.Install

/-!
# Composing the home page

From a site, the version that is viewed and the year to the home page. All parts that depend on
the version are given the same one. Two things can fail: an install command, and then the template
of the copyright line, which knows the year alone.
-/

namespace VersionedSite

/-! ## Links -/

namespace Site

/-- The link of a button, which stays inside the site. -/
def actionLink (s : Site) (a : HomeAction) : PageLink := ⟨a.label, s.sitePath a.page, false⟩

/-- Where a link leads, and whether it leads out of the site. One of the targets is there. -/
def linkTarget (s : Site) : Option String → Option String → String × Bool
  | some page, _ => (s.sitePath page, false)
  | none, some href => (href, true)
  | none, none => ("", false)

/-- The menu of versions when `viewed` is viewed. -/
def versionLinks (s : Site) (viewed : Version) : List VersionLink :=
  s.versions.toList.map fun v ↦ ⟨v.label, s.versionHref v, v = viewed⟩

/-! ## The bar -/

/-- An item of the bar when a version is viewed. -/
def barItem (s : Site) (viewed : Version) : NavItem → BarItem
  | .docSidebar _ label _ => { kind := .link, label, href := s.versionHref viewed }
  | .link l =>
    let (href, external) := s.linkTarget l.page l.href
    { kind := .link, label := l.label.getD "", href, external, ariaLabel := l.ariaLabel,
      className := l.className }
  | .versionDropdown _ =>
    { kind := .versionDropdown, label := viewed.label, href := s.versionHref viewed,
      versions := s.versionLinks viewed }
  | .search _ => { kind := .search, label := "Search", href := "" }

/-- The items of one side of the bar. -/
def barSide (s : Site) (viewed : Version) (side : Position) : List BarItem :=
  (s.navbar.items.filter (·.position = side)).map (s.barItem viewed)

def bar (s : Site) (viewed : Version) : Bar where
  homeHref := s.sitePath ""
  title := s.navbar.title
  logo := s.navbar.logo.map fun l ↦ { l with src := s.sitePath l.src }
  left := s.barSide viewed .left
  right := s.barSide viewed .right

/-! ## The footer -/

def footerLink (s : Site) (l : FooterLink) : PageLink :=
  let (href, external) := s.linkTarget l.page l.href
  ⟨l.label, href, external⟩

/-- The copyright line of a year, if the footer has one. -/
def copyright (s : Site) (lib : Liquid.Library) (year : Int) : Except Failure (Option String) :=
  match s.footer.copyright with
  | none => .ok none
  | some source =>
    match Liquid.Template.ofString .standard source with
    | .error f => .error ⟨.template f.message, []⟩
    | .ok t =>
      match lib.render t [("year", .int year)] with
      | .error f => .error ⟨.template f.message, []⟩
      | .ok text => .ok (some text)

/-! ## The page -/

/-- The title of the document: the title of the site and its tagline, if there is one. -/
def documentTitle (s : Site) : String :=
  if s.tagline.isEmpty then s.title else s.title ++ " - " ++ s.tagline

/-- The install commands for a version, if the page shows them. -/
def installBlock (s : Site) (snippets : InstallSnippets) (viewed : Version) :
    Except SnippetFault (Option InstallBlock) :=
  if s.home.showInstall then do
    let packageManager ← snippets.line .packageManager s viewed
    let directApply ← snippets.line .directApply s viewed
    return some ⟨viewed.label, packageManager, directApply⟩
  else .ok none

/-- The home page when a version is viewed, in a given year. -/
def homePage (s : Site) (viewed : Version) (year : Int) (snippets : InstallSnippets)
    (lib : Liquid.Library) : Except Failure HomePage := do
  let install ← (s.installBlock snippets viewed).mapError SnippetFault.failure
  let copyright ← s.copyright lib year
  return {
    lang := s.locales.defaultLocale
    title := s.documentTitle
    metaDescription := s.home.metaDescription
    favicon := s.favicon.map s.sitePath
    bar := s.bar viewed
    header := {
      title := s.title
      tagline := s.tagline
      description := s.home.description
      primary := s.actionLink s.home.primaryAction
      secondary := s.actionLink s.home.secondaryAction }
    features := featureGrid s.baseUrl features
    install
    callToAction := s.home.callToAction.map fun c ↦ ⟨c.heading, c.body, s.actionLink c.action⟩
    footer := {
      style := s.footer.style
      groups := s.footer.links.map fun g ↦ ⟨g.title, g.items.map s.footerLink⟩
      copyright } }

end Site

end VersionedSite
