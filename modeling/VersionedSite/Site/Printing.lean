import VersionedSite.Site.Resolve
import VersionedSite.Text.Blank
import VersionedSite.Value
import VersionedSite.Yaml.Printer

/-!
# Printing configurations and sites

Every record as a printed value, with its fields in the order and under the names of the file. A
profile lists only what it sets; everywhere else an absent component is null. The directories of
a site or configuration are not a part of what is printed.
-/

namespace VersionedSite

open Value (optional textOrNull fieldIfSome)

def Version.toValue (v : Version) : Value :=
  .record [("label", .text v.label), ("path", .text v.path.text)]

def Docs.toValue (d : Docs) : Value :=
  .record [("route_base_path", .text d.routeBasePath),
    ("versions", .list (d.versions.map (·.toValue)))]

def OnBrokenLinks.toValue : OnBrokenLinks → Value
  | .ignore => .text "ignore"
  | .warn => .text "warn"
  | .throw => .text "throw"

def Locales.toValue (l : Locales) : Value :=
  .record [("default_locale", .text l.defaultLocale),
    ("locales", .list (l.locales.names.map .text))]

def Theme.toValue (t : Theme) : Value :=
  .record [("custom_css", textOrNull t.customCss), ("image", textOrNull t.image),
    ("code_theme", .text t.codeTheme), ("dark_code_theme", .text t.darkCodeTheme)]

def Search.toValue (s : Search) : Value :=
  .record [("enabled", .bool s.enabled), ("plugin", .text s.plugin)]

def SnippetTemplates.toValue (s : SnippetTemplates) : Value :=
  .record [("package_manager", .text s.packageManager), ("direct_apply", .text s.directApply)]

/-! ## Navigation -/

def Position.toValue : Position → Value
  | .left => .text "left"
  | .right => .text "right"

def Logo.toValue (l : Logo) : Value := .record [("alt", .text l.alt), ("src", .text l.src)]

def NavItem.toValue : NavItem → Value
  | .docSidebar sidebarId label position =>
    .record [("type", .text "doc_sidebar"), ("sidebar_id", .text sidebarId), ("label", .text label),
      ("position", position.toValue)]
  | .link l =>
    .record [("type", .text "link"), ("label", textOrNull l.label), ("to", textOrNull l.page),
      ("href", textOrNull l.href), ("position", l.position.toValue),
      ("aria_label", textOrNull l.ariaLabel), ("class_name", textOrNull l.className)]
  | .versionDropdown position =>
    .record [("type", .text "docs_version_dropdown"), ("position", position.toValue)]
  | .search position => .record [("type", .text "search"), ("position", position.toValue)]

def Navbar.toValue (n : Navbar) : Value :=
  .record [("title", textOrNull n.title), ("logo", optional Logo.toValue n.logo),
    ("items", .list (n.items.map (·.toValue)))]

def FooterStyle.toValue : FooterStyle → Value
  | .dark => .text "dark"
  | .light => .text "light"

def FooterLink.toValue (l : FooterLink) : Value :=
  .record [("label", .text l.label), ("to", textOrNull l.page), ("href", textOrNull l.href)]

def FooterGroup.toValue (g : FooterGroup) : Value :=
  .record [("title", .text g.title), ("items", .list (g.items.map (·.toValue)))]

def Footer.toValue (f : Footer) : Value :=
  .record [("style", f.style.toValue), ("links", .list (f.links.map (·.toValue))),
    ("copyright", textOrNull f.copyright)]

/-! ## Home page -/

def HomeAction.toValue (a : HomeAction) : Value :=
  .record [("label", .text a.label), ("to", .text a.page)]

def CallToAction.toValue (c : CallToAction) : Value :=
  .record [("heading", .text c.heading), ("body", .text c.body), ("action", c.action.toValue)]

def Home.toValue (h : Home) : Value :=
  .record [("description", .text h.description), ("meta_description", .text h.metaDescription),
    ("primary_action", h.primaryAction.toValue), ("secondary_action", h.secondaryAction.toValue),
    ("call_to_action", optional CallToAction.toValue h.callToAction),
    ("show_install", .bool h.showInstall)]

/-! ## Configurations and sites -/

def Profile.toValue (p : Profile) : Value :=
  .record (fieldIfSome "url" (fun u ↦ .text u.text) p.url
    ++ fieldIfSome "organization_name" .text p.organizationName
    ++ fieldIfSome "current_version" Version.toValue p.currentVersion
    ++ fieldIfSome "search" .bool p.search)

def Config.toValue (c : Config) : Value :=
  .record [("destination", .text c.destination), ("title", textOrNull c.title),
    ("tagline", textOrNull c.tagline), ("favicon", textOrNull c.favicon),
    ("url", optional (fun u ↦ .text u.text) c.url),
    ("base_url", optional (fun b ↦ .text b.text) c.baseUrl),
    ("organization_name", textOrNull c.organizationName),
    ("project_name", textOrNull c.projectName), ("on_broken_links", c.onBrokenLinks.toValue),
    ("i18n", c.locales.toValue), ("docs", c.docs.toValue), ("theme", c.theme.toValue),
    ("search", c.search.toValue), ("navbar", optional Navbar.toValue c.navbar),
    ("footer", optional Footer.toValue c.footer), ("plugins", .list (c.plugins.map .text)),
    ("snippets", c.snippets.toValue), ("home", c.home.toValue),
    ("profiles", .record (c.profiles.entries.map fun (n, p) ↦ (n, p.toValue)))]

def Site.toValue (s : Site) : Value :=
  .record [("profile", textOrNull s.profile), ("title", .text s.title),
    ("tagline", .text s.tagline), ("favicon", textOrNull s.favicon),
    ("url", .text s.url.text), ("base_url", .text s.baseUrl.text),
    ("organization_name", textOrNull s.organizationName),
    ("project_name", textOrNull s.projectName), ("on_broken_links", s.onBrokenLinks.toValue),
    ("i18n", s.locales.toValue), ("route_base_path", .text s.routeBasePath),
    ("versions", .list (s.versions.toList.map (·.toValue))), ("theme", s.theme.toValue),
    ("navbar", s.navbar.toValue), ("footer", s.footer.toValue),
    ("plugins", .list (s.plugins.map .text)), ("snippets", s.snippets.toValue),
    ("home", s.home.toValue)]

/-- A value as it is shown: a document without blanks at its end. -/
def display (v : Value) : String := String.ofList (Text.trimEnd (Yaml.print v))

/-- The configuration as a file that describes it. -/
def Config.display (c : Config) : String := VersionedSite.display c.toValue

/-- The site as a document. -/
def Site.display (s : Site) : String := VersionedSite.display s.toValue

end VersionedSite
