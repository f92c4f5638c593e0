import VersionedSite.Site.Config
import VersionedSite.Yaml.Choice

/-!
# Reading configurations

The fields of every record of a configuration file, under the names that they have there. A field
that is not listed is refused, a field with a default may be left out, and a text that has rules
of its own is checked where it is read. Only the items of the bar pass over fields that they do
not know, because they are read as a choice by their type.
-/

namespace VersionedSite

open Yaml

/-! ## Checked texts -/

def SiteUrl.reader : Reader SiteUrl := .checked SiteUrl.ofString

def BaseUrl.reader : Reader BaseUrl := .checked fun s ↦ (BaseUrl.ofString s).mapError (·.message)

def VersionPath.reader : Reader VersionPath :=
  .checked fun s ↦ (VersionPath.ofString s).mapError (·.message)

/-! ## Versions -/

/-- A version of which some components are still missing. -/
structure VersionDraft where
  label : Option String := none
  path : Option VersionPath := none

def Version.reader : Reader Version :=
  .record "VersionDescriptor"
    [.set "label" .string fun a d ↦ { d with label := some a },
      .set "path" VersionPath.reader fun a d ↦ { d with path := some a }]
    ({} : VersionDraft)
    fun d ↦ do return ⟨← require "label" d.label, ← require "path" d.path⟩

def Docs.reader : Reader Docs :=
  .defaulted "Docs"
    [.set "route_base_path" .string fun a d ↦ { d with routeBasePath := a },
      .set "versions" (.list Version.reader) fun a d ↦ { d with versions := a }]
    .default

/-! ## Content -/

def OnBrokenLinks.words : List (String × OnBrokenLinks) :=
  [("ignore", .ignore), ("warn", .warn), ("throw", .throw)]

def OnBrokenLinks.reader : Reader OnBrokenLinks := .oneOf OnBrokenLinks.words

def Locales.reader : Reader Locales :=
  .defaulted "I18n"
    [.set "default_locale" .string fun a d ↦ { d with defaultLocale := a },
      .set "locales" (.list .string) fun a d ↦ { d with locales := NameSet.ofList a }]
    .default

def Theme.reader : Reader Theme :=
  .defaulted "Theme"
    [.set "custom_css" (.optional .string) fun a d ↦ { d with customCss := a },
      .set "image" (.optional .string) fun a d ↦ { d with image := a },
      .set "code_theme" .string fun a d ↦ { d with codeTheme := a },
      .set "dark_code_theme" .string fun a d ↦ { d with darkCodeTheme := a }]
    .default

def Search.reader : Reader Search :=
  .defaulted "Search"
    [.set "enabled" .bool fun a d ↦ { d with enabled := a },
      .set "plugin" .string fun a d ↦ { d with plugin := a }]
    .default

def SnippetTemplates.reader : Reader SnippetTemplates :=
  .defaulted "SnippetTemplates"
    [.set "package_manager" .string fun a d ↦ { d with packageManager := a },
      .set "direct_apply" .string fun a d ↦ { d with directApply := a }]
    .default

/-! ## Navigation -/

def Position.words : List (String × Position) := [("left", .left), ("right", .right)]

structure LogoDraft where
  alt : Option String := none
  src : Option String := none

def Logo.reader : Reader Logo :=
  .record "Logo"
    [.set "alt" .string fun a d ↦ { d with alt := some a },
      .set "src" .string fun a d ↦ { d with src := some a }]
    ({} : LogoDraft)
    fun d ↦ do return ⟨← require "alt" d.alt, ← require "src" d.src⟩

structure SidebarDraft where
  sidebarId : Option String := none
  label : Option String := none
  position : Position := .left

namespace NavItem

/-- A field of an item whose reader gives the new value of a component. -/
def field {σ α : Type} (name : String) (required : Bool) (read : Loose → Except Cause α)
    (put : α → σ → σ) : LooseField σ :=
  ⟨name, required, fun v ↦ put <$> read v⟩

/-- The record that the type `doc_sidebar` chooses. -/
def sidebarVariant : Variant SidebarDraft NavItem :=
  { title := "struct variant NavbarItem::DocSidebar"
    fields :=
      [field "sidebar_id" true Loose.string fun a d ↦ { d with sidebarId := some a },
        field "label" true Loose.string fun a d ↦ { d with label := some a },
        field "position" false (Loose.oneOf Position.words) fun a d ↦ { d with position := a }]
    draft := {}
    finish := fun d ↦ do
      let sidebarId ← require "sidebar_id" d.sidebarId
      return .docSidebar sidebarId (← require "label" d.label) d.position }

/-- The record that the type `link` chooses. -/
def linkVariant : Variant NavLink NavItem :=
  { title := "struct variant NavbarItem::Link"
    fields :=
      [field "label" false (Loose.optional Loose.string) fun a d ↦ { d with label := a },
        field "to" false (Loose.optional Loose.string) fun a d ↦ { d with page := a },
        field "href" false (Loose.optional Loose.string) fun a d ↦ { d with href := a },
        field "position" false (Loose.oneOf Position.words) fun a d ↦ { d with position := a },
        field "aria_label" false (Loose.optional Loose.string) fun a d ↦ { d with ariaLabel := a },
        field "class_name" false (Loose.optional Loose.string) fun a d ↦ { d with className := a }]
    draft := ⟨none, none, none, .left, none, none⟩
    finish := fun d ↦ .ok (.link d) }

/-- The record of a type whose only field is the position. -/
def positionVariant (title : String) (item : Position → NavItem) : Variant Position NavItem :=
  { title
    fields := [field "position" false (Loose.oneOf Position.words) fun a _ ↦ a]
    draft := .left
    finish := fun p ↦ .ok (item p) }

def reader : Reader NavItem :=
  .choice "internally tagged enum NavbarItem" "type"
    [("doc_sidebar", sidebarVariant.ofLoose),
      ("link", linkVariant.ofLoose),
      ("docs_version_dropdown", (positionVariant "struct variant NavbarItem::DocsVersionDropdown"
        .versionDropdown).ofLoose),
      ("search", (positionVariant "struct variant NavbarItem::Search" .search).ofLoose)]

end NavItem

def Navbar.reader : Reader Navbar :=
  .defaulted "Navbar"
    [.set "title" (.optional .string) fun a d ↦ { d with title := a },
      .set "logo" (.optional Logo.reader) fun a d ↦ { d with logo := a },
      .set "items" (.list NavItem.reader) fun a d ↦ { d with items := a }]
    .default

/-! ## Footer -/

def FooterStyle.words : List (String × FooterStyle) := [("dark", .dark), ("light", .light)]

structure FooterLinkDraft where
  label : Option String := none
  page : Option String := none
  href : Option String := none

def FooterLink.reader : Reader FooterLink :=
  .record "FooterLink"
    [.set "label" .string fun a d ↦ { d with label := some a },
      .set "to" (.optional .string) fun a d ↦ { d with page := a },
      .set "href" (.optional .string) fun a d ↦ { d with href := a }]
    ({} : FooterLinkDraft)
    fun d ↦ do return ⟨← require "label" d.label, d.page, d.href⟩

structure FooterGroupDraft where
  title : Option String := none
  items : List FooterLink := []

def FooterGroup.reader : Reader FooterGroup :=
  .record "FooterLinkGroup"
    [.set "title" .string fun a d ↦ { d with title := some a },
      .set "items" (.list FooterLink.reader) fun a d ↦ { d with items := a }]
    ({} : FooterGroupDraft)
    fun d ↦ do return ⟨← require "title" d.title, d.items⟩

def Footer.reader : Reader Footer :=
  .defaulted "Footer"
    [.set "style" (.oneOf FooterStyle.words) fun a d ↦ { d with style := a },
      .set "links" (.list FooterGroup.reader) fun a d ↦ { d with links := a },
      .set "copyright" (.optional .string) fun a d ↦ { d with copyright := a }]
    .default

/-! ## Home page -/

structure HomeActionDraft where
  label : Option String := none
  page : Option String := none

def HomeAction.reader : Reader HomeAction :=
  .record "HomeAction"
    [.set "label" .string fun a d ↦ { d with label := some a },
      .set "to" .string fun a d ↦ { d with page := some a }]
    ({} : HomeActionDraft)
    fun d ↦ do return ⟨← require "label" d.label, ← require "to" d.page⟩

structure CallToActionDraft where
  heading : Option String := none
  body : String := ""
  action : Option HomeAction := none

def CallToAction.reader : Reader CallToAction :=
  .record "CallToAction"
    [.set "heading" .string fun a d ↦ { d with heading := some a },
      .set "body" .string fun a d ↦ { d with body := a },
      .set "action" HomeAction.reader fun a d ↦ { d with action := some a }]
    ({} : CallToActionDraft)
    fun d ↦ do return ⟨← require "heading" d.heading, d.body, ← require "action" d.action⟩

def Home.reader : Reader Home :=
  .defaulted "Home"
    [.set "description" .string fun a d ↦ { d with description := a },
      .set "meta_description" .string fun a d ↦ { d with metaDescription := a },
      .set "primary_action" HomeAction.reader fun a d ↦ { d with primaryAction := a },
      .set "secondary_action" HomeAction.reader fun a d ↦ { d with secondaryAction := a },
      .set "call_to_action" (.optional CallToAction.reader) fun a d ↦ { d with callToAction := a },
      .set "show_install" .bool fun a d ↦ { d with showInstall := a }]
    .default

/-! ## Configurations -/

def Profile.reader : Reader Profile :=
  .defaulted "Profile"
    [.set "url" (.optional SiteUrl.reader) fun a d ↦ { d with url := a },
      .set "organization_name" (.optional .string) fun a d ↦ { d with organizationName := a },
      .set "current_version" (.optional Version.reader) fun a d ↦ { d with currentVersion := a },
      .set "search" (.optional .bool) fun a d ↦ { d with search := a }]
    .empty

/-- The profiles by name. Of two profiles with one name the later one stays. -/
def Config.profilesReader : Reader (NameMap Profile) :=
  .entries "a map" .empty (fun _ ↦ .string)
    (fun name done p n ↦ do return done.insert name (← Profile.reader p n)) pure

def Config.reader : Reader Config :=
  .defaulted "Config"
    [.set "destination" .string fun a d ↦ { d with destination := a },
      .set "title" (.optional .string) fun a d ↦ { d with title := a },
      .set "tagline" (.optional .string) fun a d ↦ { d with tagline := a },
      .set "favicon" (.optional .string) fun a d ↦ { d with favicon := a },
      .set "url" (.optional SiteUrl.reader) fun a d ↦ { d with url := a },
      .set "base_url" (.optional BaseUrl.reader) fun a d ↦ { d with baseUrl := a },
      .set "organization_name" (.optional .string) fun a d ↦ { d with organizationName := a },
      .set "project_name" (.optional .string) fun a d ↦ { d with projectName := a },
      .set "on_broken_links" OnBrokenLinks.reader fun a d ↦ { d with onBrokenLinks := a },
      .set "i18n" Locales.reader fun a d ↦ { d with locales := a },
      .set "docs" Docs.reader fun a d ↦ { d with docs := a },
      .set "theme" Theme.reader fun a d ↦ { d with theme := a },
      .set "search" Search.reader fun a d ↦ { d with search := a },
      .set "navbar" (.optional Navbar.reader) fun a d ↦ { d with navbar := a },
      .set "footer" (.optional Footer.reader) fun a d ↦ { d with footer := a },
      .set "plugins" (.list .string) fun a d ↦ { d with plugins := a },
      .set "snippets" SnippetTemplates.reader fun a d ↦ { d with snippets := a },
      .set "home" Home.reader fun a d ↦ { d with home := a },
      .set "profiles" Config.profilesReader fun a d ↦ { d with profiles := a }]
    .default

end VersionedSite
