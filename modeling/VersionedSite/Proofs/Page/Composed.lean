import Mathlib.Data.List.Forall2
import Mathlib.Data.List.Nodup
import VersionedSite.Page.Composition
import VersionedSite.Proofs.Site.Requests

/-!
# What a composed page says about versions

A home page is composed for one version, and several parts of it show which one that is: the two
install commands, the links to the documentation, and the menu of versions, which has to mark the
version among all others. The main statement is that these parts agree with each other and with
the commands that are given outside of any page.

The seam is `homePage_eq_ok_iff`: composing a page can fail in two of its parts only, and apart
from those two the page is a function of the site and the version.
-/

namespace VersionedSite

variable {s : Site} {v : Version} {year : Int} {snippets : InstallSnippets} {lib : Liquid.Library}
  {page : HomePage}

namespace Site

/-! ## Pages and their parts -/

/-- The home page around the two parts that may fail to be made. -/
def pageAround (s : Site) (viewed : Version) (install : Option InstallBlock)
    (copyright : Option String) : HomePage where
  lang := s.locales.defaultLocale
  title := s.documentTitle
  metaDescription := s.home.metaDescription
  favicon := s.favicon.map s.sitePath
  bar := s.bar viewed
  header := {
    title := s.title
    tagline := s.tagline
    description := s.home.description
    primary := s.actionLink s.home.primaryAction
    secondary := s.actionLink s.home.secondaryAction }
  features := featureGrid s.baseUrl features
  install
  callToAction := s.home.callToAction.map fun c ↦ ⟨c.heading, c.body, s.actionLink c.action⟩
  footer := {
    style := s.footer.style
    groups := s.footer.links.map fun g ↦ ⟨g.title, g.items.map s.footerLink⟩
    copyright }

theorem homePage_eq_ok_iff :
    s.homePage v year snippets lib = .ok page ↔
      ∃ install copyright, s.installBlock snippets v = .ok install ∧
        s.copyright lib year = .ok copyright ∧ page = s.pageAround v install copyright := by
  rw [homePage]
  constructor
  · intro h
    obtain ⟨install, hinstall, h⟩ := Steps.bind_eq_ok_iff.mp h
    obtain ⟨copyright, hcopyright, h⟩ := Steps.bind_eq_ok_iff.mp h
    exact ⟨install, copyright, Steps.mapError_eq_ok_iff.mp hinstall, hcopyright,
      (Except.ok.inj h).symm⟩
  · rintro ⟨install, copyright, hinstall, hcopyright, rfl⟩
    refine Steps.bind_eq_ok_iff.mpr ⟨install, Steps.mapError_eq_ok_iff.mpr hinstall, ?_⟩
    exact Steps.bind_eq_ok_iff.mpr ⟨copyright, hcopyright, rfl⟩

/-! ## Install commands -/

theorem installBlock_eq_ok_iff {install : Option InstallBlock} :
    s.installBlock snippets v = .ok install ↔
      s.home.showInstall = false ∧ install = none ∨
      s.home.showInstall = true ∧ ∃ packageManager directApply,
        snippets.line .packageManager s v = .ok packageManager ∧
        snippets.line .directApply s v = .ok directApply ∧
        install = some ⟨v.label, packageManager, directApply⟩ := by
  rw [installBlock]
  cases hshow : s.home.showInstall with
  | false => simp [eq_comm]
  | true =>
    simp only [if_true, Bool.true_eq_false, false_and, false_or, true_and]
    constructor
    · intro h
      obtain ⟨packageManager, hpackage, h⟩ := Steps.bind_eq_ok_iff.mp h
      obtain ⟨directApply, hdirect, h⟩ := Steps.bind_eq_ok_iff.mp h
      exact ⟨packageManager, directApply, hpackage, hdirect, (Except.ok.inj h).symm⟩
    · rintro ⟨packageManager, directApply, hpackage, hdirect, rfl⟩
      refine Steps.bind_eq_ok_iff.mpr ⟨packageManager, hpackage, ?_⟩
      exact Steps.bind_eq_ok_iff.mpr ⟨directApply, hdirect, rfl⟩

theorem snippet_eq_ok_iff {request : Option String} {k : SnippetKind} {line : String} :
    s.snippet request k = .ok line ↔
      ∃ snippets, InstallSnippets.ofTemplates s.snippets = .ok snippets ∧
        snippets.line k s (s.requestedVersion request).version = .ok line := by
  rw [snippet, Steps.bind_eq_ok_iff]
  exact exists_congr fun _ ↦ and_congr Steps.mapError_eq_ok_iff Steps.mapError_eq_ok_iff

end Site

/-- The command of a kind in an install block. -/
def InstallBlock.command (b : InstallBlock) : SnippetKind → String
  | .packageManager => b.packageManager
  | .directApply => b.directApply

namespace Site

/-- A page for the version that a request is about shows the commands that are given for the
request. -/
theorem exists_install_of_homePage (request : Option String)
    (hsnippets : InstallSnippets.ofTemplates s.snippets = .ok snippets)
    (h : s.homePage (s.requestedVersion request).version year snippets lib = .ok page)
    (hshow : s.home.showInstall = true) :
    ∃ block, page.install = some block ∧
      block.version = (s.requestedVersion request).version.label ∧
      ∀ k, s.snippet request k = .ok (block.command k) := by
  obtain ⟨install, copyright, hinstall, -, rfl⟩ := homePage_eq_ok_iff.mp h
  rcases installBlock_eq_ok_iff.mp hinstall with ⟨hhide, -⟩ | ⟨-, pm, da, hpm, hda, rfl⟩
  · exact absurd (hshow.symm.trans hhide) (by simp)
  · refine ⟨_, rfl, rfl, fun k ↦ snippet_eq_ok_iff.mpr ⟨snippets, hsnippets, ?_⟩⟩
    cases k with
    | packageManager => exact hpm
    | directApply => exact hda

/-! ## The menu of versions -/

theorem activeVersion_versionHref (hv : v ∈ s.versions.toList) :
    s.activeVersion (s.versionHref v) = ⟨v, .matched⟩ := by
  have htail : EndsBefore ['/'] := fun ch hch ↦ by rw [← Option.mem_some.mp hch]; rfl
  refine activeVersion_of_toList hv htail ?_
  simp [versionHref, docsRoot, String.toList_append]

/-- One entry of the menu is marked. -/
theorem filter_active_versionLinks (hv : v ∈ s.versions.toList) :
    (s.versionLinks v).filter (·.active) = [⟨v.label, s.versionHref v, true⟩] := by
  have hone : s.versions.toList.filter (· = v) = [v] := by
    rw [List.filter_eq, List.count_eq_one_of_mem s.versions.nodup_toList hv]
    rfl
  rw [versionLinks, List.filter_map]
  simpa [Function.comp_def] using hone

/-- A menu of versions marks one entry, and that entry is the one whose address is read as a
request for the version. -/
structure MenuMarks (s : Site) (v : Version) (menu : List VersionLink) : Prop where
  one : ∃ e, menu.filter (·.active) = [e]
  marked : ∀ e ∈ menu, e.active = true ↔ s.activeVersion e.href = ⟨v, .matched⟩

theorem menuMarks_versionLinks (hv : v ∈ s.versions.toList) :
    s.MenuMarks v (s.versionLinks v) := by
  refine ⟨⟨_, filter_active_versionLinks hv⟩, fun e he ↦ ?_⟩
  obtain ⟨u, hu, rfl⟩ := List.mem_map.mp he
  rw [activeVersion_versionHref hu, decide_eq_true_iff]
  exact ⟨fun h ↦ h ▸ rfl, fun h ↦ congrArg ActiveVersion.version h⟩

/-! ## The bar -/

/-- What the bar shows of an item when a version is viewed, as far as it depends on the version:
links to the documentation lead to that version, and so does the menu of versions, which goes by
its name and marks it. No other item is shown as a menu of versions. -/
def ShowsVersion (s : Site) (v : Version) : NavItem → BarItem → Prop
  | .docSidebar .., shown => shown.kind = .link ∧ shown.href = s.versionHref v
  | .versionDropdown _, shown =>
    shown.kind = .versionDropdown ∧ shown.href = s.versionHref v ∧ shown.label = v.label ∧
      s.MenuMarks v shown.versions
  | .link _, shown => shown.kind = .link
  | .search _, shown => shown.kind = .search

theorem showsVersion_barItem (hv : v ∈ s.versions.toList) (i : NavItem) :
    s.ShowsVersion v i (s.barItem v i) := by
  cases i with
  | docSidebar => exact ⟨rfl, rfl⟩
  | link => exact rfl
  | versionDropdown => exact ⟨rfl, rfl, rfl, menuMarks_versionLinks hv⟩
  | search => exact rfl

theorem forall₂_showsVersion_barSide (hv : v ∈ s.versions.toList) (side : Position) :
    List.Forall₂ (s.ShowsVersion v) (s.navbar.items.filter (·.position = side))
      (s.barSide v side) := by
  rw [barSide, List.forall₂_map_right_iff, List.forall₂_same]
  exact fun i _ ↦ showsVersion_barItem hv i

theorem exists_item_of_mem_barSide {side : Position} {shown : BarItem}
    (h : shown ∈ s.barSide v side) : ∃ i ∈ s.navbar.items, shown = s.barItem v i := by
  rw [barSide] at h
  obtain ⟨i, hi, rfl⟩ := List.mem_map.mp h
  exact ⟨i, List.mem_of_mem_filter hi, rfl⟩

/-- Whatever stands in the bar of a page shows an item of the bar of the site. -/
theorem exists_item_of_mem_bar (h : s.homePage v year snippets lib = .ok page) {shown : BarItem}
    (hshown : shown ∈ page.bar.left ++ page.bar.right) :
    ∃ i ∈ s.navbar.items, shown = s.barItem v i := by
  obtain ⟨install, copyright, -, -, rfl⟩ := homePage_eq_ok_iff.mp h
  rcases List.mem_append.mp hshown with hleft | hright
  · exact exists_item_of_mem_barSide hleft
  · exact exists_item_of_mem_barSide hright

/-- **The parts of a page agree on the version.** A home page that is composed for the version of a
request shows the install commands that are given for the request, and both sides of its bar show
that version and no other. -/
theorem homePage_agrees_on_version {request : String}
    (hsnippets : InstallSnippets.ofTemplates s.snippets = .ok snippets)
    (h : s.homePage (s.activeVersion request).version year snippets lib = .ok page) :
    (s.home.showInstall = true → ∃ block, page.install = some block ∧
        block.version = (s.activeVersion request).version.label ∧
        ∀ k, s.snippet (some request) k = .ok (block.command k)) ∧
      List.Forall₂ (s.ShowsVersion (s.activeVersion request).version)
        (s.navbar.items.filter (·.position = .left)) page.bar.left ∧
      List.Forall₂ (s.ShowsVersion (s.activeVersion request).version)
        (s.navbar.items.filter (·.position = .right)) page.bar.right := by
  have hv := s.mem_versions_activeVersion request
  refine ⟨exists_install_of_homePage (some request) hsnippets h, ?_⟩
  obtain ⟨install, copyright, -, -, rfl⟩ := homePage_eq_ok_iff.mp h
  exact ⟨forall₂_showsVersion_barSide hv .left, forall₂_showsVersion_barSide hv .right⟩

/-- The version of the request is not the canonical one, and is named like the route and the path
prefix. -/
theorem minimal_docs_page_agrees :
    ∃ s snippets page, Config.minimal.resolve none = .ok s ∧
      InstallSnippets.ofTemplates s.snippets = .ok snippets ∧
      s.homePage (s.activeVersion "/docs/docs/docs/install").version 2026 snippets .empty =
        .ok page ∧
      (s.activeVersion "/docs/docs/docs/install").version.label = "Docs" ∧
      s.home.showInstall = true ∧
      (∃ block, page.install = some block ∧ block.version = "Docs" ∧
        ∀ k, s.snippet (some "/docs/docs/docs/install") k = .ok (block.command k)) ∧
      List.Forall₂ (s.ShowsVersion (s.activeVersion "/docs/docs/docs/install").version)
        (s.navbar.items.filter (·.position = .left)) page.bar.left := by
  have hrun : ((Config.minimal.resolve none).toOption.any fun s ↦
      (InstallSnippets.ofTemplates s.snippets).toOption.any fun snippets ↦
      (s.homePage (s.activeVersion "/docs/docs/docs/install").version 2026 snippets
        .empty).toOption.any fun _ ↦
      (s.activeVersion "/docs/docs/docs/install").version.label = "Docs" &&
        s.home.showInstall) = true := by
    decide +kernel
  simp only [Steps.any_toOption_iff, Bool.and_eq_true, decide_eq_true_iff] at hrun
  obtain ⟨s, hs, snippets, hsnippets, page, hpage, hlabel, hshow⟩ := hrun
  obtain ⟨hinstall, hleft, -⟩ := homePage_agrees_on_version hsnippets hpage
  obtain ⟨block, hblock, hversion, hlines⟩ := hinstall hshow
  exact ⟨s, snippets, page, hs, hsnippets, hpage, hlabel, hshow,
    ⟨block, hblock, hversion.trans hlabel, hlines⟩, hleft⟩

end Site

end VersionedSite
