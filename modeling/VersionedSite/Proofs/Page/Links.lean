import VersionedSite.Proofs.Page.Composed
import VersionedSite.Proofs.Site.DocsAddress

/-!
# Links of a page

Every link of a site's description is on its home page, once and in its place: the items of the bar
on their two sides, the links of the footer in their groups, the buttons in the header and below it.
A link is given by a path inside the site or by an address, never by both and never by neither. The
description has been checked for that, and so a page has no link that leads nowhere.

The second concern is where links lead that stay inside. Their targets are put together from the
prefix of the site and a free text. A target with two slashes in front would leave for another host,
and no target of a page has them: the prefix has one slash in front, and the text has lost its own.
-/

namespace VersionedSite

variable {s : Site} {viewed : Version} {year : Int} {snippets : InstallSnippets}
  {lib : Liquid.Library} {page : HomePage} {c : Config} {profile : Option String}
  {path target : String}

namespace Site

/-! ## Targets -/

/-- The target is the prefix of the site, followed by the path without its leading slashes. -/
def LeadsInside (s : Site) (path target : String) : Prop :=
  ∃ slashes rest, path.toList = List.replicate slashes '/' ++ rest ∧ rest.head? ≠ some '/' ∧
    target.toList = s.baseUrl.text.toList ++ rest

theorem leadsInside_sitePath (s : Site) (path : String) :
    s.LeadsInside path (s.sitePath path) := by
  obtain ⟨slashes, hpath, hrest⟩ := Text.dropWhile_beq_eq_iff.mp
    (rfl : path.toList.dropWhile (· == '/') = _)
  refine ⟨slashes, _, hpath, hrest, ?_⟩
  rw [sitePath, BaseUrl.join, String.toList_append, String.toList_ofList]

/-- The address of a version lies inside as well, because no route has a slash in front. -/
theorem leadsInside_versionHref (hs : c.resolve profile = .ok s) (v : Version) :
    s.LeadsInside (s.routeBasePath ++ "/" ++ v.path.text ++ "/") (s.versionHref v) := by
  obtain ⟨hne, hhead, -⟩ := route_of_resolve hs
  refine ⟨0, (s.routeBasePath ++ "/" ++ v.path.text ++ "/").toList, rfl, ?_, ?_⟩
  · rw [String.append_assoc, String.append_assoc, String.toList_append,
      List.head?_append_of_ne_nil _ hne]
    exact hhead
  · simp [toList_versionHref, toList_docsRoot, String.toList_append]

/-- A target inside the site, or no target at all, which is what a search box has. -/
def StaysInside (s : Site) (target : String) : Prop :=
  target = "" ∨ ∃ path, s.LeadsInside path target

/-- No target inside the site is read as a host and a path on it. -/
theorem StaysInside.not_two_slashes (h : s.StaysInside target) :
    ¬['/', '/'] <+: target.toList := by
  rcases h with rfl | ⟨path, -, rest, -, hrest, htarget⟩
  · decide
  · rw [htarget]
    exact s.baseUrl.not_two_slashes_append hrest

/-- Where a link leads that is given by a path inside the site or by an address. There is no rule
for a link that is given by both, and none for a link that is given by neither. -/
inductive LeadsTo (s : Site) : Option String → Option String → String → Bool → Prop where
  | inside {path target : String} (h : s.LeadsInside path target) :
      LeadsTo s (some path) none target false
  | outside {href : String} : LeadsTo s none (some href) href true

theorem leadsTo_linkTarget {path href : Option String} (h : OneTarget path href) :
    s.LeadsTo path href (s.linkTarget path href).1 (s.linkTarget path href).2 := by
  rcases h with ⟨hpath, rfl⟩ | ⟨rfl, hhref⟩
  · obtain ⟨path, rfl⟩ := Option.isSome_iff_exists.mp hpath
    exact .inside (s.leadsInside_sitePath path)
  · obtain ⟨href, rfl⟩ := Option.isSome_iff_exists.mp hhref
    exact .outside

/-! ## What is shown of a link -/

/-- What the bar shows of an item when a version is viewed. -/
inductive ShownAs (s : Site) (viewed : Version) : NavItem → BarItem → Prop where
  | docSidebar {id label : String} {p : Position} :
      ShownAs s viewed (.docSidebar id label p)
        { kind := .link, label, href := s.versionHref viewed }
  | link {l : NavLink} {href : String} {external : Bool}
      (h : s.LeadsTo l.page l.href href external) :
      ShownAs s viewed (.link l)
        { kind := .link, label := l.label.getD "", href, external, ariaLabel := l.ariaLabel,
          className := l.className }
  | versionDropdown {p : Position} :
      ShownAs s viewed (.versionDropdown p)
        { kind := .versionDropdown, label := viewed.label, href := s.versionHref viewed,
          versions := s.versionLinks viewed }
  | search {p : Position} :
      ShownAs s viewed (.search p) { kind := .search, label := "Search", href := "" }

/-- The items of a bar are dealt out to its two sides: each item is shown once, on its own side and
behind the items before it. -/
inductive Dealt (s : Site) (viewed : Version) :
    List NavItem → List BarItem → List BarItem → Prop where
  | nil : Dealt s viewed [] [] []
  | left {i : NavItem} {item : BarItem} {items : List NavItem} {left right : List BarItem}
      (hside : i.position = .left) (h : s.ShownAs viewed i item)
      (rest : Dealt s viewed items left right) : Dealt s viewed (i :: items) (item :: left) right
  | right {i : NavItem} {item : BarItem} {items : List NavItem} {left right : List BarItem}
      (hside : i.position = .right) (h : s.ShownAs viewed i item)
      (rest : Dealt s viewed items left right) : Dealt s viewed (i :: items) left (item :: right)

/-- What the footer shows of a link. -/
def ShowsFooterLink (s : Site) (l : FooterLink) (shown : PageLink) : Prop :=
  shown.label = l.label ∧ s.LeadsTo l.page l.href shown.href shown.external

/-- What the footer shows of a group of links. -/
def ShowsGroup (s : Site) (g : FooterGroup) (shown : LinkGroup) : Prop :=
  shown.title = g.title ∧ List.Forall₂ s.ShowsFooterLink g.items shown.links

/-- What the page shows of a button, which stays inside. -/
def ShowsAction (s : Site) (a : HomeAction) (shown : PageLink) : Prop :=
  shown.label = a.label ∧ shown.external = false ∧ s.LeadsInside a.page shown.href

/-- A page has every link of the site once, in the order of the description. -/
structure ShowsLinks (s : Site) (viewed : Version) (page : HomePage) : Prop where
  bar : s.Dealt viewed s.navbar.items page.bar.left page.bar.right
  footer : List.Forall₂ s.ShowsGroup s.footer.links page.footer.groups
  primary : s.ShowsAction s.home.primaryAction page.header.primary
  secondary : s.ShowsAction s.home.secondaryAction page.header.secondary
  callToAction : Option.Rel (fun c shown ↦ s.ShowsAction c.action shown.action)
    s.home.callToAction page.callToAction

theorem shownAs_barItem {i : NavItem} (h : ∀ l, i = .link l → OneTarget l.page l.href) :
    s.ShownAs viewed i (s.barItem viewed i) := by
  cases i with
  | docSidebar id label p => exact .docSidebar
  | link l => exact .link (leadsTo_linkTarget (h l rfl))
  | versionDropdown p => exact .versionDropdown
  | search p => exact .search

/-- Taking the items of either side by themselves deals them out. -/
theorem dealt_filter {items : List NavItem}
    (h : ∀ l, .link l ∈ items → OneTarget l.page l.href) :
    s.Dealt viewed items ((items.filter (·.position = .left)).map (s.barItem viewed))
      ((items.filter (·.position = .right)).map (s.barItem viewed)) := by
  induction items with
  | nil => exact .nil
  | cons i items ih =>
    have hshown : s.ShownAs viewed i (s.barItem viewed i) := by
      refine shownAs_barItem fun l hl ↦ h l ?_
      rw [hl]
      exact List.mem_cons_self
    have hrest := ih fun l hl ↦ h l (List.mem_cons_of_mem i hl)
    cases hside : i.position with
    | left =>
      rw [List.filter_cons_of_pos (by simp [hside]), List.filter_cons_of_neg (by simp [hside])]
      exact .left hside hshown hrest
    | right =>
      rw [List.filter_cons_of_neg (by simp [hside]), List.filter_cons_of_pos (by simp [hside])]
      exact .right hside hshown hrest

end Site

/-! ## Targets of a page -/

/-- The target of a link that does not leave the site. -/
def PageLink.insideTargets (l : PageLink) : List String := if l.external then [] else [l.href]

theorem PageLink.mem_insideTargets_iff {l : PageLink} :
    target ∈ l.insideTargets ↔ l.external = false ∧ target = l.href := by
  rw [insideTargets]
  cases l.external <;> simp

/-- The targets of an item that do not leave the site, those in its menu included. -/
def BarItem.insideTargets (i : BarItem) : List String :=
  (if i.external then [] else [i.href]) ++ i.versions.map (·.href)

theorem BarItem.mem_insideTargets_iff {i : BarItem} :
    target ∈ i.insideTargets ↔
      i.external = false ∧ target = i.href ∨ target ∈ i.versions.map (·.href) := by
  rw [insideTargets, List.mem_append]
  cases i.external <;> simp

/-- All links of a page outside of its bar. -/
def HomePage.links (p : HomePage) : List PageLink :=
  p.header.primary :: p.header.secondary :: (p.callToAction.map (·.action)).toList ++
    p.footer.groups.flatMap (·.links)

/-- The way home, and the addresses of the pictures of a page. -/
def HomePage.fixedTargets (p : HomePage) : List String :=
  p.bar.homeHref :: (p.bar.logo.map (·.src)).toList ++ p.favicon.toList ++
    p.features.map (·.iconSrc)

/-- All targets of a page that do not leave the site. -/
def HomePage.insideTargets (p : HomePage) : List String :=
  p.fixedTargets ++ (p.bar.left ++ p.bar.right).flatMap (·.insideTargets) ++
    p.links.flatMap (·.insideTargets)

namespace Site

/-! ### Links of a checked description -/

theorem oneTarget_of_mem_navbar (hs : c.resolve profile = .ok s) {l : NavLink}
    (h : .link l ∈ s.navbar.items) : OneTarget l.page l.href := by
  obtain ⟨record, -, hdescribes, hrules⟩ := Config.exists_describes_of_resolve hs
  obtain ⟨n, hn, hnavbar⟩ := hdescribes.navbar
  refine hrules .navbarLinks n hn l ?_
  -- dropping the search boxes adds no link
  rw [hnavbar] at h
  split at h
  · exact h
  · exact List.mem_of_mem_filter h

theorem oneTarget_of_mem_footer (hs : c.resolve profile = .ok s) {g : FooterGroup}
    (hg : g ∈ s.footer.links) {l : FooterLink} (hl : l ∈ g.items) : OneTarget l.page l.href := by
  obtain ⟨record, -, hdescribes, hrules⟩ := Config.exists_describes_of_resolve hs
  exact hrules .footerLinks s.footer hdescribes.footer g hg l hl

/-! ### Targets that stay inside -/

theorem staysInside_sitePath (s : Site) (path : String) : s.StaysInside (s.sitePath path) :=
  .inr ⟨path, s.leadsInside_sitePath path⟩

theorem staysInside_versionHref (hs : c.resolve profile = .ok s) (v : Version) :
    s.StaysInside (s.versionHref v) :=
  .inr ⟨_, leadsInside_versionHref hs v⟩

theorem LeadsTo.staysInside {path href : Option String} {external : Bool}
    (h : s.LeadsTo path href target external) (hinside : external = false) :
    s.StaysInside target := by
  cases h with
  | inside h => exact .inr ⟨_, h⟩
  | outside => exact absurd hinside (by simp)

theorem ShownAs.staysInside (hs : c.resolve profile = .ok s) {i : NavItem} {item : BarItem}
    (h : s.ShownAs viewed i item) (htarget : target ∈ item.insideTargets) :
    s.StaysInside target := by
  rcases BarItem.mem_insideTargets_iff.mp htarget with ⟨hinside, rfl⟩ | hmenu
  · cases h with
    | docSidebar => exact staysInside_versionHref hs viewed
    | link hlink => exact hlink.staysInside hinside
    | versionDropdown => exact staysInside_versionHref hs viewed
    | search => exact .inl rfl
  · -- only a menu of versions has entries
    cases h with
    | docSidebar => exact absurd hmenu List.not_mem_nil
    | link => exact absurd hmenu List.not_mem_nil
    | versionDropdown =>
      rw [versionLinks, List.map_map] at hmenu
      obtain ⟨v, -, rfl⟩ := List.mem_map.mp hmenu
      exact staysInside_versionHref hs v
    | search => exact absurd hmenu List.not_mem_nil

/-! ## All links of a page -/

theorem showsFooterLink_footerLink {l : FooterLink} (h : OneTarget l.page l.href) :
    s.ShowsFooterLink l (s.footerLink l) :=
  ⟨rfl, leadsTo_linkTarget h⟩

theorem showsAction_actionLink (s : Site) (a : HomeAction) : s.ShowsAction a (s.actionLink a) :=
  ⟨rfl, rfl, s.leadsInside_sitePath a.page⟩

theorem showsLinks_of_homePage (hs : c.resolve profile = .ok s)
    (h : s.homePage viewed year snippets lib = .ok page) : s.ShowsLinks viewed page := by
  obtain ⟨install, copyright, -, -, rfl⟩ := homePage_eq_ok_iff.mp h
  refine {
    bar := dealt_filter fun l hl ↦ oneTarget_of_mem_navbar hs hl
    footer := ?_
    primary := s.showsAction_actionLink s.home.primaryAction
    secondary := s.showsAction_actionLink s.home.secondaryAction
    callToAction := ?_ }
  · refine List.forall₂_map_right_iff.mpr (List.forall₂_same.mpr fun g hg ↦ ⟨rfl, ?_⟩)
    refine List.forall₂_map_right_iff.mpr (List.forall₂_same.mpr fun l hl ↦ ?_)
    exact showsFooterLink_footerLink (oneTarget_of_mem_footer hs hg hl)
  · rw [pageAround]
    cases s.home.callToAction with
    | none => exact .none
    | some c => exact .some (s.showsAction_actionLink c.action)

/-- Outside of the bar, a link that is not shown as one that leads out stays inside. -/
theorem staysInside_of_mem_links (hs : c.resolve profile = .ok s)
    (h : s.homePage viewed year snippets lib = .ok page) {l : PageLink} (hl : l ∈ page.links)
    (hinside : l.external = false) : s.StaysInside l.href := by
  obtain ⟨install, copyright, -, -, rfl⟩ := homePage_eq_ok_iff.mp h
  rw [HomePage.links, List.mem_append, List.mem_cons, List.mem_cons] at hl
  rcases hl with (rfl | rfl | hl) | hl
  · exact s.staysInside_sitePath s.home.primaryAction.page
  · exact s.staysInside_sitePath s.home.secondaryAction.page
  · obtain ⟨block, hblock, rfl⟩ := Option.map_eq_some_iff.mp (Option.mem_toList.mp hl)
    obtain ⟨call, -, rfl⟩ := Option.map_eq_some_iff.mp hblock
    exact s.staysInside_sitePath call.action.page
  · obtain ⟨group, hgroup, hl⟩ := List.mem_flatMap.mp hl
    obtain ⟨g, hg, rfl⟩ := List.mem_map.mp hgroup
    obtain ⟨link, hlink, rfl⟩ := List.mem_map.mp hl
    exact (leadsTo_linkTarget (oneTarget_of_mem_footer hs hg hlink)).staysInside hinside

theorem staysInside_of_mem_fixedTargets (h : s.homePage viewed year snippets lib = .ok page)
    (htarget : target ∈ page.fixedTargets) : s.StaysInside target := by
  obtain ⟨install, copyright, -, -, rfl⟩ := homePage_eq_ok_iff.mp h
  rw [HomePage.fixedTargets, List.mem_append, List.mem_append, List.mem_cons] at htarget
  rcases htarget with ((rfl | hlogo) | hfavicon) | hicon
  · exact s.staysInside_sitePath ""
  · obtain ⟨shown, hshown, rfl⟩ := Option.map_eq_some_iff.mp (Option.mem_toList.mp hlogo)
    obtain ⟨logo, -, rfl⟩ := Option.map_eq_some_iff.mp hshown
    exact s.staysInside_sitePath logo.src
  · obtain ⟨favicon, -, rfl⟩ := Option.map_eq_some_iff.mp (Option.mem_toList.mp hfavicon)
    exact s.staysInside_sitePath favicon
  · obtain ⟨block, hblock, rfl⟩ := List.mem_map.mp hicon
    obtain ⟨i, hi, rfl⟩ := List.mem_mapIdx.mp hblock
    exact s.staysInside_sitePath _

theorem staysInside_of_mem_insideTargets (hs : c.resolve profile = .ok s)
    (h : s.homePage viewed year snippets lib = .ok page) (htarget : target ∈ page.insideTargets) :
    s.StaysInside target := by
  rw [HomePage.insideTargets, List.mem_append, List.mem_append] at htarget
  rcases htarget with (hfixed | hbar) | hlink
  · exact staysInside_of_mem_fixedTargets h hfixed
  · obtain ⟨item, hitem, htarget⟩ := List.mem_flatMap.mp hbar
    obtain ⟨i, hi, rfl⟩ := exists_item_of_mem_bar h hitem
    have hshown : s.ShownAs viewed i (s.barItem viewed i) := by
      refine shownAs_barItem fun l hl ↦ oneTarget_of_mem_navbar hs ?_
      rwa [← hl]
    exact hshown.staysInside hs htarget
  · obtain ⟨l, hl, htarget⟩ := List.mem_flatMap.mp hlink
    obtain ⟨hinside, rfl⟩ := PageLink.mem_insideTargets_iff.mp htarget
    exact staysInside_of_mem_links hs h hl hinside

/-- **Every link reaches the page once, with its own target.** The items of the bar are dealt out
to its two sides, the footer has the groups and links that are described, and the buttons are where
they belong. A link that is given by a path leads inside, below the prefix of the site; one that is
given by an address leads there; no link has both or neither. And no target inside the site, that of
a menu or a picture included, has two slashes in front. -/
theorem links_reach_page (hs : c.resolve profile = .ok s)
    (h : s.homePage viewed year snippets lib = .ok page) :
    s.ShowsLinks viewed page ∧
      (∀ l, .link l ∈ s.navbar.items → OneTarget l.page l.href) ∧
      (∀ g ∈ s.footer.links, ∀ l ∈ g.items, OneTarget l.page l.href) ∧
      ∀ target ∈ page.insideTargets, ¬['/', '/'] <+: target.toList := by
  refine ⟨showsLinks_of_homePage hs h, fun l hl ↦ oneTarget_of_mem_navbar hs hl,
    fun g hg l hl ↦ oneTarget_of_mem_footer hs hg hl, fun target htarget ↦ ?_⟩
  exact (staysInside_of_mem_insideTargets hs h htarget).not_two_slashes

end Site

/-- A configuration at the root of its host, with a link of every kind. Some of the paths have more
slashes in front than they should. -/
def Config.linked : Config :=
  { minimal with
    baseUrl := some .root
    favicon := some "//img/icon.ico"
    navbar := some ⟨some "Example", some ⟨"Logo", "img/logo.svg"⟩, [
      .link ⟨some "Help", some "//example.com/help", none, .right, none, none⟩,
      .docSidebar "docs" "Docs" .left,
      .versionDropdown .right,
      .link ⟨none, none, some "https://example.com", .left, some "Code", none⟩,
      .search .right]⟩
    footer := some ⟨.dark, [⟨"More", [⟨"Blog", some "blog", none⟩,
      ⟨"Code", none, some "//example.com"⟩]⟩, ⟨"Nothing", []⟩], none⟩
    home := { Home.default with callToAction := some ⟨"Now", "", ⟨"Go", "///start"⟩⟩ } }

/-- The links of the page stand as they should, and none that stays inside leads to another host. -/
theorem Site.linked_page_stays_inside :
    ∃ s snippets page, Config.linked.resolve none = .ok s ∧
      s.homePage s.versions.canonical 2026 snippets .empty = .ok page ∧
      s.ShowsLinks s.versions.canonical page ∧
      page.bar.left.map (·.href) = ["/docs/head/", "https://example.com"] ∧
      page.bar.right.map (·.href) = ["/example.com/help", "/docs/head/", ""] ∧
      page.links.map (·.href) =
        ["/docs/quickstart", "/docs/overview", "/start", "/blog", "//example.com"] ∧
      ∀ target ∈ page.insideTargets, ¬['/', '/'] <+: target.toList := by
  have hrun : (Config.linked.resolve none).toOption.any (fun s ↦
      (InstallSnippets.ofTemplates s.snippets).toOption.any fun snippets ↦
      (s.homePage s.versions.canonical 2026 snippets .empty).toOption.any fun page ↦
        page.bar.left.map (·.href) = ["/docs/head/", "https://example.com"] &&
          page.bar.right.map (·.href) = ["/example.com/help", "/docs/head/", ""] &&
          page.links.map (·.href) =
            ["/docs/quickstart", "/docs/overview", "/start", "/blog", "//example.com"]) = true := by
    decide +kernel
  simp only [Steps.any_toOption_iff, Bool.and_eq_true, decide_eq_true_iff] at hrun
  obtain ⟨s, hs, snippets, -, page, hpage, ⟨hleft, hright⟩, hlinks⟩ := hrun
  obtain ⟨hshows, -, -, hinside⟩ := links_reach_page hs hpage
  exact ⟨s, snippets, page, hs, hpage, hshows, hleft, hright, hlinks, hinside⟩

end VersionedSite
