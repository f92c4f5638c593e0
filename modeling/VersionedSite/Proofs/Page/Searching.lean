import VersionedSite.Proofs.Page.Composed

/-!
# Sites with and without search

Whether a site can be searched is decided once, by its profile or else by the base record, and
shows in three places: the list of plugins, the items of the bar, and the bar of a page. The main
statement is that the three never disagree.

What is left of a list when items of one kind are left out is a relation, `LeavesOut`: the order
stays and so does the number of all others. It determines the list, so nothing is said by it about
how the items are left out.
-/

namespace VersionedSite

/-! ## Leaving items out -/

/-- The list `kept` is the list `l` without the items for which `p` holds: nothing else is lost, and
the order is the same. -/
structure LeavesOut {α : Type} [DecidableEq α] (p : α → Bool) (l kept : List α) : Prop where
  sublist : kept.Sublist l
  out : ∀ a ∈ kept, p a = false
  others : ∀ a, p a = false → kept.count a = l.count a

theorem leavesOut_iff {α : Type} [DecidableEq α] {p : α → Bool} {l kept : List α} :
    LeavesOut p l kept ↔ kept = l.filter (!p ·) := by
  constructor
  · intro h
    have hself : kept.filter (!p ·) = kept :=
      List.filter_eq_self.mpr fun a ha ↦ by rw [h.out a ha]; rfl
    have hsublist : kept.Sublist (l.filter (!p ·)) := by
      have hfilter := h.sublist.filter (!p ·)
      rwa [hself] at hfilter
    -- a sublist with as many items of each kind is the whole list
    have hperm : kept.Perm (l.filter (!p ·)) := by
      refine List.perm_iff_count.mpr fun a ↦ ?_
      by_cases ha : p a = true
      · have hkept : a ∉ kept := fun hmem ↦ absurd ((h.out a hmem).symm.trans ha) (by simp)
        have hleft : a ∉ l.filter (!p ·) := by simp [ha]
        rw [List.count_eq_zero_of_not_mem hkept, List.count_eq_zero_of_not_mem hleft]
      · rw [Bool.not_eq_true] at ha
        rw [h.others a ha, List.count_filter (by simp [ha])]
    exact hsublist.eq_of_length hperm.length_eq
  · rintro rfl
    refine ⟨List.filter_sublist, fun a ha ↦ ?_, fun a ha ↦ ?_⟩
    · simpa using (List.mem_filter.mp ha).2
    · rw [List.count_filter (by simp [ha])]

/-! ## The switch -/

namespace Config

variable {c l : Config} {profile : Option String} {s : Site}

/-- Whether a deployment can be searched: as its profile says, or else as the base record does. -/
def searches (c : Config) (profile : Option String) : Bool :=
  (profile.bind fun name ↦ (c.profiles.get? name).bind (·.search)).getD c.search.enabled

/-- A profile decides whether there is search, and has no say in what it is. -/
theorem Layered.search_eq (h : c.Layered profile l) :
    l.search = ⟨c.searches profile, c.search.plugin⟩ := by
  cases h with
  | base => rfl
  | named hp =>
    rw [searches, Option.bind_some, NameMap.get?_eq_some_iff.mpr hp]
    rfl

theorem Layered.plugins_eq (h : c.Layered profile l) : l.plugins = c.plugins := by
  cases h <;> rfl

theorem Layered.navbar_eq (h : c.Layered profile l) : l.navbar = c.navbar := by
  cases h <;> rfl

end Config

/-- The plugins of a site are those of the record without the one for search, which stands last or
not at all. -/
theorem Search.exists_apply_eq (sr : Search) (plugins : List String) :
    ∃ others, LeavesOut (· = sr.plugin) plugins others ∧
      sr.apply plugins = others ++ if sr.enabled then [sr.plugin] else [] := by
  refine ⟨plugins.filter (· ≠ sr.plugin), leavesOut_iff.mpr ?_, rfl⟩
  simp

theorem Navbar.leavesOut_withoutSearch (n : Navbar) :
    LeavesOut NavItem.isSearch n.items n.withoutSearch.items :=
  leavesOut_iff.mpr rfl

/-- Only an item for search is shown as a search box. -/
theorem Site.isSearch_of_kind_barItem {s : Site} {viewed : Version} {i : NavItem}
    (h : (s.barItem viewed i).kind = .search) : i.isSearch = true := by
  cases i with
  | search p => rfl
  | docSidebar id label p => exact absurd h (by simp [barItem])
  | link l => exact absurd h (by simp [barItem])
  | versionDropdown p => exact absurd h (by simp [barItem])

namespace Config

/-- **Search is all or nothing.** A deployment that can be searched has the plugin for search once,
behind all others, and the bar as it is in the record. A deployment that cannot has no such plugin,
no item for search in its bar, and no search box on a page about any version. The other plugins and
the other items stay as they are, in their order and number. -/
theorem search_is_all_or_nothing {c : Config} {profile : Option String} {s : Site}
    (hs : c.resolve profile = .ok s) :
    (c.searches profile = true →
        (∃ others, LeavesOut (· = c.search.plugin) c.plugins others ∧
          s.plugins = others ++ [c.search.plugin]) ∧
        c.navbar = some s.navbar) ∧
      (c.searches profile = false →
        LeavesOut (· = c.search.plugin) c.plugins s.plugins ∧
        (∃ n, c.navbar = some n ∧ s.navbar = { n with items := s.navbar.items } ∧
          LeavesOut NavItem.isSearch n.items s.navbar.items) ∧
        ∀ viewed year snippets lib page, s.homePage viewed year snippets lib = .ok page →
          ∀ item ∈ page.bar.left ++ page.bar.right, item.kind ≠ .search) := by
  obtain ⟨l, hL, hdescribes, -⟩ := exists_describes_of_resolve hs
  obtain ⟨n, hn, hnavbar⟩ := hdescribes.navbar
  have hplugins := hdescribes.plugins
  rw [hL.search_eq] at hplugins hnavbar
  rw [hL.plugins_eq] at hplugins
  rw [hL.navbar_eq] at hn
  obtain ⟨others, hothers, happly⟩ :=
    Search.exists_apply_eq ⟨c.searches profile, c.search.plugin⟩ c.plugins
  rw [happly] at hplugins
  constructor
  · intro hsearch
    rw [hsearch] at hplugins hnavbar
    exact ⟨⟨others, hothers, hplugins⟩, by rw [hn, hnavbar]; rfl⟩
  · intro hsearch
    rw [hsearch] at hplugins hnavbar
    have hwithout : s.navbar = n.withoutSearch := hnavbar
    have hitems : LeavesOut NavItem.isSearch n.items s.navbar.items := by
      rw [hwithout]
      exact n.leavesOut_withoutSearch
    refine ⟨?_, ⟨n, hn, ?_, hitems⟩, ?_⟩
    · have hnone : s.plugins = others := by simpa using hplugins
      rw [hnone]
      exact hothers
    · rw [hwithout]
      rfl
    · intro viewed year snippets lib page hpage item hitem hkind
      obtain ⟨i, hi, rfl⟩ := Site.exists_item_of_mem_bar hpage hitem
      have hout : i.isSearch = false := hitems.out i hi
      exact absurd (hout.symm.trans (Site.isSearch_of_kind_barItem hkind)) (by simp)

/-- The small configuration, with its plugin for search among the others, twice. -/
def searchedTwice : Config :=
  { minimal with
    plugins := ["docusaurus-lunr-search", "ideal-image", "docusaurus-lunr-search", "ideal-image"] }

/-- By itself the record has search, and its profile for production turns it off. -/
theorem searched_twice_and_not_in_production :
    ∃ s t snippets page, searchedTwice.resolve none = .ok s ∧
      searchedTwice.searches none = true ∧
      s.plugins = ["ideal-image", "ideal-image", "docusaurus-lunr-search"] ∧
      searchedTwice.navbar = some s.navbar ∧
      searchedTwice.resolve (some "production") = .ok t ∧
      searchedTwice.searches (some "production") = false ∧
      t.plugins = ["ideal-image", "ideal-image"] ∧
      t.homePage t.versions.canonical 2026 snippets .empty = .ok page ∧
      ∀ item ∈ page.bar.left ++ page.bar.right, item.kind ≠ .search := by
  obtain ⟨s, hs, hsplugins⟩ : ∃ s, searchedTwice.resolve none = .ok s ∧
      s.plugins = ["ideal-image", "ideal-image", "docusaurus-lunr-search"] := ⟨_, rfl, by decide⟩
  have hrun : (searchedTwice.resolve (some "production")).toOption.any (fun t ↦
      (InstallSnippets.ofTemplates t.snippets).toOption.any fun snippets ↦
      (t.homePage t.versions.canonical 2026 snippets .empty).toOption.any fun _ ↦
        t.plugins = ["ideal-image", "ideal-image"]) = true := by
    decide +kernel
  simp only [Steps.any_toOption_iff, decide_eq_true_iff] at hrun
  obtain ⟨t, ht, snippets, -, page, hpage, htplugins⟩ := hrun
  have hon : searchedTwice.searches none = true := by decide
  have hoff : searchedTwice.searches (some "production") = false := by decide
  obtain ⟨-, hnavbar⟩ := (search_is_all_or_nothing hs).1 hon
  obtain ⟨-, -, hboxes⟩ := (search_is_all_or_nothing ht).2 hoff
  exact ⟨s, t, snippets, page, hs, hon, hsplugins, hnavbar, ht, hoff, htplugins, hpage,
    hboxes _ _ _ _ _ hpage⟩

end Config

end VersionedSite
