import VersionedSite.Proofs.Page.Composed
import VersionedSite.Proofs.Site.CurrentVersion
import VersionedSite.Site.Manifest

/-!
# The manifest and the menu of versions

A reader changes versions by the menu in the bar, and a switcher outside of the site by the
manifest. The two are made apart from each other. That they list the same versions under the same
addresses, in the order in which they are declared, is the main statement.

Its other parts are about what a switcher relies on. The addresses are distinct, because each of
them is read as a request for its own version, and a request is about one version only. And one
entry is canonical, because entries are told apart by their paths: that labels may repeat makes no
difference.
-/

namespace VersionedSite

namespace Site

variable {s : Site} {v viewed : Version} {year : Int} {snippets : InstallSnippets}
  {lib : Liquid.Library} {page : HomePage} {item : BarItem}

/-! ## Entries -/

/-- An entry of the manifest is about a version: it has its label and its path, and its address is
read as a request for it. -/
structure Lists (s : Site) (v : Version) (e : VersionEntry) : Prop where
  label : e.label = v.label
  path : e.path = v.path.text
  href : e.href = s.versionHref v
  read : s.activeVersion e.href = ⟨v, .matched⟩

theorem forall₂_lists_versionManifest (s : Site) :
    List.Forall₂ s.Lists s.versions.toList s.versionManifest := by
  rw [versionManifest, List.forall₂_map_right_iff, List.forall₂_same]
  intro v hv
  exact ⟨rfl, rfl, rfl, activeVersion_versionHref hv⟩

/-- The first entry is canonical, and no later one is. -/
theorem exists_versionManifest_eq_cons (s : Site) :
    ∃ first later, s.versionManifest = first :: later ∧ first.canonical = true ∧
      ∀ e ∈ later, e.canonical = false := by
  rw [versionManifest, s.versions.toList_eq_cons, List.map_cons]
  refine ⟨_, _, rfl, decide_eq_true rfl, fun e he ↦ ?_⟩
  obtain ⟨v, hv, rfl⟩ := List.mem_map.mp he
  -- the versions are distinct, so the canonical one is not listed once more
  exact decide_eq_false (Versions.mem_tail_iff.mp hv).2

/-- Versions have addresses of their own. -/
theorem nodup_map_versionHref (s : Site) : (s.versions.toList.map s.versionHref).Nodup := by
  refine List.Nodup.map_on (fun v hv w hw h ↦ ?_) s.versions.nodup_toList
  have hread := activeVersion_versionHref hv
  rw [h, activeVersion_versionHref hw] at hread
  exact (congrArg ActiveVersion.version hread).symm

/-! ## Entries and the menu -/

theorem map_versionLinks (s : Site) (viewed : Version) :
    (s.versionLinks viewed).map (fun e ↦ (e.label, e.href)) =
      s.versionManifest.map fun e ↦ (e.label, e.href) := by
  rw [versionLinks, versionManifest, List.map_map, List.map_map]
  rfl

/-- An item that is shown as a menu of versions has the whole menu. -/
theorem versions_barItem {i : NavItem} (h : (s.barItem viewed i).kind = .versionDropdown) :
    (s.barItem viewed i).versions = s.versionLinks viewed := by
  cases i with
  | versionDropdown p => rfl
  | docSidebar id label p => exact absurd h (by simp [barItem])
  | link l => exact absurd h (by simp [barItem])
  | search p => exact absurd h (by simp [barItem])

/-- **The manifest and every menu list the declared versions.** The manifest has an entry for each
version in the order of the record that the site is made from. The first entry is canonical and no
other is; no two addresses are the same. Whichever version a page is about, each menu of versions in
its bar has the labels and addresses of the manifest. -/
theorem manifest_lists_declared_versions {c : Config} {profile : Option String}
    (hs : c.resolve profile = .ok s) :
    (∃ l, c.Layered profile l ∧ List.Forall₂ s.Lists l.docs.versions s.versionManifest) ∧
      (∃ first later, s.versionManifest = first :: later ∧ first.canonical = true ∧
        ∀ e ∈ later, e.canonical = false) ∧
      (s.versionManifest.map (·.href)).Nodup ∧
      ∀ viewed year snippets lib page, s.homePage viewed year snippets lib = .ok page →
        ∀ item ∈ page.bar.left ++ page.bar.right, item.kind = .versionDropdown →
          item.versions.map (fun e ↦ (e.label, e.href)) =
            s.versionManifest.map fun e ↦ (e.label, e.href) := by
  refine ⟨?_, s.exists_versionManifest_eq_cons, ?_, ?_⟩
  · obtain ⟨l, hL, hdescribes, -⟩ := Config.exists_describes_of_resolve hs
    refine ⟨l, hL, ?_⟩
    rw [← hdescribes.versions]
    exact s.forall₂_lists_versionManifest
  · have hhrefs : s.versionManifest.map (·.href) = s.versions.toList.map s.versionHref := by
      rw [versionManifest, List.map_map]
      rfl
    rw [hhrefs]
    exact s.nodup_map_versionHref
  · intro viewed year snippets lib page hpage item hitem hkind
    obtain ⟨i, -, rfl⟩ := exists_item_of_mem_bar hpage hitem
    rw [versions_barItem hkind, map_versionLinks]

end Site

/-- The small configuration with two versions of one label. -/
def Config.twoHeads : Config :=
  { minimal with
    docs := { minimal.docs with
      versions := minimal.docs.versions.map fun v ↦ { v with label := "HEAD" } } }

/-- The label of the canonical version is that of the other one, too. -/
theorem Site.two_heads_listed :
    ∃ s snippets page item, Config.twoHeads.resolve none = .ok s ∧
      s.homePage s.versions.canonical 2026 snippets .empty = .ok page ∧
      item ∈ page.bar.left ++ page.bar.right ∧ item.kind = .versionDropdown ∧
      item.versions.map (fun e ↦ (e.label, e.href)) =
        [("HEAD", "/docs/docs/head/"), ("HEAD", "/docs/docs/docs/")] ∧
      ∃ first later, s.versionManifest = first :: later ∧ first.canonical = true ∧
        ∀ e ∈ later, e.canonical = false := by
  have hrun : (Config.twoHeads.resolve none).toOption.any (fun s ↦
      (InstallSnippets.ofTemplates s.snippets).toOption.any fun snippets ↦
      (s.homePage s.versions.canonical 2026 snippets .empty).toOption.any fun page ↦
        decide (s.versionManifest.map (fun e ↦ (e.label, e.href)) =
            [("HEAD", "/docs/docs/head/"), ("HEAD", "/docs/docs/docs/")]) &&
          (page.bar.left ++ page.bar.right).any fun item ↦
            item.kind = .versionDropdown) = true := by
    decide +kernel
  simp only [Steps.any_toOption_iff, Bool.and_eq_true, List.any_eq_true, decide_eq_true_iff] at hrun
  obtain ⟨s, hs, snippets, -, page, hpage, hentries, item, hitem, hkind⟩ := hrun
  obtain ⟨-, hcanonical, -, hmenus⟩ := manifest_lists_declared_versions hs
  have hmenu := hmenus _ _ _ _ _ hpage item hitem hkind
  exact ⟨s, snippets, page, item, hs, hpage, hitem, hkind, hmenu.trans hentries, hcanonical⟩

end VersionedSite
