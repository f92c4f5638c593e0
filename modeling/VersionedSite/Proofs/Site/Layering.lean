import VersionedSite.Proofs.Site.Rules

/-!
# What profiles can change

A profile is applied to the base record and to nothing else, so a deployment is made from the base
record and its own profile alone. Stated with two runs: configurations that have the base record
and the profile in common give the same answer for that profile, a site or a fault, whatever other
profiles they have. And the site of a profile differs from that of the base record only in what a
profile can set.
-/

namespace VersionedSite

variable {c : Config} {p : Profile} {s t : Site}

/-! ## The record of a deployment -/

/-- The other profiles stay with the record, where nothing reads them. -/
theorem Config.toSite_profiles (c : Config) (m : NameMap Profile) (profile : Option String) :
    ({ c with profiles := m } : Config).toSite profile = c.toSite profile := rfl

theorem Profile.apply_profiles (p : Profile) (c : Config) (m : NameMap Profile) :
    p.apply { c with profiles := m } = { p.apply c with profiles := m } := rfl

/-- A named deployment is made from the base record and one profile. -/
theorem Config.resolve_eq_of_get? {name : String} (h : c.profiles.get? name = some p) :
    c.resolve (some name) =
      ((p.apply c).toSite (some name)).mapError fun f ↦ ⟨f, some name⟩ := by
  rw [resolve, layered, h]

/-! ## What is left of a record -/

/-- A profile stands in for the first version and keeps the others. -/
theorem tail_replaceFirst (v : Version) (vs : List Version) :
    (replaceFirst v vs).tail = vs.tail := by
  cases vs with
  | nil => rfl
  | cons u vs => rfl

theorem Profile.tail_versions_apply (p : Profile) (c : Config) :
    (p.apply c).docs.versions.tail = c.docs.versions.tail := by
  rw [apply]
  cases p.currentVersion with
  | none => rfl
  | some v => exact tail_replaceFirst v c.docs.versions

/-- Search boxes are dropped once. -/
theorem Navbar.withoutSearch_withoutSearch (n : Navbar) :
    n.withoutSearch.withoutSearch = n.withoutSearch := by
  rw [withoutSearch, withoutSearch, List.filter_filter]
  simp

theorem Navbar.withoutSearch_ite (n : Navbar) (b : Bool) :
    (if b then n else n.withoutSearch).withoutSearch = n.withoutSearch := by
  cases b with
  | false => exact n.withoutSearch_withoutSearch
  | true => rfl

/-- Whether search is enabled shows in nothing but the plugin for it. -/
theorem Search.filter_apply (sr : Search) (plugins : List String) :
    (sr.apply plugins).filter (· ≠ sr.plugin) = plugins.filter (· ≠ sr.plugin) := by
  rw [apply, List.filter_append, List.filter_filter]
  cases sr.enabled <;> simp

/-! ## Two sites of one configuration -/

/-- What two sites of one configuration have in common, where `plugin` does the search: everything
but the profile, the address, the organization, the first version, the plugin and the search
boxes. -/
structure Site.AgreesApartFromProfile (plugin : String) (s t : Site) : Prop where
  fields : { t with
    profile := s.profile
    url := s.url
    organizationName := s.organizationName
    versions := s.versions
    plugins := s.plugins
    navbar := s.navbar } = s
  laterVersions : t.versions.toList.tail = s.versions.toList.tail
  navbar : t.navbar.withoutSearch = s.navbar.withoutSearch
  plugins : t.plugins.filter (· ≠ plugin) = s.plugins.filter (· ≠ plugin)

theorem Config.Describes.agrees {profile profile' : Option String} (hs : c.Describes profile s)
    (ht : (p.apply c).Describes profile' t) :
    s.AgreesApartFromProfile c.search.plugin t := by
  have htitle : t.title = s.title := Option.some.inj (ht.title.symm.trans hs.title)
  have hbase : t.baseUrl = s.baseUrl := Option.some.inj (ht.baseUrl.symm.trans hs.baseUrl)
  have hfooter : t.footer = s.footer := Option.some.inj (ht.footer.symm.trans hs.footer)
  refine ⟨?_, ?_, ?_, ?_⟩
  · cases s
    cases t
    simp only [Site.mk.injEq, true_and]
    exact ⟨ht.root.trans hs.root.symm, ht.destination.trans hs.destination.symm, htitle,
      ht.tagline.trans hs.tagline.symm, ht.favicon.trans hs.favicon.symm, hbase,
      ht.projectName.trans hs.projectName.symm, ht.onBrokenLinks.trans hs.onBrokenLinks.symm,
      ht.locales.trans hs.locales.symm, ht.routeBasePath.trans hs.routeBasePath.symm,
      ht.theme.trans hs.theme.symm, hfooter, ht.snippets.trans hs.snippets.symm,
      ht.home.trans hs.home.symm⟩
  · rw [ht.versions, hs.versions, p.tail_versions_apply c]
  · obtain ⟨n, hn, hnavbar⟩ := hs.navbar
    obtain ⟨n', hn', hnavbar'⟩ := ht.navbar
    obtain rfl : n = n' := Option.some.inj (hn.symm.trans hn')
    rw [hnavbar, hnavbar', Navbar.withoutSearch_ite, Navbar.withoutSearch_ite]
  · rw [hs.plugins, ht.plugins, Search.filter_apply c.search c.plugins]
    exact Search.filter_apply (p.apply c).search c.plugins

/-- **Profiles do not leak.** What is resolved under a name depends on the base record and the
profile of that name alone; and the site of a profile agrees with the site of the base record
apart from what a profile can set. -/
theorem Config.profiles_do_not_leak (c : Config) (name : String) :
    (∀ (p : Profile) (c' : Config), c.profiles.get? name = some p →
        c'.profiles.get? name = some p → c = { c' with profiles := c.profiles } →
        c.resolve (some name) = c'.resolve (some name)) ∧
      ∀ s t, c.resolve none = .ok s → c.resolve (some name) = .ok t →
        s.AgreesApartFromProfile c.search.plugin t := by
  constructor
  · intro p c' hp hp' hc
    -- after this step both sides are the same run, on records with different other profiles
    rw [resolve_eq_of_get? hp, resolve_eq_of_get? hp', hc, Profile.apply_profiles, toSite_profiles]
  · intro s t hs ht
    obtain ⟨l, hL, hbase, -⟩ := exists_describes_of_resolve hs
    obtain ⟨l', hL', hnamed, -⟩ := exists_describes_of_resolve ht
    obtain rfl := hL.unique .base
    cases hL' with
    | named _ => exact hbase.agrees hnamed

/-- The profile that sets everything, with and without another profile beside it. -/
theorem Config.minimal_production_alone :
    let alone : Config := { minimal with profiles := minimal.profiles.erase "preview" }
    minimal.resolve (some "production") = alone.resolve (some "production") ∧
      ∃ s t, minimal.resolve none = .ok s ∧ minimal.resolve (some "production") = .ok t ∧
        s.AgreesApartFromProfile minimal.search.plugin t :=
  ⟨(profiles_do_not_leak minimal "production").1 _ _ rfl rfl rfl,
    _, _, rfl, rfl, (profiles_do_not_leak minimal "production").2 _ _ rfl rfl⟩

end VersionedSite
