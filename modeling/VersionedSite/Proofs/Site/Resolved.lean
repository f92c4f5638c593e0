import VersionedSite.Proofs.Steps
import VersionedSite.Proofs.Site.Versions

/-!
# What a resolved site says

The seam between resolving a configuration and everything that is proved about the sites that come
out of it. `Config.Layered` is the record that a site is made from, and `Config.Describes` relates
that record to the site field by field; nothing after this module opens the resolution again.
-/

namespace VersionedSite

namespace Config

variable {c l : Config} {profile : Option String} {s : Site}

/-! ## Layering -/

/-- The record that a deployment is made from: the base record, or the base record with the named
profile applied. -/
inductive Layered (c : Config) : Option String → Config → Prop where
  | base : Layered c none c
  | named {name : String} {p : Profile} (h : (name, p) ∈ c.profiles.entries) :
      Layered c (some name) (p.apply c)

theorem layered_eq_ok_iff : c.layered profile = .ok l ↔ c.Layered profile l := by
  constructor
  · intro h
    cases profile with
    | none =>
      rw [layered, Except.ok.injEq] at h
      exact h ▸ .base
    | some name =>
      rw [layered] at h
      split at h
      · next p hp =>
        rw [Except.ok.injEq] at h
        exact h ▸ .named (NameMap.get?_eq_some_iff.mp hp)
      · exact absurd h (by simp)
  · rintro (_ | hp)
    · rfl
    · rw [layered, NameMap.get?_eq_some_iff.mpr hp]

theorem layered_eq_error_iff {f : SiteFault} :
    c.layered profile = .error f ↔ ∃ name, profile = some name ∧ name ∉ c.profileNames ∧
      f = .unknownProfile name c.profileNames := by
  cases profile with
  | none => simp [layered]
  | some name =>
    rw [layered]
    split
    · next p hp =>
      have hmem : name ∈ c.profileNames :=
        NameMap.mem_keys_iff.mpr ⟨p, NameMap.get?_eq_some_iff.mp hp⟩
      simp [hmem]
    · next hn =>
      have hmem : name ∉ c.profileNames := NameMap.get?_eq_none_iff.mp hn
      simp [hmem, eq_comm]

/-- A named profile leaves one record, and no profile the base record. -/
theorem Layered.unique {l' : Config} (h : c.Layered profile l) (h' : c.Layered profile l') :
    l = l' := by
  rw [← layered_eq_ok_iff] at h h'
  exact Except.ok.inj (h.symm.trans h')

theorem exists_layered_iff :
    (∃ l, c.Layered profile l) ↔ ∀ name, profile = some name → name ∈ c.profileNames := by
  constructor
  · rintro ⟨l, _ | hp⟩ name he
    · exact absurd he (by simp)
    · exact NameMap.mem_keys_iff.mpr ⟨_, Option.some.inj he ▸ hp⟩
  · intro h
    cases profile with
    | none => exact ⟨c, .base⟩
    | some name =>
      obtain ⟨p, hp⟩ := NameMap.mem_keys_iff.mp (h name rfl)
      exact ⟨p.apply c, .named hp⟩

theorem resolve_eq_ok_iff :
    c.resolve profile = .ok s ↔ ∃ l, c.Layered profile l ∧ l.toSite profile = .ok s := by
  rw [resolve]
  cases hl : c.layered profile with
  | error f =>
    refine ⟨fun h ↦ absurd h (by simp), fun ⟨l, h, _⟩ ↦ ?_⟩
    exact absurd (hl.symm.trans (layered_eq_ok_iff.mpr h)) (by simp)
  | ok l =>
    have hL := layered_eq_ok_iff.mp hl
    rw [Steps.mapError_eq_ok_iff]
    exact ⟨fun h ↦ ⟨l, hL, h⟩, fun ⟨l', hl', h⟩ ↦ hL.unique hl' ▸ h⟩

theorem resolve_eq_error_iff {e : ResolveFault} :
    c.resolve profile = .error e ↔
      (∃ name, profile = some name ∧ name ∉ c.profileNames ∧
        e = ⟨.unknownProfile name c.profileNames, none⟩) ∨
      ∃ l f, c.Layered profile l ∧ l.toSite profile = .error f ∧ e = ⟨f, profile⟩ := by
  rw [resolve]
  cases hl : c.layered profile with
  | error f =>
    obtain ⟨name, rfl, hn, rfl⟩ := layered_eq_error_iff.mp hl
    constructor
    · intro h
      exact .inl ⟨name, rfl, hn, (Except.error.inj h).symm⟩
    · rintro (⟨name', he, -, rfl⟩ | ⟨l, f, hL, -⟩)
      · rw [Option.some.inj he]
      · exact absurd (hl.symm.trans (layered_eq_ok_iff.mpr hL)) (by simp)
  | ok l =>
    have hL := layered_eq_ok_iff.mp hl
    rw [Steps.mapError_eq_error_iff]
    constructor
    · rintro ⟨f, hf, rfl⟩
      exact .inr ⟨l, f, hL, hf, rfl⟩
    · rintro (⟨name, rfl, hn, -⟩ | ⟨l', f, hL', hf, rfl⟩)
      · exact absurd (exists_layered_iff.mp ⟨l, hL⟩ name rfl) hn
      · exact ⟨f, hL.unique hL' ▸ hf, rfl⟩

/-! ## The site of a record -/

/-- How a site is related to the record that it was made from. -/
structure Describes (l : Config) (profile : Option String) (s : Site) : Prop where
  profile : s.profile = profile
  root : s.root = l.root
  destination : s.destination = Path.join l.root l.destination
  title : l.usableTitle? = some s.title
  tagline : s.tagline = l.tagline.getD ""
  favicon : s.favicon = l.favicon
  url : l.url = some s.url
  baseUrl : l.baseUrl = some s.baseUrl
  organizationName : s.organizationName = l.organizationName
  projectName : s.projectName = l.projectName
  onBrokenLinks : s.onBrokenLinks = l.onBrokenLinks
  locales : s.locales = l.locales
  routeBasePath : s.routeBasePath = l.docs.routeBasePath
  versions : s.versions.toList = l.docs.versions
  theme : s.theme = l.theme
  /-- The bar keeps its search boxes only where search is enabled. -/
  navbar : ∃ n, l.navbar = some n ∧ s.navbar = if l.search.enabled then n else n.withoutSearch
  footer : l.footer = some s.footer
  plugins : s.plugins = l.search.apply l.plugins
  snippets : s.snippets = l.snippets
  home : s.home = l.home

theorem require_eq_ok_iff {α : Type} {field : String} {x : Option α} {a : α} :
    require field x = .ok a ↔ x = some a := by
  cases x with
  | none => simp [require]
  | some b => simp [require]

theorem require_eq_error_iff {α : Type} {field : String} {x : Option α} {f : SiteFault} :
    require field x = .error f ↔ x = none ∧ f = .missing field := by
  cases x with
  | none => simp [require, eq_comm]
  | some b => simp [require]

theorem check_eq_error_iff {ok : Bool} {f f' : SiteFault} :
    check ok f = .error f' ↔ ok = false ∧ f' = f := by
  cases ok with
  | false => simp [check, eq_comm]
  | true => simp [check]

theorem checkLinks_eq_error_iff {bad : Option BadLink} {f : SiteFault} :
    checkLinks bad = .error f ↔ ∃ l, bad = some l ∧ f = .badLink l := by
  cases bad with
  | none => simp [checkLinks]
  | some l => simp [checkLinks, eq_comm]

theorem describes_of_toSite (h : l.toSite profile = .ok s) : l.Describes profile s := by
  rw [toSite] at h
  obtain ⟨title, htitle, h⟩ := Steps.bind_eq_ok_iff.mp h
  obtain ⟨url, hurl, h⟩ := Steps.bind_eq_ok_iff.mp h
  obtain ⟨baseUrl, hbase, h⟩ := Steps.bind_eq_ok_iff.mp h
  obtain ⟨navbar, hnavbar, h⟩ := Steps.bind_eq_ok_iff.mp h
  obtain ⟨footer, hfooter, h⟩ := Steps.bind_eq_ok_iff.mp h
  obtain ⟨-, -, h⟩ := Steps.bind_eq_ok_iff.mp h
  obtain ⟨-, -, h⟩ := Steps.bind_eq_ok_iff.mp h
  obtain ⟨-, -, h⟩ := Steps.bind_eq_ok_iff.mp h
  obtain ⟨-, -, h⟩ := Steps.bind_eq_ok_iff.mp h
  obtain ⟨versions, hversions, h⟩ := Steps.bind_eq_ok_iff.mp h
  rw [Steps.mapError_eq_ok_iff, Versions.ofList_eq_ok_iff] at hversions
  obtain rfl := Except.ok.inj h
  exact {
    profile := rfl
    root := rfl
    destination := rfl
    title := require_eq_ok_iff.mp htitle
    tagline := rfl
    favicon := rfl
    url := require_eq_ok_iff.mp hurl
    baseUrl := require_eq_ok_iff.mp hbase
    organizationName := rfl
    projectName := rfl
    onBrokenLinks := rfl
    locales := rfl
    routeBasePath := rfl
    versions := hversions
    theme := rfl
    navbar := ⟨navbar, require_eq_ok_iff.mp hnavbar, rfl⟩
    footer := require_eq_ok_iff.mp hfooter
    plugins := rfl
    snippets := rfl
    home := rfl }

/-! ## A small configuration -/

/-- Hardly more than what every site needs, on purpose with one name for the prefix, the route and
a version. One profile repeats a path, the other sets all that a profile can set. -/
def minimal : Config :=
  { Config.default with
    title := some "Example"
    url := some ⟨"https://example.org", by decide⟩
    baseUrl := some ⟨"/docs/", by decide⟩
    docs := ⟨"docs", [⟨"HEAD", ⟨"head", by decide⟩⟩, ⟨"Docs", ⟨"docs", by decide⟩⟩]⟩
    navbar := some ⟨none, none, [.versionDropdown .left, .search .right]⟩
    footer := some .default
    plugins := ["ideal-image"]
    profiles := ⟨[
      ("preview", ⟨none, none, some ⟨"Next", ⟨"docs", by decide⟩⟩, none⟩),
      ("production", ⟨some ⟨"https://example.com", by decide⟩, some "example",
        some ⟨"Stable", ⟨"stable", by decide⟩⟩, some false⟩)], by decide⟩ }

end Config

end VersionedSite
