import Mathlib.Data.List.Induction
import VersionedSite.Proofs.Site.CurrentVersion

/-!
# Profiles one on top of the other

A site is resolved with one profile at most, but profiles can be applied to a record one after the
other. Then each field goes its own way: the last profile that sets it decides, and a profile that
leaves it alone changes nothing. So any sequence of profiles comes to a single one,
`Profile.topmost`.

What a profile does to a record is stated once more without `Profile.apply`, as what is found in the
fields afterwards. Each determines the other, and it is the fields that compose. The version is the
one field that is not written in place: on a record without versions the first profile that sets it
adds an entry, and the next one replaces that entry. In terms of the first version and of the later
ones, both are the same step.
-/

namespace VersionedSite

variable {c d e : Config} {p q : Profile} {ps : List Profile}

/-! ## One profile, field by field -/

/-- The record with the fields that profiles can set as they are in `c`. -/
def Config.resetTo (d c : Config) : Config :=
  { d with
    url := c.url
    organizationName := c.organizationName
    docs := { d.docs with versions := c.docs.versions }
    search := { d.search with enabled := c.search.enabled } }

/-- What is found in the fields of `d` if it is `c` with a profile: what the profile sets, and what
is in `c` where it sets nothing. -/
structure Profile.Overrides (p : Profile) (c d : Config) : Prop where
  url : d.url = p.url.or c.url
  organizationName : d.organizationName = p.organizationName.or c.organizationName
  firstVersion : d.docs.versions.head? = p.currentVersion.or c.docs.versions.head?
  search : d.search.enabled = p.search.getD c.search.enabled
  laterVersions : d.docs.versions.tail = c.docs.versions.tail
  others : d.resetTo c = c

theorem Profile.head?_versions (p : Profile) (c : Config) :
    (p.apply c).docs.versions.head? = p.currentVersion.or c.docs.versions.head? := by
  cases hw : p.currentVersion with
  | none => rw [apply, hw, Option.none_or]
  | some w => rw [head?_versions_apply hw, Option.some_or]

theorem Profile.overrides_apply (p : Profile) (c : Config) : p.Overrides c (p.apply c) where
  url := rfl
  organizationName := rfl
  firstVersion := p.head?_versions c
  search := rfl
  laterVersions := p.tail_versions_apply c
  others := rfl

/-- A list is its first item and the later ones. -/
theorem eq_of_head?_eq_of_tail_eq {α : Type} {l m : List α} (hhead : l.head? = m.head?)
    (htail : l.tail = m.tail) : l = m := by
  cases l <;> cases m <;> simp_all

/-- The fields leave no choice. -/
theorem Profile.Overrides.unique (hd : p.Overrides c d) (he : p.Overrides c e) : d = e := by
  have hversions : d.docs.versions = e.docs.versions :=
    eq_of_head?_eq_of_tail_eq (hd.firstVersion.trans he.firstVersion.symm)
      (hd.laterVersions.trans he.laterVersions.symm)
  have hurl : d.url = e.url := hd.url.trans he.url.symm
  have horganization : d.organizationName = e.organizationName :=
    hd.organizationName.trans he.organizationName.symm
  have hsearch : d.search.enabled = e.search.enabled := hd.search.trans he.search.symm
  have hothers : d.resetTo c = e.resetTo c := hd.others.trans he.others.symm
  have hset (f : Config) : f.resetTo d = f.resetTo e := by
    rw [Config.resetTo, Config.resetTo, hurl, horganization, hversions, hsearch]
  calc d = (d.resetTo c).resetTo d := rfl
    _ = (e.resetTo c).resetTo e := by rw [hset, hothers]
    _ = e := rfl

theorem Profile.overrides_iff : p.Overrides c d ↔ d = p.apply c :=
  ⟨fun h ↦ h.unique (p.overrides_apply c), fun h ↦ h ▸ p.overrides_apply c⟩

/-! ## Sequences of profiles -/

/-- The fields that `p` sets, and those that `q` sets where `p` does not. -/
def Profile.onTop (p q : Profile) : Profile where
  url := p.url.or q.url
  organizationName := p.organizationName.or q.organizationName
  currentVersion := p.currentVersion.or q.currentVersion
  search := p.search.or q.search

theorem Profile.onTop_self (p : Profile) : p.onTop p = p := by
  simp only [onTop, Option.or_self]

/-- One profile and then another. -/
theorem Profile.Overrides.trans (hq : q.Overrides c d) (hp : p.Overrides d e) :
    (p.onTop q).Overrides c e where
  url := by rw [hp.url, hq.url, onTop, Option.or_assoc]
  organizationName := by rw [hp.organizationName, hq.organizationName, onTop, Option.or_assoc]
  firstVersion := by rw [hp.firstVersion, hq.firstVersion, onTop, Option.or_assoc]
  search := by rw [hp.search, hq.search, onTop, Option.getD_or]
  laterVersions := hp.laterVersions.trans hq.laterVersions
  others :=
    calc e.resetTo c = (e.resetTo d).resetTo c := rfl
      _ = d.resetTo c := by rw [hp.others]
      _ = c := hq.others

/-- The last value that profiles of a sequence set a field to. -/
def Profile.lastSet? {α : Type} (field : Profile → Option α) (ps : List Profile) : Option α :=
  (ps.filterMap field).getLast?

/-- The profile whose every field is the last one that is set in the sequence. -/
def Profile.topmost (ps : List Profile) : Profile where
  url := lastSet? Profile.url ps
  organizationName := lastSet? Profile.organizationName ps
  currentVersion := lastSet? Profile.currentVersion ps
  search := lastSet? Profile.search ps

/-- The record with the profiles of a sequence, the first of them first. -/
def Config.withProfiles (c : Config) (ps : List Profile) : Config :=
  ps.foldl (fun c p ↦ p.apply c) c

theorem Profile.lastSet?_append_singleton {α : Type} (field : Profile → Option α)
    (ps : List Profile) (p : Profile) :
    lastSet? field (ps ++ [p]) = (field p).or (lastSet? field ps) := by
  rw [lastSet?, lastSet?, List.filterMap_append, List.getLast?_append]
  cases hp : field p with
  | none => rw [List.filterMap_cons_none hp]; rfl
  | some a => rw [List.filterMap_cons_some hp]; rfl

theorem Profile.topmost_append_singleton (ps : List Profile) (p : Profile) :
    topmost (ps ++ [p]) = p.onTop (topmost ps) := by
  simp only [topmost, onTop, lastSet?_append_singleton]

theorem Profile.overrides_withProfiles (c : Config) (ps : List Profile) :
    (topmost ps).Overrides c (c.withProfiles ps) := by
  -- from the right, because the profile that is applied last stands on top of all others
  induction ps using List.reverseRecOn with
  | nil => exact overrides_apply .empty c
  | append_singleton ps p ih =>
    rw [Config.withProfiles, List.foldl_append, topmost_append_singleton]
    exact ih.trans (p.overrides_apply _)

/-- **A sequence of profiles is one profile.** It comes to the profile whose every field is the last
one that is set in the sequence, on every record, with versions or without. A record with that
profile is what its fields say: the last value that is set, or else the one of the record, in the
address, the organization, the first version and the switch of the search; and all else, the later
versions among it, as it was. So a profile that is applied twice does no more than once, and one
that sets nothing changes nothing. -/
theorem Config.profiles_come_to_one (c : Config) (ps : List Profile) :
    c.withProfiles ps = (Profile.topmost ps).apply c ∧
      (∀ d, d = c.withProfiles ps ↔ (Profile.topmost ps).Overrides c d) ∧
      (∀ p : Profile, p.apply (p.apply c) = p.apply c) ∧
      Profile.empty.apply c = c := by
  have happly : c.withProfiles ps = (Profile.topmost ps).apply c :=
    Profile.overrides_iff.mp (Profile.overrides_withProfiles c ps)
  refine ⟨happly, fun d ↦ ?_, fun p ↦ ?_, rfl⟩
  · rw [happly, Profile.overrides_iff]
  · have htwice := (p.overrides_apply c).trans (p.overrides_apply (p.apply c))
    rw [p.onTop_self] at htwice
    exact Profile.overrides_iff.mp htwice

/-- On the configuration of an empty file: the first of three profiles adds a version, the second
replaces it, and the last leaves it alone. -/
example :
    let next : Version := ⟨"Next", ⟨"next", by decide⟩⟩
    let stable : Version := ⟨"Stable", ⟨"stable", by decide⟩⟩
    let ps : List Profile := [⟨none, some "first", some next, none⟩,
      ⟨none, none, some stable, some false⟩, ⟨none, some "last", none, none⟩]
    (Config.default.withProfiles ps).docs.versions = [stable] ∧
      (Config.default.withProfiles ps).organizationName = some "last" ∧
      (Config.default.withProfiles ps).search.enabled = false := by
  decide

end VersionedSite
