import VersionedSite.Proofs.Site.Layering

/-!
# Profiles with a version of their own

A profile may put a version of its own in the place of the canonical one. The paths of requests are
read as before, because neither the prefix nor the route of a site is up to a profile. So two
catalogs are compared that have all but their first version in common, on one segment: what a later
version answers stays, and all else falls to the new first version, which is matched by its own
segment and stands in for every other.

Both catalogs have distinct paths, and both times that is used. In the old one, it keeps the segment
of the canonical version from naming a later one; in the new one, it keeps the segment of the
profile's version from having named a later one before.
-/

namespace VersionedSite

/-! ## Catalogs with the same later versions -/

namespace Versions

variable {vs ws : Versions} {v : Version} {segment : Option String}

theorem toList_eq_cons (vs : Versions) : vs.toList = vs.canonical :: vs.toList.tail :=
  (List.cons_head_tail vs.nonempty).symm

/-- The later versions are those that are not the canonical one. -/
theorem mem_tail_iff : v ∈ vs.toList.tail ↔ v ∈ vs.toList ∧ v ≠ vs.canonical := by
  have hnodup := vs.nodup_toList
  have hmem : v ∈ vs.toList ↔ v = vs.canonical ∨ v ∈ vs.toList.tail := by
    rw [← List.mem_cons, ← vs.toList_eq_cons]
  rw [vs.toList_eq_cons] at hnodup
  rw [hmem]
  constructor
  · intro h
    refine ⟨.inr h, ?_⟩
    rintro rfl
    exact (List.nodup_cons.mp hnodup).1 h
  · rintro ⟨rfl | h, hne⟩
    · exact absurd rfl hne
    · exact h

/-- What a later version answers it answers in every catalog with the same later versions. -/
theorem select_eq_matched_of_tail (htail : ws.toList.tail = vs.toList.tail)
    (hne : v ≠ vs.canonical) (h : vs.select segment = ⟨v, .matched⟩) :
    ws.select segment = ⟨v, .matched⟩ := by
  obtain ⟨hmem, hsegment⟩ := select_eq_matched_iff.mp h
  have hlater : v ∈ ws.toList.tail := by
    rw [htail]
    exact mem_tail_iff.mpr ⟨hmem, hne⟩
  exact select_eq_matched_iff.mpr ⟨(mem_tail_iff.mp hlater).1, hsegment⟩

/-- What no later version answers falls to the canonical version of the catalog. -/
theorem select_eq_canonical_of_tail (htail : ws.toList.tail = vs.toList.tail)
    (h : ∀ v, v ≠ vs.canonical → vs.select segment ≠ ⟨v, .matched⟩) :
    ws.select segment =
      ⟨ws.canonical, if segment = some ws.canonical.path.text then .matched else .fallback⟩ := by
  by_cases hsegment : segment = some ws.canonical.path.text
  · rw [if_pos hsegment, hsegment]
    exact select_of_mem (List.head_mem ws.nonempty)
  · rw [if_neg hsegment]
    refine select_eq_fallback_iff.mpr fun v hv hpath ↦ ?_
    have hne : v ≠ ws.canonical := by
      rintro rfl
      exact hsegment hpath
    -- the version is a later one in both catalogs, so it answered before
    have hlater : v ∈ vs.toList.tail := by
      rw [← htail]
      exact mem_tail_iff.mpr ⟨hv, hne⟩
    obtain ⟨hmem, hne'⟩ := mem_tail_iff.mp hlater
    exact h v hne' (select_eq_matched_iff.mpr ⟨hmem, hpath⟩)

end Versions

/-! ## The site of a profile -/

variable {c : Config} {p : Profile} {w : Version} {s t : Site}

/-- How a request is read is up to the prefix and the route. -/
theorem Site.versionSegment?_congr (hbase : t.baseUrl = s.baseUrl)
    (hroute : t.routeBasePath = s.routeBasePath) (request : String) :
    t.versionSegment? request = s.versionSegment? request := by
  have hdocs : t.docsSegment? = s.docsSegment? := by
    funext path
    rw [docsSegment?, docsSegment?, hroute]
  rw [versionSegment?, versionSegment?, hdocs, hbase]

/-- The version of a profile is the first of what is left, whatever was there. -/
theorem Profile.head?_versions_apply (hw : p.currentVersion = some w) (c : Config) :
    (p.apply c).docs.versions.head? = some w := by
  rw [apply, hw]
  cases hversions : c.docs.versions with
  | nil => rfl
  | cons v vs => rfl

theorem Config.Describes.canonical_eq {profile : Option String}
    (hw : p.currentVersion = some w) (ht : (p.apply c).Describes profile t) :
    t.versions.canonical = w := by
  have hhead : t.versions.toList.head? = some w := by
    rw [ht.versions]
    exact p.head?_versions_apply hw c
  rw [t.versions.toList_eq_cons, List.head?_cons] at hhead
  exact Option.some.inj hhead

/-- **A profile's own version changes only what the canonical version answers.** The sites with and
without the profile read the same segment from a request. Where a later version answers it, it does
so on both; everywhere else the version of the profile answers, by its own segment or as a stand-in.
So a request for the version that it replaces is left with the stand-in, unless it has its path. -/
theorem Config.current_version_answers_for_canonical {name : String}
    (hp : c.profiles.get? name = some p) (hw : p.currentVersion = some w)
    (hs : c.resolve none = .ok s) (ht : c.resolve (some name) = .ok t) (request : String) :
    t.versionSegment? request = s.versionSegment? request ∧
      (∀ v, v ≠ s.versions.canonical → s.activeVersion request = ⟨v, .matched⟩ →
        t.activeVersion request = ⟨v, .matched⟩) ∧
      ((∀ v, v ≠ s.versions.canonical → s.activeVersion request ≠ ⟨v, .matched⟩) →
        t.activeVersion request = ⟨w,
          if s.versionSegment? request = some w.path.text then .matched else .fallback⟩) ∧
      (s.activeVersion request = ⟨s.versions.canonical, .matched⟩ →
        w.path ≠ s.versions.canonical.path → t.activeVersion request = ⟨w, .fallback⟩) := by
  obtain ⟨l, hL, hbase, -⟩ := exists_describes_of_resolve hs
  obtain ⟨l', hL', hnamed, -⟩ := exists_describes_of_resolve ht
  obtain rfl := hL.unique .base
  obtain rfl := hL'.unique (.named (NameMap.get?_eq_some_iff.mp hp))
  have hagrees := hbase.agrees hnamed
  have hcanonical : t.versions.canonical = w := hnamed.canonical_eq hw
  have hsegment : t.versionSegment? request = s.versionSegment? request :=
    Site.versionSegment?_congr (congrArg Site.baseUrl hagrees.fields)
      (congrArg Site.routeBasePath hagrees.fields) request
  have hactive : t.activeVersion request = t.versions.select (s.versionSegment? request) := by
    rw [Site.activeVersion, hsegment]
  have hother (h : ∀ v, v ≠ s.versions.canonical → s.activeVersion request ≠ ⟨v, .matched⟩) :
      t.activeVersion request = ⟨w,
        if s.versionSegment? request = some w.path.text then .matched else .fallback⟩ := by
    rw [hactive, ← hcanonical]
    exact Versions.select_eq_canonical_of_tail hagrees.laterVersions h
  refine ⟨hsegment, fun v hne h ↦ ?_, hother, fun h hpath ↦ ?_⟩
  · rw [hactive]
    exact Versions.select_eq_matched_of_tail hagrees.laterVersions hne h
  · -- the canonical version answered, so no other did, and its segment is not that of the profile
    obtain ⟨-, hread⟩ := Versions.select_eq_matched_iff.mp h
    have hne : s.versionSegment? request ≠ some w.path.text := by
      rw [hread]
      exact fun he ↦ hpath (VersionPath.text_injective (Option.some.inj he)).symm
    have hlater (v : Version) (hv : v ≠ s.versions.canonical) :
        s.activeVersion request ≠ ⟨v, .matched⟩ := by
      rw [h]
      exact fun he ↦ hv (congrArg ActiveVersion.version he).symm
    rw [hother hlater, if_neg hne]

/-- The profile puts `stable` in the place of `head`: the other version goes on answering, the new
one answers by its own path, and a request for `head` is left with it as a stand-in. -/
theorem Config.minimal_stable_in_place_of_head :
    let docs : Version := ⟨"Docs", ⟨"docs", by decide⟩⟩
    let stable : Version := ⟨"Stable", ⟨"stable", by decide⟩⟩
    ∃ s t, minimal.resolve none = .ok s ∧ minimal.resolve (some "production") = .ok t ∧
      docs ≠ s.versions.canonical ∧
      s.activeVersion "/docs/docs/docs" = ⟨docs, .matched⟩ ∧
      t.activeVersion "/docs/docs/docs" = ⟨docs, .matched⟩ ∧
      s.activeVersion "/docs/stable" = ⟨s.versions.canonical, .fallback⟩ ∧
      t.activeVersion "/docs/stable" = ⟨stable, .matched⟩ ∧
      s.activeVersion "/docs/head" = ⟨s.versions.canonical, .matched⟩ ∧
      stable.path ≠ s.versions.canonical.path ∧
      t.activeVersion "/docs/head" = ⟨stable, .fallback⟩ := by
  intro docs stable
  have hrun : (minimal.resolve none).toOption.any (fun s ↦
      docs ≠ s.versions.canonical && stable.path ≠ s.versions.canonical.path &&
        s.activeVersion "/docs/docs/docs" = ⟨docs, .matched⟩ &&
        s.activeVersion "/docs/stable" = ⟨s.versions.canonical, .fallback⟩ &&
        s.versionSegment? "/docs/stable" = some "stable" &&
        s.activeVersion "/docs/head" = ⟨s.versions.canonical, .matched⟩) = true := by
    decide +kernel
  simp only [Steps.any_toOption_iff, Bool.and_eq_true, decide_eq_true_iff] at hrun
  obtain ⟨s, hs, ⟨⟨⟨⟨hdocs, hpath⟩, hlater⟩, hnone⟩, hsegment⟩, hhead⟩ := hrun
  obtain ⟨t, ht⟩ : ∃ t, minimal.resolve (some "production") = .ok t := ⟨_, rfl⟩
  have hanswers (request : String) :=
    current_version_answers_for_canonical (w := stable) rfl rfl hs ht request
  have hstable : t.activeVersion "/docs/stable" = ⟨stable, .matched⟩ := by
    have hother (v : Version) (_ : v ≠ s.versions.canonical) :
        s.activeVersion "/docs/stable" ≠ ⟨v, .matched⟩ := by
      rw [hnone]
      exact fun he ↦ absurd (congrArg ActiveVersion.resolution he) (by simp)
    rw [(hanswers "/docs/stable").2.2.1 hother, if_pos hsegment]
  exact ⟨s, t, hs, ht, hdocs, hlater, (hanswers "/docs/docs/docs").2.1 docs hdocs hlater,
    hnone, hstable, hhead, hpath, (hanswers "/docs/head").2.2.2 hhead hpath⟩

end VersionedSite
