import VersionedSite.Proofs.Site.Segments
import VersionedSite.Proofs.Site.Versions
import VersionedSite.Site.Install

/-!
# Addresses of manifests

The address of the manifest that installs a version is five texts written one after the other. That
it is well formed, and that the texts can be read back from it, takes all three checks. No host has
a slash, so scheme and host end at the first one behind the scheme. No path of a version has a
slash, so it stands between the last two. What is left between them is the prefix and `releases/`.
It makes no difference that a prefix may have segments of that name, or one named like the manifest.
-/

namespace VersionedSite

variable {u u' : SiteUrl} {b b' : BaseUrl} {v v' : VersionPath}

/-! ## Scheme and host -/

namespace SiteUrl

theorem text_injective (h : u.text = u'.text) : u = u' := by
  cases u
  cases u'
  simpa using h

/-- What stands in scheme and host may stand in a path as well. -/
theorem allows_of_mem (u : SiteUrl) {c : Char} (h : c ∈ u.text.toList) : BaseUrl.Allows c := by
  have hblank := u.notBlank_of_mem h
  obtain ⟨scheme, hscheme, host, -, htext, hhost⟩ := u.exists_host
  rw [htext, List.mem_append] at h
  rcases h with h | h
  · have hschemes : ∀ scheme ∈ ["https://", "http://"],
        (scheme.toList.all fun c ↦ decide (BaseUrl.Allows c)) = true := by
      decide
    exact BaseUrl.allows_of_all (hschemes scheme hscheme) c h
  · have hends := hhost c h
    simp only [endsHost, Bool.or_eq_false_iff, beq_eq_false_iff_ne] at hends
    exact ⟨hblank, hends.1.1.2, hends.1.2⟩

/-- Scheme and host are read back from what starts with them and goes on with a slash. -/
theorem eq_and_eq_of_append_slash {r t : List Char}
    (h : u.text.toList ++ '/' :: r = u'.text.toList ++ '/' :: t) : u = u' ∧ r = t := by
  obtain ⟨scheme, hscheme, host, -, htext, hhost⟩ := u.exists_host
  obtain ⟨scheme', hscheme', host', -, htext', hhost'⟩ := u'.exists_host
  have hslash {host : List Char} (h : ∀ c ∈ host, endsHost c = false) : '/' ∉ host :=
    fun hc ↦ absurd (h '/' hc) (by decide)
  rw [htext, htext'] at h
  -- the two schemes differ before either of them has ended
  have hsame : scheme = scheme' := by
    simp only [List.mem_cons, List.not_mem_nil, or_false] at hscheme hscheme'
    rcases hscheme with rfl | rfl <;> rcases hscheme' with rfl | rfl
    · rfl
    · simp at h
    · simp at h
    · rfl
  subst hsame
  rw [List.append_assoc, List.append_assoc, List.append_cancel_left_eq] at h
  obtain ⟨rfl, hrest⟩ := Text.eq_and_eq_of_cut_first (hslash hhost) (hslash hhost') h
  exact ⟨text_injective (String.toList_inj.mp (htext.trans htext'.symm)), hrest⟩

end SiteUrl

/-! ## The path of a manifest -/

theorem VersionPath.isPathSegment (v : VersionPath) : IsPathSegment v.text.toList :=
  ⟨v.text_ne_nil, fun h ↦ (v.allows_of_mem h).ne_slash rfl⟩

/-- What follows scheme and host in the address of a manifest. -/
def manifestPath (b : BaseUrl) (v : VersionPath) : List Char :=
  b.text.toList ++ "releases".toList ++ '/' :: (v.text.toList ++ '/' :: "install.yaml".toList)

theorem toList_installManifestUrl (u : SiteUrl) (b : BaseUrl) (v : VersionPath) :
    (installManifestUrl u b v).toList = u.text.toList ++ manifestPath b v := by
  simp [installManifestUrl, manifestPath, String.toList_append]

theorem allows_of_mem_manifestPath {c : Char} (h : c ∈ manifestPath b v) : BaseUrl.Allows c := by
  have hslash : BaseUrl.Allows '/' := by decide
  have hwords : ∀ word ∈ ["releases", "install.yaml"],
      (word.toList.all fun c ↦ decide (BaseUrl.Allows c)) = true := by
    decide
  simp only [manifestPath, List.mem_append, List.mem_cons] at h
  rcases h with (h | h) | rfl | h | rfl | h
  · exact b.allows_of_mem h
  · exact BaseUrl.allows_of_all (hwords "releases" (by simp)) c h
  · exact hslash
  · have hc := v.allows_of_mem h
    exact ⟨hc.notBlank, hc.ne_query, hc.ne_fragment⟩
  · exact hslash
  · exact BaseUrl.allows_of_all (hwords "install.yaml" (by simp)) c h

/-- The path has the segments of the prefix and three more, the middle one being the version's. -/
theorem isPathOf_manifestPath {segments : List (List Char)}
    (hsegments : ∀ segment ∈ segments, IsPathSegment segment)
    (hb : b.text.toList = '/' :: slashed segments) (v : VersionPath) :
    IsPathOf (segments ++ ["releases".toList, v.text.toList, "install.yaml".toList])
      (manifestPath b v) := by
  refine ⟨by simp, ?_, ?_⟩
  · intro segment h
    simp only [List.mem_append, List.mem_cons, List.not_mem_nil, or_false] at h
    rcases h with h | rfl | rfl | rfl
    · exact hsegments segment h
    · exact ⟨by decide, by decide⟩
    · exact v.isPathSegment
    · exact ⟨by decide, by decide⟩
  · rw [manifestPath, hb, List.cons_append, List.cons_append, List.append_assoc,
      ← List.append_assoc, ← List.cons_append, cons_slashed_append]
    simp

/-- The prefix and the version are read back from the path. -/
theorem manifestPath_inj (h : manifestPath b v = manifestPath b' v') : b = b' ∧ v = v' := by
  have hcut (b : BaseUrl) (v : VersionPath) : manifestPath b v =
      (b.text.toList ++ "releases".toList ++ '/' :: v.text.toList) ++
        '/' :: "install.yaml".toList := by
    simp [manifestPath]
  rw [hcut, hcut, List.append_cancel_right_eq] at h
  obtain ⟨hbase, hversion⟩ := Text.eq_and_eq_of_cut_last v.isPathSegment.2 v'.isPathSegment.2 h
  rw [List.append_cancel_right_eq] at hbase
  exact ⟨BaseUrl.text_injective (String.toList_inj.mp hbase),
    VersionPath.text_injective (String.toList_inj.mp hversion)⟩

theorem installManifestUrl_inj (h : installManifestUrl u b v = installManifestUrl u' b' v') :
    u = u' ∧ b = b' ∧ v = v' := by
  have htext := congrArg String.toList h
  rw [toList_installManifestUrl, toList_installManifestUrl] at htext
  have hslash (b : BaseUrl) (v : VersionPath) : ∃ r, manifestPath b v = '/' :: r := by
    obtain ⟨r, hr, -⟩ := b.exists_toList
    exact ⟨_, by rw [manifestPath, hr]; rfl⟩
  obtain ⟨r, hr⟩ := hslash b v
  obtain ⟨r', hr'⟩ := hslash b' v'
  -- the slash in front of either path is the one that ends the host
  rw [hr, hr'] at htext
  obtain ⟨hu, hpath⟩ := SiteUrl.eq_and_eq_of_append_slash htext
  exact ⟨hu, manifestPath_inj (by rw [hr, hr', hpath])⟩

/-- **The address of a manifest is well formed and read back from its text.** It is scheme and host,
and the absolute path of the segments of the prefix and three more, of which none is empty. It has
no blank, no query and no fragment. And it is the address of one host, one prefix and one version
only. -/
theorem installManifestUrl_wellFormed_and_unambiguous (u : SiteUrl) (b : BaseUrl)
    (v : VersionPath) :
    (∃ segments path, b.text.toList = '/' :: slashed segments ∧
        IsPathOf (segments ++ ["releases".toList, v.text.toList, "install.yaml".toList]) path ∧
        (installManifestUrl u b v).toList = u.text.toList ++ path) ∧
      (∀ c ∈ (installManifestUrl u b v).toList, Text.isBlank c = false ∧ c ≠ '?' ∧ c ≠ '#') ∧
      ∀ u' b' v', installManifestUrl u b v = installManifestUrl u' b' v' ↔
        u = u' ∧ b = b' ∧ v = v' := by
  refine ⟨?_, fun c hc ↦ ?_, fun u' b' v' ↦ ⟨installManifestUrl_inj, ?_⟩⟩
  · obtain ⟨segments, hsegments, hb⟩ := b.exists_toList_eq_segments
    exact ⟨segments, manifestPath b v, hb, isPathOf_manifestPath hsegments hb v,
      toList_installManifestUrl u b v⟩
  · have hallows : BaseUrl.Allows c := by
      rw [toList_installManifestUrl, List.mem_append] at hc
      rcases hc with hc | hc
      · exact u.allows_of_mem hc
      · exact allows_of_mem_manifestPath hc
    exact ⟨hallows.notBlank, hallows.ne_query, hallows.ne_fragment⟩
  · rintro ⟨rfl, rfl, rfl⟩
    rfl

end VersionedSite
