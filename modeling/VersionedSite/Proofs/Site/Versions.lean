import Mathlib.Data.List.Nodup
import VersionedSite.Proofs.Text.NameMap
import VersionedSite.Site.Catalog

/-!
# The versions of a site

What makes a list of versions a catalog, said without the search that checks it: there is a
version, and no two paths are the same. So a path belongs to one version at most, and the version
that is looked up by a path is that one.
-/

namespace VersionedSite

/-! ## Repeated paths -/

variable {seen : List VersionPath} {vs : List Version} {v : Version}

theorem firstRepeated?_eq_none_iff :
    firstRepeated? seen vs = none ↔ (vs.map (·.path)).Nodup ∧ ∀ v ∈ vs, v.path ∉ seen := by
  induction vs generalizing seen with
  | nil => simp [firstRepeated?]
  | cons u vs ih =>
    rw [firstRepeated?, List.map_cons, List.nodup_cons, List.forall_mem_cons, List.mem_map]
    by_cases h : u.path ∈ seen
    · rw [if_pos h]
      exact ⟨fun hn ↦ absurd hn (by simp), fun hn ↦ absurd h hn.2.1⟩
    · rw [if_neg h, ih]
      constructor
      · rintro ⟨hnd, hseen⟩
        refine ⟨⟨?_, hnd⟩, h, fun v hv hs ↦ hseen v hv (List.mem_cons_of_mem _ hs)⟩
        rintro ⟨v, hv, he⟩
        exact hseen v hv (he ▸ List.mem_cons_self)
      · rintro ⟨⟨hu, hnd⟩, -, hseen⟩
        refine ⟨hnd, fun v hv hs ↦ ?_⟩
        rcases List.mem_cons.mp hs with he | hs
        · exact hu ⟨v, hv, he⟩
        · exact hseen v hv hs

/-- The entry to blame has the path of an entry before it, and no entry before it has that of
another one. -/
theorem exists_of_firstRepeated?_eq_some (h : firstRepeated? seen vs = some v) :
    ∃ before after, vs = before ++ v :: after ∧ (before.map (·.path)).Nodup ∧
      (∀ u ∈ before, u.path ∉ seen) ∧ (v.path ∈ seen ∨ v.path ∈ before.map (·.path)) := by
  induction vs generalizing seen with
  | nil => exact absurd h (by simp [firstRepeated?])
  | cons u vs ih =>
    rw [firstRepeated?] at h
    by_cases hu : u.path ∈ seen
    · rw [if_pos hu, Option.some_inj] at h
      subst h
      exact ⟨[], vs, rfl, List.nodup_nil, by simp, .inl hu⟩
    · -- the head joins what has been seen, so the rest avoids it up to the entry to blame
      rw [if_neg hu] at h
      obtain ⟨before, after, rfl, hnd, hseen, hv⟩ := ih h
      refine ⟨u :: before, after, rfl, ?_, ?_, ?_⟩
      · rw [List.map_cons, List.nodup_cons]
        refine ⟨fun hm ↦ ?_, hnd⟩
        obtain ⟨w, hw, he⟩ := List.mem_map.mp hm
        exact hseen w hw (he ▸ List.mem_cons_self)
      · intro w hw
        rcases List.mem_cons.mp hw with rfl | hw
        · exact hu
        · exact fun hs ↦ hseen w hw (List.mem_cons_of_mem _ hs)
      · rw [List.map_cons, List.mem_cons]
        rcases hv with hv | hv
        · rcases List.mem_cons.mp hv with he | hs
          · exact .inr (.inl he)
          · exact .inl hs
        · exact .inr (.inr hv)

/-! ## Catalogs -/

namespace VersionPath

theorem text_injective {p q : VersionPath} (h : p.text = q.text) : p = q := by
  cases p
  cases q
  simpa using h

end VersionPath

namespace Versions

theorem nodup_paths (vs : Versions) : (vs.toList.map (·.path)).Nodup :=
  (firstRepeated?_eq_none_iff.mp vs.distinct).1

theorem nodup_toList (vs : Versions) : vs.toList.Nodup := List.Nodup.of_map _ vs.nodup_paths

theorem nodup_texts (vs : Versions) : (vs.toList.map (·.path.text)).Nodup := by
  have h := vs.nodup_paths
  rw [List.Nodup, List.pairwise_map] at h ⊢
  exact h.imp fun hne he ↦ hne (VersionPath.text_injective he)

/-- A list is a catalog in one way at most, and is kept as it is. -/
theorem ofList_eq_ok_iff {l : List Version} {vs : Versions} :
    ofList l = .ok vs ↔ vs.toList = l := by
  rw [ofList]
  constructor
  · intro h
    split at h
    · exact absurd h (by simp)
    · split at h
      · rw [Except.ok.injEq] at h
        rw [← h]
      · exact absurd h (by simp)
  · rintro rfl
    rw [dif_neg vs.nonempty]
    split
    · rfl
    · next hv => exact absurd (vs.distinct.symm.trans hv) (by simp)

theorem ofList_eq_error_iff {l : List Version} {f : VersionsFault} :
    ofList l = .error f ↔
      l = [] ∧ f = .none ∨ l ≠ [] ∧ ∃ v, firstRepeated? [] l = some v ∧ f = .repeated v.path := by
  rw [ofList]
  by_cases hl : l = []
  · rw [dif_pos hl, Except.error.injEq]
    simp [hl, eq_comm]
  · rw [dif_neg hl]
    split
    · next hn => simp [hl, hn]
    · next v hv => simp [hl, hv, eq_comm]

/-- Versions are found by their own paths. -/
theorem get?_eq_some_iff {vs : Versions} {p : String} {v : Version} :
    vs.get? p = some v ↔ v ∈ vs.toList ∧ v.path.text = p :=
  find?_key_eq_some_iff (fun v : Version ↦ v.path.text) vs.nodup_texts

theorem select_of_mem {vs : Versions} {v : Version} (h : v ∈ vs.toList) :
    vs.select (some v.path.text) = ⟨v, .matched⟩ := by
  rw [select, Option.bind_some, get?_eq_some_iff.mpr ⟨h, rfl⟩]

theorem select_eq_matched_iff {vs : Versions} {segment : Option String} {v : Version} :
    vs.select segment = ⟨v, .matched⟩ ↔ v ∈ vs.toList ∧ segment = some v.path.text := by
  constructor
  · intro h
    rw [select] at h
    split at h
    · next u hu =>
      obtain rfl := congrArg ActiveVersion.version h
      obtain ⟨path, rfl, hget⟩ := Option.bind_eq_some_iff.mp hu
      obtain ⟨hmem, rfl⟩ := get?_eq_some_iff.mp hget
      exact ⟨hmem, rfl⟩
    · exact absurd (congrArg ActiveVersion.resolution h) (by simp)
  · rintro ⟨hmem, rfl⟩
    exact select_of_mem hmem

/-- A version is selected by its own segment, or else the canonical version stands in. -/
theorem select_eq_matched_or_fallback (vs : Versions) (segment : Option String) :
    (∃ v, vs.select segment = ⟨v, .matched⟩) ∨ vs.select segment = ⟨vs.canonical, .fallback⟩ := by
  rw [select]
  split
  · next v _ => exact .inl ⟨v, rfl⟩
  · exact .inr rfl

/-- The canonical version stands in exactly where no version is named. -/
theorem select_eq_fallback_iff {vs : Versions} {segment : Option String} :
    vs.select segment = ⟨vs.canonical, .fallback⟩ ↔
      ∀ v ∈ vs.toList, segment ≠ some v.path.text := by
  constructor
  · intro h v hv hsegment
    rw [select_eq_matched_iff.mpr ⟨hv, hsegment⟩] at h
    exact absurd (congrArg ActiveVersion.resolution h) (by simp)
  · intro h
    rcases vs.select_eq_matched_or_fallback segment with ⟨v, hv⟩ | hv
    · obtain ⟨hmem, hsegment⟩ := select_eq_matched_iff.mp hv
      exact absurd hsegment (h v hmem)
    · exact hv

end Versions

end VersionedSite
