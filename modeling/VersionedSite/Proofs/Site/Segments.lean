import VersionedSite.Proofs.Site.Characters

/-!
# Segments of paths

A path prefix is checked by what may not occur in it, two slashes in a row among others. What that
comes to is a shape: behind its first slash, a prefix is one segment after the other, each with a
slash behind it. In an address the slash is counted to the segment that follows, so the same
segments are written in two ways, and the last of an address has no slash behind it.
-/

namespace VersionedSite

/-! ## Segments behind and before slashes -/

/-- What may stand between two slashes. -/
def IsPathSegment (segment : List Char) : Prop := segment ≠ [] ∧ '/' ∉ segment

instance : DecidablePred IsPathSegment := fun segment ↦
  inferInstanceAs (Decidable (segment ≠ [] ∧ '/' ∉ segment))

/-- Segments with a slash behind each. -/
def slashed (segments : List (List Char)) : List Char := segments.flatMap (· ++ ['/'])

@[simp] theorem slashed_nil : slashed [] = [] := rfl

@[simp] theorem slashed_cons (segment : List Char) (segments : List (List Char)) :
    slashed (segment :: segments) = segment ++ '/' :: slashed segments := by
  simp [slashed]

@[simp] theorem slashed_append (segments more : List (List Char)) :
    slashed (segments ++ more) = slashed segments ++ slashed more := by
  rw [slashed, slashed, slashed, List.flatMap_append]

/-- A text is the absolute path of some segments: each has a slash before it, and none is empty. -/
structure IsPathOf (segments : List (List Char)) (path : List Char) : Prop where
  ne_nil : segments ≠ []
  isSegment : ∀ segment ∈ segments, IsPathSegment segment
  text : path = segments.flatMap ('/' :: ·)

/-- Slashes behind segments are slashes before them, but for the first and the last one. -/
theorem cons_slashed_append (segments : List (List Char)) (last : List Char) :
    '/' :: (slashed segments ++ last) = (segments ++ [last]).flatMap ('/' :: ·) := by
  induction segments with
  | nil => simp
  | cons segment segments ih =>
    rw [slashed_cons, List.append_assoc, List.cons_append, ih]
    simp

/-- A text that ends with a slash, has none in front and no two in a row, is made of segments with a
slash behind each. -/
theorem exists_segments {s : List Char} (hlast : ∀ c ∈ s.getLast?, c = '/')
    (hhead : s.head? ≠ some '/') (hdouble : ¬['/', '/'] <:+: s) :
    ∃ segments, (∀ segment ∈ segments, IsPathSegment segment) ∧ s = slashed segments := by
  -- the first segment is what stands before the first slash, and the rest is shorter
  induction hlength : s.length using Nat.strongRecOn generalizing s with
  | ind n ih =>
    by_cases hs : s = []
    · subst hs
      exact ⟨[], by simp, rfl⟩
    · have hslash : '/' ∈ s := by
        have h := List.getLast?_eq_some_getLast hs
        rw [hlast _ h] at h
        exact List.mem_of_getLast? h
      obtain ⟨segment, rest, rfl, hsegment⟩ := List.eq_append_cons_of_mem hslash
      have hne : segment ≠ [] := by
        rintro rfl
        exact hhead rfl
      have hrestLast : ∀ c ∈ rest.getLast?, c = '/' := by
        intro c hc
        refine hlast c ?_
        rw [List.getLast?_append, List.getLast?_cons, Option.mem_def.mp hc]
        rfl
      have hrestHead : rest.head? ≠ some '/' := by
        intro h
        obtain ⟨after, rfl⟩ := List.head?_eq_some_iff.mp h
        exact hdouble ⟨segment, after, by simp⟩
      have hrestDouble : ¬['/', '/'] <:+: rest := by
        intro h
        exact hdouble (h.trans ⟨segment ++ ['/'], [], by simp⟩)
      have hshorter : rest.length < n := by
        rw [← hlength, List.length_append, List.length_cons]
        omega
      obtain ⟨segments, hsegments, hrest⟩ :=
        ih rest.length hshorter hrestLast hrestHead hrestDouble rfl
      refine ⟨segment :: segments, ?_, ?_⟩
      · intro x hx
        rcases List.mem_cons.mp hx with rfl | hx
        · exact ⟨hne, hsegment⟩
        · exact hsegments x hx
      · rw [slashed_cons, ← hrest]

/-! ## Path prefixes -/

namespace BaseUrl

theorem text_injective {b c : BaseUrl} (h : b.text = c.text) : b = c := by
  cases b
  cases c
  simpa using h

/-- A path prefix has one slash in front. -/
theorem exists_toList (b : BaseUrl) :
    ∃ r, b.text.toList = '/' :: r ∧ r.head? ≠ some '/' := by
  obtain ⟨hhead, -, hsegments, -⟩ := fault?_eq_none_iff.mp b.valid
  obtain ⟨r, hr⟩ := List.head?_eq_some_iff.mp hhead
  refine ⟨r, hr, fun hslash ↦ ?_⟩
  obtain ⟨t, rfl⟩ := List.head?_eq_some_iff.mp hslash
  have htwo : Text.occurs ['/', '/'] b.text.toList = true :=
    Text.occurs_eq_true_iff.mpr ⟨[], t, by rw [hr]; rfl⟩
  exact absurd (htwo.symm.trans hsegments) (by simp)

/-- What goes on without a slash of its own makes no second slash behind the first one. -/
theorem not_two_slashes_append (b : BaseUrl) {rest : List Char} (hrest : rest.head? ≠ some '/') :
    ¬['/', '/'] <+: b.text.toList ++ rest := by
  obtain ⟨r, hr, hhead⟩ := b.exists_toList
  rw [hr, List.cons_append, List.cons_prefix_cons, and_iff_right rfl]
  rintro ⟨after, hafter⟩
  -- the second slash is in the prefix, or in front of the rest if the prefix is one slash
  cases r with
  | nil =>
    rw [List.nil_append] at hafter
    exact hrest (by rw [← hafter]; rfl)
  | cons ch r =>
    obtain ⟨rfl, -⟩ := List.cons.inj hafter
    exact hhead rfl

/-- A path prefix is a slash and segments with a slash behind each. -/
theorem exists_toList_eq_segments (b : BaseUrl) :
    ∃ segments, (∀ segment ∈ segments, IsPathSegment segment) ∧
      b.text.toList = '/' :: slashed segments := by
  obtain ⟨-, hlast, hdouble, -⟩ := fault?_eq_none_iff.mp b.valid
  obtain ⟨r, hr, hhead⟩ := b.exists_toList
  rw [hr] at hlast hdouble
  have hrLast : ∀ c ∈ r.getLast?, c = '/' := by
    intro c hc
    rw [List.getLast?_cons, Option.mem_def.mp hc] at hlast
    exact Option.some.inj hlast
  have hrDouble : ¬['/', '/'] <:+: r := by
    intro h
    have htwo : Text.occurs ['/', '/'] ('/' :: r) = true :=
      Text.occurs_eq_true_iff.mpr (List.infix_cons h)
    exact absurd (htwo.symm.trans hdouble) (by simp)
  obtain ⟨segments, hsegments, htext⟩ := exists_segments hrLast hhead hrDouble
  exact ⟨segments, hsegments, by rw [hr, htext]⟩

end BaseUrl

end VersionedSite
