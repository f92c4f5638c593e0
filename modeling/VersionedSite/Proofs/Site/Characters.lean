import VersionedSite.Proofs.Text.Affix
import VersionedSite.Proofs.Text.Wording
import VersionedSite.Site.Url
import VersionedSite.Site.Version

/-!
# Characters of checked texts

The checks on the three kinds of text that addresses are put together from, restated as what may
stand in such a text. The checks run in an order and stop at the first fault; a text that has
passed satisfies all of them at once, which is all that the readers of addresses need.
-/

namespace VersionedSite

/-- A check followed by others finds no fault if none of them does. -/
theorem ite_some_eq_none_iff {α : Type} {p : Prop} [Decidable p] {a : α} {x : Option α} :
    (if p then some a else x) = none ↔ ¬p ∧ x = none := by
  by_cases h : p
  · rw [if_pos h]
    exact ⟨fun hn ↦ absurd hn (by simp), fun hn ↦ absurd h hn.1⟩
  · rw [if_neg h, and_iff_right h]

/-! ## Paths of versions -/

namespace VersionPath

/-- What may stand in the path of a version. -/
structure Allows (c : Char) : Prop where
  ne_slash : c ≠ '/'
  ne_backslash : c ≠ '\\'
  notBlank : Text.isBlank c = false
  ne_query : c ≠ '?'
  ne_fragment : c ≠ '#'
  ne_percent : c ≠ '%'

theorem fault?_eq_none_iff {s : String} :
    versionPathFault? s = none ↔
      s.toList ≠ [] ∧ (∀ c ∈ s.toList, Allows c) ∧ s.toList ≠ ['.'] ∧ s.toList ≠ ['.', '.'] := by
  rw [versionPathFault?, ite_some_eq_none_iff, ite_some_eq_none_iff, ite_some_eq_none_iff,
    ite_some_eq_none_iff]
  simp only [Bool.not_eq_true, List.any_eq_false, Bool.or_eq_true, beq_iff_eq, not_or,
    decide_eq_true_eq]
  constructor
  · rintro ⟨hne, hsegment, hreserved, hdots, -⟩
    refine ⟨hne, fun c hc ↦ ?_, hdots⟩
    obtain ⟨⟨hslash, hback⟩, hblank⟩ := hsegment c hc
    obtain ⟨⟨hquery, hfragment⟩, hpercent⟩ := hreserved c hc
    exact ⟨hslash, hback, hblank, hquery, hfragment, hpercent⟩
  · rintro ⟨hne, hc, hdots⟩
    exact ⟨hne, fun c h ↦ ⟨⟨(hc c h).ne_slash, (hc c h).ne_backslash⟩, (hc c h).notBlank⟩,
      fun c h ↦ ⟨⟨(hc c h).ne_query, (hc c h).ne_fragment⟩, (hc c h).ne_percent⟩, hdots, trivial⟩

theorem text_ne_nil (p : VersionPath) : p.text.toList ≠ [] := (fault?_eq_none_iff.mp p.valid).1

theorem allows_of_mem (p : VersionPath) {c : Char} (h : c ∈ p.text.toList) : Allows c :=
  (fault?_eq_none_iff.mp p.valid).2.1 c h

end VersionPath

/-! ## Scheme and host -/

namespace SiteUrl

/-- The address is a scheme followed by a host. -/
theorem exists_host (u : SiteUrl) : ∃ scheme ∈ ["https://", "http://"], ∃ host ≠ [],
    u.text.toList = scheme.toList ++ host ∧ ∀ c ∈ host, endsHost c = false := by
  have h := u.valid
  rw [isSiteUrl, Option.any_eq_true] at h
  obtain ⟨host, hhost, h⟩ := h
  rw [Bool.and_eq_true, decide_eq_true_eq, Bool.not_eq_true', List.any_eq_false] at h
  simp only [Bool.not_eq_true] at h
  rcases Option.or_eq_some_iff.mp hhost with hs | ⟨-, hs⟩
  · exact ⟨"https://", by simp, host, h.1, Text.dropStart?_eq_some_iff.mp hs, h.2⟩
  · exact ⟨"http://", by simp, host, h.1, Text.dropStart?_eq_some_iff.mp hs, h.2⟩

theorem notBlank_of_mem (u : SiteUrl) {c : Char} (h : c ∈ u.text.toList) :
    Text.isBlank c = false := by
  obtain ⟨scheme, hscheme, host, -, htext, hhost⟩ := u.exists_host
  rw [htext, List.mem_append] at h
  rcases h with h | h
  · have hwords : ∀ s ∈ ["https://", "http://"], Text.IsWord s.toList := by decide
    exact (hwords scheme hscheme).2 c h
  · have hc := hhost c h
    rw [endsHost, Bool.or_eq_false_iff] at hc
    exact hc.2

end SiteUrl

/-! ## Path prefixes -/

namespace BaseUrl

/-- What may stand in a path prefix. -/
structure Allows (c : Char) : Prop where
  notBlank : Text.isBlank c = false
  ne_query : c ≠ '?'
  ne_fragment : c ≠ '#'

instance : DecidablePred Allows := fun c ↦
  decidable_of_iff (Text.isBlank c = false ∧ c ≠ '?' ∧ c ≠ '#')
    ⟨fun ⟨hblank, hquery, hfragment⟩ ↦ ⟨hblank, hquery, hfragment⟩,
      fun h ↦ ⟨h.notBlank, h.ne_query, h.ne_fragment⟩⟩

/-- The check on a text goes through the characters of the text. To decide `∀ c ∈ s` as it stands
may be to go through all characters that there are. -/
theorem allows_of_all {s : List Char} (h : (s.all fun c ↦ decide (Allows c)) = true) :
    ∀ c ∈ s, Allows c :=
  fun c hc ↦ of_decide_eq_true (List.all_eq_true.mp h c hc)

theorem fault?_eq_none_iff {s : String} :
    baseUrlFault? s = none ↔
      s.toList.head? = some '/' ∧ s.toList.getLast? = some '/' ∧
        Text.occurs ['/', '/'] s.toList = false ∧ ∀ c ∈ s.toList, Allows c := by
  rw [baseUrlFault?, ite_some_eq_none_iff, ite_some_eq_none_iff, ite_some_eq_none_iff]
  simp only [Bool.not_eq_true, List.any_eq_false, Bool.or_eq_true, beq_iff_eq, not_or, ne_eq,
    decide_eq_false_iff_not, Classical.not_not]
  constructor
  · rintro ⟨⟨hhead, hlast⟩, hsegments, hplain, -⟩
    exact ⟨hhead, hlast, hsegments, fun c h ↦ ⟨(hplain c h).1.1, (hplain c h).1.2, (hplain c h).2⟩⟩
  · rintro ⟨hhead, hlast, hsegments, hc⟩
    exact ⟨⟨hhead, hlast⟩, hsegments,
      fun c h ↦ ⟨⟨(hc c h).notBlank, (hc c h).ne_query⟩, (hc c h).ne_fragment⟩, trivial⟩

theorem allows_of_mem (b : BaseUrl) {c : Char} (h : c ∈ b.text.toList) : Allows c :=
  (fault?_eq_none_iff.mp b.valid).2.2.2 c h

end BaseUrl

end VersionedSite
