import Mathlib.Data.List.Sort
import VersionedSite.Proofs.Text.ByteOrder
import VersionedSite.Proofs.Text.NameMap
import VersionedSite.Site.Catalog

/-!
# Comparing declared and published versions

An audit compares two sets of names, and what it tells of them are two lists. Which names are in
these lists and in which order they stand leaves no choice, so an audit depends on the two sets
alone: it makes no difference in which order the names are given and how often.
-/

namespace VersionedSite

/-- The paths of the declared versions. -/
def Site.declaredPaths (s : Site) : List String := s.versions.toList.map (·.path.text)

/-- What there is to tell of two lists of names: which of them the other list does not have, in the
order of their bytes and each once. -/
structure Audit.Compares (a : Audit) (declared published : List String) : Prop where
  mem_unpublished_iff : ∀ k, k ∈ a.unpublished ↔ k ∈ declared ∧ k ∉ published
  mem_undeclared_iff : ∀ k, k ∈ a.undeclared ↔ k ∈ published ∧ k ∉ declared
  unpublished_ascending : a.unpublished.Pairwise fun j k ↦ Text.bytes j < Text.bytes k
  undeclared_ascending : a.undeclared.Pairwise fun j k ↦ Text.bytes j < Text.bytes k

/-- Names in ascending order are known by which names are among them. -/
theorem eq_of_bytes_ascending {ks ks' : List String}
    (hks : ks.Pairwise fun j k ↦ Text.bytes j < Text.bytes k)
    (hks' : ks'.Pairwise fun j k ↦ Text.bytes j < Text.bytes k) (h : ∀ k, k ∈ ks ↔ k ∈ ks') :
    ks = ks' := by
  have : Std.Antisymm fun j k : String ↦ Text.bytes j < Text.bytes k :=
    ⟨fun _ _ hjk hkj ↦ absurd hkj (List.lt_asymm hjk)⟩
  have : Std.Irrefl fun j k : String ↦ Text.bytes j < Text.bytes k :=
    ⟨fun _ ↦ List.lt_irrefl _⟩
  exact hks.eq_of_mem_iff hks' h

namespace Audit.Compares

variable {a a' : Audit} {declared declared' published published' : List String}

/-- Two lists with the same members are compared alike. -/
theorem unique (h : a.Compares declared published) (h' : a'.Compares declared' published')
    (hdeclared : ∀ k, k ∈ declared ↔ k ∈ declared')
    (hpublished : ∀ k, k ∈ published ↔ k ∈ published') : a = a' := by
  have hleft : a.unpublished = a'.unpublished := by
    refine eq_of_bytes_ascending h.unpublished_ascending h'.unpublished_ascending fun k ↦ ?_
    rw [h.mem_unpublished_iff, h'.mem_unpublished_iff, hdeclared, hpublished]
  have hright : a.undeclared = a'.undeclared := by
    refine eq_of_bytes_ascending h.undeclared_ascending h'.undeclared_ascending fun k ↦ ?_
    rw [h.mem_undeclared_iff, h'.mem_undeclared_iff, hdeclared, hpublished]
  cases a
  cases a'
  cases hleft
  cases hright
  rfl

/-- There is nothing to tell if and only if the members are the same. -/
theorem isClean_iff (h : a.Compares declared published) :
    a.isClean = true ↔ ∀ k, k ∈ declared ↔ k ∈ published := by
  rw [isClean, Bool.and_eq_true, List.isEmpty_iff, List.isEmpty_iff,
    List.eq_nil_iff_forall_not_mem, List.eq_nil_iff_forall_not_mem]
  simp only [h.mem_unpublished_iff, h.mem_undeclared_iff, not_and, not_not]
  rw [← forall_and]
  exact forall_congr' fun k ↦ iff_iff_implies_and_implies.symm

end Audit.Compares

theorem NameSet.bytes_ascending_diff (s t : NameSet) :
    (s.diff t).Pairwise fun j k ↦ Text.bytes j < Text.bytes k :=
  (pairwise_diff s t).imp Text.bytes_lt_of_lt

theorem Site.audit_compares (s : Site) (published : List String) :
    (s.audit published).Compares s.declaredPaths published where
  mem_unpublished_iff k := by
    rw [audit, NameSet.mem_diff, NameSet.mem_names_ofList, NameSet.mem_names_ofList, declaredPaths]
  mem_undeclared_iff k := by
    rw [audit, NameSet.mem_diff, NameSet.mem_names_ofList, NameSet.mem_names_ofList, declaredPaths]
  unpublished_ascending := NameSet.bytes_ascending_diff _ _
  undeclared_ascending := NameSet.bytes_ascending_diff _ _

end VersionedSite
