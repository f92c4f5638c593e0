import VersionedSite.Text.NameMap

/-!
# Looking up by name

A list whose entries have different keys is a partial function: looking up a key finds the one
entry that has it, wherever in the list that entry stands. Maps of names are such lists because
their names ascend. A set of names has the names that it was made from, and a difference of two
sets has those of the one that the other does not have.
-/

namespace VersionedSite

/-- Where no key repeats, an entry is found by its key. -/
theorem find?_key_eq_some_iff {α β : Type} [BEq β] [LawfulBEq β] (key : α → β) {l : List α}
    (h : (l.map key).Nodup) {k : β} {a : α} :
    l.find? (key · == k) = some a ↔ a ∈ l ∧ key a = k := by
  constructor
  · intro hf
    have hk : (key a == k) = true := List.find?_some (p := (key · == k)) hf
    exact ⟨List.mem_of_find?_eq_some hf, beq_iff_eq.mp hk⟩
  · rintro ⟨ha, rfl⟩
    induction l with
    | nil => exact absurd ha List.not_mem_nil
    | cons b l ih =>
      rw [List.map_cons, List.nodup_cons] at h
      by_cases hb : key b = key a
      · rcases List.mem_cons.mp ha with rfl | ha
        · rw [List.find?_cons_of_pos (by simp)]
        · exact absurd (hb ▸ List.mem_map_of_mem ha) h.1
      · rw [List.find?_cons_of_neg (by simpa using hb)]
        rcases List.mem_cons.mp ha with rfl | ha
        · exact absurd rfl hb
        · exact ih h.2 ha

namespace NameMap

variable {α : Type} {m : NameMap α} {k : String} {v : α}

theorem nodup_keys (m : NameMap α) : m.keys.Nodup := by
  rw [keys, List.Nodup, List.pairwise_map]
  refine m.ascending.imp fun {a b} h he ↦ ?_
  rw [he] at h
  exact String.lt_irrefl _ h

theorem get?_eq_some_iff : m.get? k = some v ↔ (k, v) ∈ m.entries := by
  rw [get?, Option.map_eq_some_iff]
  constructor
  · rintro ⟨e, he, rfl⟩
    obtain ⟨hmem, rfl⟩ := (find?_key_eq_some_iff Prod.fst m.nodup_keys).mp he
    exact hmem
  · intro h
    exact ⟨(k, v), (find?_key_eq_some_iff Prod.fst m.nodup_keys).mpr ⟨h, rfl⟩, rfl⟩

theorem mem_keys_iff : k ∈ m.keys ↔ ∃ v, (k, v) ∈ m.entries := by
  rw [keys, List.mem_map]
  constructor
  · rintro ⟨⟨k', v⟩, h, rfl⟩
    exact ⟨v, h⟩
  · rintro ⟨v, h⟩
    exact ⟨(k, v), h, rfl⟩

theorem get?_eq_none_iff : m.get? k = none ↔ k ∉ m.keys := by
  rw [mem_keys_iff, Option.eq_none_iff_forall_not_mem, not_exists]
  exact forall_congr' fun v ↦ not_congr get?_eq_some_iff

end NameMap

namespace NameSet

variable {s t : NameSet} {ks : List String} {k : String}

theorem mem_names_insert {j : String} : k ∈ (s.insert j).names ↔ k = j ∨ k ∈ s.names :=
  mem_insertName

theorem mem_names_foldl_insert : k ∈ (ks.foldl insert s).names ↔ k ∈ s.names ∨ k ∈ ks := by
  induction ks generalizing s with
  | nil => simp
  | cons j ks ih =>
    rw [List.foldl_cons, ih, mem_names_insert, List.mem_cons, or_comm (a := k = j), or_assoc]

theorem mem_names_ofList : k ∈ (ofList ks).names ↔ k ∈ ks := by
  rw [ofList, mem_names_foldl_insert]
  exact or_iff_right List.not_mem_nil

theorem mem_diff : k ∈ s.diff t ↔ k ∈ s.names ∧ k ∉ t.names := by
  rw [diff, List.mem_filter, contains, Bool.not_eq_true', List.contains_eq_mem,
    decide_eq_false_iff_not]

theorem pairwise_diff (s t : NameSet) : (s.diff t).Pairwise (· < ·) := s.ascending.filter _

end NameSet

end VersionedSite
