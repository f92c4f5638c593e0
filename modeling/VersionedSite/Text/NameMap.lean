/-!
# Maps and sets of names

Names in ascending order, each once, with or without a value. The order of characters is that of
their code points, so it is also the order of the names' bytes in UTF-8. The order is part of the
type: two maps with the same entries are equal, and what is listed from a map is sorted.
-/

namespace VersionedSite

/-! ## Maps -/

/-- The entries with `k` set to `v`, in the place where the order wants it. -/
def insertEntry {α : Type} (k : String) (v : α) : List (String × α) → List (String × α)
  | [] => [(k, v)]
  | (k', v') :: rest =>
    if k < k' then (k, v) :: (k', v') :: rest
    else if k' < k then (k', v') :: insertEntry k v rest
    else (k, v) :: rest

theorem mem_insertEntry {α : Type} {k : String} {v : α} {es : List (String × α)} {e : String × α}
    (h : e ∈ insertEntry k v es) : e = (k, v) ∨ e ∈ es := by
  induction es with
  | nil => exact .inl (by simpa [insertEntry] using h)
  | cons f rest ih =>
    simp only [insertEntry] at h
    split at h
    · rcases List.mem_cons.1 h with rfl | h
      · exact .inl rfl
      · exact .inr h
    · split at h
      · rcases List.mem_cons.1 h with rfl | h
        · exact .inr List.mem_cons_self
        · rcases ih h with rfl | h
          · exact .inl rfl
          · exact .inr (List.mem_cons_of_mem _ h)
      · rcases List.mem_cons.1 h with rfl | h
        · exact .inl rfl
        · exact .inr (List.mem_cons_of_mem _ h)

/-- Two names of which neither comes before the other are one name. -/
theorem eq_of_not_before {a b : String} (h : ¬a < b) (h' : ¬b < a) : a = b :=
  String.le_antisymm (String.not_lt.1 h') (String.not_lt.1 h)

theorem pairwise_insertEntry {α : Type} (k : String) (v : α) {es : List (String × α)}
    (h : es.Pairwise (·.1 < ·.1)) : (insertEntry k v es).Pairwise (·.1 < ·.1) := by
  induction es with
  | nil => simp [insertEntry]
  | cons f rest ih =>
    obtain ⟨hf, hrest⟩ := List.pairwise_cons.1 h
    simp only [insertEntry]
    split
    · next hk =>
      refine List.pairwise_cons.2 ⟨fun e he ↦ ?_, h⟩
      rcases List.mem_cons.1 he with rfl | he
      · exact hk
      · exact String.lt_trans hk (hf e he)
    · split
      · next hk =>
        refine List.pairwise_cons.2 ⟨fun e he ↦ ?_, ih hrest⟩
        rcases mem_insertEntry he with rfl | he
        · exact hk
        · exact hf e he
      · next hk hk' =>
        have heq := eq_of_not_before hk hk'
        exact List.pairwise_cons.2 ⟨fun e he ↦ by simpa [heq] using hf e he, hrest⟩

/-- A map from names. -/
structure NameMap (α : Type) where
  entries : List (String × α)
  ascending : entries.Pairwise (·.1 < ·.1)

namespace NameMap

variable {α : Type}

def empty : NameMap α := ⟨[], .nil⟩

instance [DecidableEq α] : DecidableEq (NameMap α) := fun a b ↦
  decidable_of_iff (a.entries = b.entries) (by cases a; cases b; simp)

/-- The map with `k` set to `v`, whatever it was before. -/
def insert (m : NameMap α) (k : String) (v : α) : NameMap α :=
  ⟨insertEntry k v m.entries, pairwise_insertEntry k v m.ascending⟩

def erase (m : NameMap α) (k : String) : NameMap α :=
  ⟨m.entries.filter (·.1 ≠ k), m.ascending.filter _⟩

def get? (m : NameMap α) (k : String) : Option α := (m.entries.find? (·.1 == k)).map (·.2)

def contains (m : NameMap α) (k : String) : Bool := m.entries.any (·.1 == k)

/-- The names, in ascending order. -/
def keys (m : NameMap α) : List String := m.entries.map (·.1)

end NameMap

/-! ## Sets -/

/-- The names with `k` in the place where the order wants it. -/
def insertName (k : String) : List String → List String
  | [] => [k]
  | k' :: rest =>
    if k < k' then k :: k' :: rest
    else if k' < k then k' :: insertName k rest
    else k' :: rest

theorem mem_insertName {k e : String} {es : List String} :
    e ∈ insertName k es ↔ e = k ∨ e ∈ es := by
  induction es with
  | nil => simp [insertName]
  | cons f rest ih =>
    simp only [insertName]
    split
    · simp
    · split
      · rw [List.mem_cons, ih, List.mem_cons]
        exact or_left_comm
      · next hk hk' =>
        have heq := eq_of_not_before hk hk'
        simp [heq]

theorem pairwise_insertName (k : String) {es : List String} (h : es.Pairwise (· < ·)) :
    (insertName k es).Pairwise (· < ·) := by
  induction es with
  | nil => simp [insertName]
  | cons f rest ih =>
    obtain ⟨hf, hrest⟩ := List.pairwise_cons.1 h
    simp only [insertName]
    split
    · next hk =>
      refine List.pairwise_cons.2 ⟨fun e he ↦ ?_, h⟩
      rcases List.mem_cons.1 he with rfl | he
      · exact hk
      · exact String.lt_trans hk (hf e he)
    · split
      · next hk =>
        refine List.pairwise_cons.2 ⟨fun e he ↦ ?_, ih hrest⟩
        rcases mem_insertName.1 he with rfl | he
        · exact hk
        · exact hf e he
      · exact h

/-- A set of names. -/
structure NameSet where
  names : List String
  ascending : names.Pairwise (· < ·)

namespace NameSet

instance : DecidableEq NameSet := fun a b ↦
  decidable_of_iff (a.names = b.names) (by cases a; cases b; simp)

def empty : NameSet := ⟨[], .nil⟩

def insert (s : NameSet) (k : String) : NameSet :=
  ⟨insertName k s.names, pairwise_insertName k s.ascending⟩

def ofList (ks : List String) : NameSet := ks.foldl insert empty

def contains (s : NameSet) (k : String) : Bool := s.names.contains k

/-- The names of `s` that are not in `t`, in ascending order. -/
def diff (s t : NameSet) : List String := s.names.filter fun k ↦ !t.contains k

end NameSet

end VersionedSite
