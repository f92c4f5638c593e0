import VersionedSite.Proofs.Site.Resolved

/-!
# Looking up versions

A list of versions is checked entry by entry, each against the entries before it, and a version is
looked up from the front of the list. Both go by the order of the entries. What they come to does
not: a list is a catalog if it has an entry and no two of its paths are the same, and then a path
leads to its one version wherever that version stands. The order decides two things only, which
entry is canonical, and which one is blamed where a path is repeated.

The entry to blame is given by its index. It is the least one at which a path stands that has stood
before, so of several repeated paths it is the one whose second entry comes first.
-/

namespace VersionedSite

variable {l l' before after : List Version} {v w : Version} {i k : Nat}

/-! ## The first repeated path -/

/-- The entry at the index has the path of an entry before it. -/
def RepeatsAt (l : List Version) (i : Nat) : Prop :=
  ∃ j < i, ∃ u v, l[j]? = some u ∧ l[i]? = some v ∧ u.path = v.path

theorem repeatsAt_append_iff (hi : i < l.length) : RepeatsAt (l ++ l') i ↔ RepeatsAt l i := by
  rw [RepeatsAt, RepeatsAt]
  refine exists_congr fun j ↦ and_congr_right fun hj ↦ ?_
  rw [List.getElem?_append_left hi, List.getElem?_append_left (Nat.lt_trans hj hi)]

theorem nodup_paths_iff : (l.map (·.path)).Nodup ↔ ∀ i, ¬RepeatsAt l i := by
  rw [List.Nodup, List.pairwise_map, List.pairwise_iff_getElem]
  constructor
  · rintro h i ⟨j, hji, u, v, hu, hv, he⟩
    obtain ⟨hj, rfl⟩ := List.getElem?_eq_some_iff.mp hu
    obtain ⟨hi, rfl⟩ := List.getElem?_eq_some_iff.mp hv
    exact h j i hj hi hji he
  · intro h j i hj hi hji he
    exact h i ⟨j, hji, l[j], l[i], List.getElem?_eq_getElem hj, List.getElem?_eq_getElem hi, he⟩

/-- The entry at the index repeats a path, and no entry before it does. -/
structure IsFirstRepeat (l : List Version) (i : Nat) (v : Version) : Prop where
  entry : l[i]? = some v
  repeats : RepeatsAt l i
  first : ∀ k < i, ¬RepeatsAt l k

theorem IsFirstRepeat.unique (h : IsFirstRepeat l i v) (h' : IsFirstRepeat l k w) : v = w := by
  obtain rfl : i = k := by
    rcases Nat.lt_trichotomy i k with hlt | he | hlt
    · exact absurd h.repeats (h'.first i hlt)
    · exact he
    · exact absurd h'.repeats (h.first k hlt)
  exact Option.some.inj (h.entry.symm.trans h'.entry)

/-- Behind entries of distinct paths, an entry with one of their paths is the first repeat. -/
theorem isFirstRepeat_append (hbefore : (before.map (·.path)).Nodup)
    (hv : v.path ∈ before.map (·.path)) :
    IsFirstRepeat (before ++ v :: after) before.length v := by
  have hentry : (before ++ v :: after)[before.length]? = some v := by
    rw [List.getElem?_append_right (Nat.le_refl _), Nat.sub_self, List.getElem?_cons_zero]
  refine ⟨hentry, ?_, fun k hk ↦ ?_⟩
  · obtain ⟨u, hu, hpath⟩ := List.mem_map.mp hv
    obtain ⟨j, hj⟩ := List.getElem?_of_mem hu
    have hlt : j < before.length := (List.getElem?_eq_some_iff.mp hj).1
    exact ⟨j, hlt, u, v, by rw [List.getElem?_append_left hlt, hj], hentry, hpath⟩
  · rw [repeatsAt_append_iff hk]
    exact nodup_paths_iff.mp hbefore k

theorem exists_isFirstRepeat (h : firstRepeated? [] l = some v) : ∃ i, IsFirstRepeat l i v := by
  obtain ⟨before, after, rfl, hbefore, -, hv⟩ := exists_of_firstRepeated?_eq_some h
  exact ⟨before.length, isFirstRepeat_append hbefore (hv.resolve_left List.not_mem_nil)⟩

/-- The check blames the first repeat, and no other entry. -/
theorem firstRepeated?_eq_some_iff :
    firstRepeated? [] l = some v ↔ ∃ i, IsFirstRepeat l i v := by
  refine ⟨exists_isFirstRepeat, fun ⟨i, h⟩ ↦ ?_⟩
  -- a repeated path makes the search blame an entry, and there is one first repeat only
  cases hfound : firstRepeated? [] l with
  | none =>
    have hnodup := (firstRepeated?_eq_none_iff.mp hfound).1
    exact absurd h.repeats (nodup_paths_iff.mp hnodup i)
  | some w =>
    obtain ⟨k, hw⟩ := exists_isFirstRepeat hfound
    rw [hw.unique h]

namespace Versions

variable {vs ws : Versions} {f : VersionsFault}

/-! ## Catalogs and their faults -/

theorem exists_ofList_iff :
    (∃ vs, ofList l = .ok vs) ↔ l ≠ [] ∧ (l.map (·.path)).Nodup := by
  simp only [ofList_eq_ok_iff]
  constructor
  · rintro ⟨vs, rfl⟩
    exact ⟨vs.nonempty, vs.nodup_paths⟩
  · rintro ⟨hne, hnodup⟩
    have hdistinct : firstRepeated? [] l = none :=
      firstRepeated?_eq_none_iff.mpr ⟨hnodup, fun v _ ↦ List.not_mem_nil⟩
    exact ⟨⟨l, hne, hdistinct⟩, rfl⟩

theorem ofList_eq_error_iff_isFirstRepeat :
    ofList l = .error f ↔
      l = [] ∧ f = .none ∨ ∃ i v, IsFirstRepeat l i v ∧ f = .repeated v.path := by
  simp only [ofList_eq_error_iff, firstRepeated?_eq_some_iff]
  refine or_congr_right ?_
  constructor
  · rintro ⟨-, v, ⟨i, h⟩, hf⟩
    exact ⟨i, v, h, hf⟩
  · rintro ⟨i, v, h, hf⟩
    exact ⟨List.ne_nil_of_mem (List.mem_of_getElem? h.entry), v, ⟨i, h⟩, hf⟩

/-- Of two repeated paths the one is blamed whose second entry comes first. -/
example : ofList [⟨"HEAD", ⟨"head", by decide⟩⟩, ⟨"Main", ⟨"main", by decide⟩⟩,
    ⟨"Next", ⟨"main", by decide⟩⟩, ⟨"Edge", ⟨"head", by decide⟩⟩] =
      .error (.repeated ⟨"main", by decide⟩) := rfl

/-! ## Order -/

/-- Catalogs of the same versions give the same answers. -/
theorem get?_eq_of_perm (h : vs.toList.Perm ws.toList) (path : String) :
    vs.get? path = ws.get? path := by
  ext v
  rw [get?_eq_some_iff, get?_eq_some_iff, h.mem_iff]

/-- A catalog in another order is a catalog, with the same answers. -/
theorem exists_ofList_of_perm (h : l.Perm vs.toList) :
    ∃ ws, ofList l = .ok ws ∧ ∀ path, ws.get? path = vs.get? path := by
  have hne : l ≠ [] := by
    rintro rfl
    exact vs.nonempty h.nil_eq.symm
  have hnodup : (l.map (·.path)).Nodup := (h.map _).nodup_iff.mpr vs.nodup_paths
  obtain ⟨ws, hws⟩ := exists_ofList_iff.mpr ⟨hne, hnodup⟩
  refine ⟨ws, hws, get?_eq_of_perm ?_⟩
  rw [ofList_eq_ok_iff.mp hws]
  exact h

/-- **A list of versions is a catalog if its paths are distinct, and then they lead to its
entries.** Any other list is refused, and the report names the path of the first entry that repeats
one, unless there is no entry at all. A catalog keeps its list, and the first entry is canonical.
Looking up a path gives the entry that has it, if there is one, so that no entry hides another. In
any other order the entries are a catalog as well, with the same answers. -/
theorem found_by_distinct_paths (l : List Version) :
    ((∃ vs, ofList l = .ok vs) ↔ l ≠ [] ∧ l.Pairwise fun v w ↦ v.path ≠ w.path) ∧
      (∀ f, ofList l = .error f ↔ l = [] ∧ f = .none ∨
        ∃ i v, IsFirstRepeat l i v ∧ f = .repeated v.path ∧
          (SiteFault.ofVersions f).details = [("Path", v.path.text)]) ∧
      ∀ vs, ofList l = .ok vs →
        vs.toList = l ∧ l.head? = some vs.canonical ∧
        (∀ path v, vs.get? path = some v ↔ v ∈ l ∧ v.path.text = path) ∧
        (∀ v ∈ l, vs.get? v.path.text = some v) ∧
        ∀ l', l'.Perm l → ∃ ws, ofList l' = .ok ws ∧ ∀ path, ws.get? path = vs.get? path := by
  refine ⟨?_, fun f ↦ ?_, fun vs hvs ↦ ?_⟩
  · rw [exists_ofList_iff, List.Nodup, List.pairwise_map]
  · rw [ofList_eq_error_iff_isFirstRepeat]
    refine or_congr_right (exists₂_congr fun i v ↦ and_congr_right fun _ ↦ ?_)
    exact ⟨fun hf ↦ ⟨hf, by rw [hf]; rfl⟩, And.left⟩
  · obtain rfl := ofList_eq_ok_iff.mp hvs
    exact ⟨rfl, List.head?_eq_some_head vs.nonempty, fun path v ↦ get?_eq_some_iff,
      fun v hv ↦ get?_eq_some_iff.mpr ⟨hv, rfl⟩, fun l' hperm ↦ exists_ofList_of_perm hperm⟩

/-- The two versions of the small configuration, in either order. -/
theorem minimal_found_in_either_order :
    ∃ vs ws : Versions, ofList Config.minimal.docs.versions = .ok vs ∧
      ofList Config.minimal.docs.versions.reverse = .ok ws ∧
      vs.canonical.label = "HEAD" ∧ ws.canonical.label = "Docs" ∧
      ∃ v, v.label = "Docs" ∧ vs.get? "docs" = some v ∧ ws.get? "docs" = some v := by
  have hdistinct : Config.minimal.docs.versions.Pairwise fun v w ↦ v.path ≠ w.path := by decide
  obtain ⟨haccepts, -, hfound⟩ := found_by_distinct_paths Config.minimal.docs.versions
  obtain ⟨vs, hvs⟩ := haccepts.mpr ⟨by decide, hdistinct⟩
  obtain ⟨-, hcanonical, hget, -, horder⟩ := hfound vs hvs
  obtain ⟨ws, hws, hsame⟩ := horder _ (List.reverse_perm _)
  obtain ⟨-, -, hfound'⟩ := found_by_distinct_paths Config.minimal.docs.versions.reverse
  obtain ⟨-, hcanonical', -⟩ := hfound' ws hws
  have hdocs : vs.get? "docs" = some ⟨"Docs", ⟨"docs", by decide⟩⟩ :=
    (hget "docs" _).mpr ⟨by decide, rfl⟩
  refine ⟨vs, ws, hvs, hws, ?_, ?_, _, rfl, hdocs, (hsame "docs").trans hdocs⟩
  · exact congrArg Version.label (Option.some.inj hcanonical).symm
  · exact congrArg Version.label (Option.some.inj hcanonical').symm

end Versions

end VersionedSite
