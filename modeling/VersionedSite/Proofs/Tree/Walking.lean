import VersionedSite.Proofs.Steps
import VersionedSite.Proofs.Text.NameMap
import VersionedSite.Proofs.Tree.Paths

/-!
# Where paths lead

A path leads from directory to directory, so where it leads depends on the directories of a tree
alone, and more directories do not lead it elsewhere. A name in a directory leads one step further
than the path of the directory.
-/

namespace VersionedSite

/-! ## Entries -/

namespace FileTree

variable {t : FileTree} {l l' : Location} {e : Entry}

theorem find?_setEntry (es : List (Location × Entry)) :
    ((setEntry l e es).find? (·.1 == l')).map (·.2) =
      if l' = l then some e else (es.find? (·.1 == l')).map (·.2) := by
  induction es with
  | nil => by_cases h : l' = l <;> simp [setEntry, h, eq_comm (a := l)]
  | cons x es ih =>
    obtain ⟨k, v⟩ := x
    rw [setEntry]
    by_cases hk : k = l
    · subst hk
      by_cases h : l' = k <;> simp [h, eq_comm (a := k)]
    · rw [if_neg hk, List.find?_cons, List.find?_cons]
      by_cases h : k = l'
      · have hl : l' ≠ l := fun hl ↦ hk (h.trans hl)
        simp [h, hl]
      · have hbeq : (k == l') = false := beq_eq_false_iff_ne.mpr h
        simp only [hbeq]
        exact ih

theorem lookup?_set (hl : l ≠ []) :
    (t.set l e).lookup? l' = if l' = l then some e else t.lookup? l' := by
  rw [lookup?, lookup?, set, find?_setEntry]
  by_cases h : l' = []
  · rw [if_pos h, if_pos h, if_neg fun hl' ↦ hl (hl'.symm.trans h)]
  · rw [if_neg h, if_neg h]

/-- Only the root is a directory without an entry. -/
theorem ne_nil_of_lookup?_ne (h : t.lookup? l ≠ some .directory) : l ≠ [] := by
  rintro rfl
  exact h rfl

theorem setEntry_eq_self {es : List (Location × Entry)}
    (h : (es.find? (·.1 == l)).map (·.2) = some e) : setEntry l e es = es := by
  induction es with
  | nil => cases h
  | cons x es ih =>
    obtain ⟨k, v⟩ := x
    rw [setEntry]
    by_cases hk : k = l
    · subst hk
      rw [if_pos rfl]
      simp only [List.find?_cons, beq_self_eq_true, Option.map_some, Option.some.injEq] at h
      rw [h]
    · have hbeq : (k == l) = false := beq_eq_false_iff_ne.mpr hk
      simp only [List.find?_cons, hbeq] at h
      rw [if_neg hk, ih h]

/-- Setting what is there already changes nothing. -/
theorem set_eq_self (hl : l ≠ []) (h : t.lookup? l = some e) : t.set l e = t := by
  rw [lookup?, if_neg hl] at h
  exact FileTree.ext (setEntry_eq_self h)

theorem lookup?_eq_some_iff (hl : l ≠ []) : t.lookup? l = some e ↔ (l, e) ∈ t.entries := by
  rw [lookup?, if_neg hl, Option.map_eq_some_iff]
  constructor
  · rintro ⟨⟨k, v⟩, hfind, rfl⟩
    obtain ⟨hmem, rfl⟩ := (find?_key_eq_some_iff Prod.fst t.distinct).mp hfind
    exact hmem
  · intro hmem
    exact ⟨(l, e), (find?_key_eq_some_iff Prod.fst t.distinct).mpr ⟨hmem, rfl⟩, rfl⟩

end FileTree

namespace Workspace

variable {w w' : Workspace} {l l' : Location} {d p q name : String} {ps qs : List (List Char)}

/-! ## Walking -/

/-- Where a path starts. -/
def start (w : Workspace) (p : String) : Location := if Path.isAbsolute p then [] else w.cwd

/-- Where pieces lead from a location. -/
def walk (w : Workspace) (l : Location) (ps : List (List Char)) : Except FileFault Location :=
  (ps.map String.ofList).foldlM w.enter l

/-- Where a path leads, if the empty path leads to where it starts. -/
def reach (w : Workspace) (p : String) : Except FileFault Location :=
  w.walk (w.start p) (Path.pieces p)

theorem walk_cons (piece : List Char) :
    w.walk l (piece :: ps) = w.enter l (String.ofList piece) >>= fun l ↦ w.walk l ps := by
  rw [walk, List.map_cons, List.foldlM_cons]
  rfl

theorem walk_append : w.walk l (ps ++ qs) = w.walk l ps >>= fun l ↦ w.walk l qs := by
  rw [walk, List.map_append, List.foldlM_append]
  rfl

theorem walk_singleton (piece : List Char) :
    w.walk l [piece] = w.enter l (String.ofList piece) := by
  rw [walk_cons]
  cases w.enter l (String.ofList piece) <;> rfl

theorem locate_eq_ok_iff : w.locate p = .ok l ↔ p ≠ "" ∧ w.reach p = .ok l := by
  have hpieces : ((Text.splitAt ['/'] p.toList).map String.ofList).foldlM w.enter
      (if Path.isAbsolute p then [] else w.cwd) = w.reach p := by
    rw [Text.splitAt_singleton]
    rfl
  rw [locate, hpieces]
  by_cases hp : p = ""
  · simp [hp]
  · simp [hp]

theorem lookup?_of_enter {piece : String} (h : w.enter l piece = .ok l') :
    w.tree.lookup? l = some .directory := by
  rw [enter] at h
  split at h
  · cases h
  · cases h
  · assumption

/-- A piece that names nothing leads from a directory to itself. -/
theorem enter_empty (h : w.tree.lookup? l = some .directory) : w.enter l "" = .ok l := by
  rw [enter, h]
  rfl

end Workspace

/-- A name that an entry of a directory can have. -/
def Path.IsName (name : String) : Prop :=
  name ≠ "" ∧ name ≠ "." ∧ name ≠ ".." ∧ '/' ∉ name.toList

instance (name : String) : Decidable (Path.IsName name) :=
  inferInstanceAs (Decidable (_ ∧ _ ∧ _ ∧ _))

namespace Workspace

variable {w w' : Workspace} {l l' : Location} {d p q name : String} {ps : List (List Char)}

theorem enter_eq_ok_iff (hname : Path.IsName name) :
    w.enter l name = .ok l' ↔ w.tree.lookup? l = some .directory ∧ l' = l ++ [name] := by
  obtain ⟨hempty, hdot, hdots, -⟩ := hname
  rw [enter]
  cases w.tree.lookup? l with
  | none => simp
  | some e =>
    cases e with
    | file c => simp
    | directory => simp [hempty, hdot, hdots, eq_comm]

/-- A name in a directory leads one step further than the directory. -/
theorem locate_join_eq_ok_iff (hname : Path.IsName name) :
    w.locate (Path.join d name) = .ok l ↔
      ∃ l₀, w.reach d = .ok l₀ ∧ w.tree.lookup? l₀ = some .directory ∧ l = l₀ ++ [name] := by
  obtain ⟨front, hjoin, habs, hd⟩ := Path.pieces_join hname.2.2.2 d
  have hne : Path.join d name ≠ "" := by
    intro h
    rw [h] at hjoin
    have hpieces : front ++ [name.toList] = [] ++ [[]] := hjoin.symm
    obtain ⟨-, hlast⟩ := List.append_inj' hpieces rfl
    exact hname.1 (String.toList_eq_nil_iff.mp (List.cons.inj hlast).1)
  have hreach : w.reach (Path.join d name) =
      w.walk (w.start d) front >>= fun l₀ ↦ w.enter l₀ name := by
    rw [reach, start, habs, hjoin, walk_append]
    simp only [walk_singleton, String.ofList_toList]
    rfl
  rw [locate_eq_ok_iff, hreach, Steps.bind_eq_ok_iff, and_iff_right hne]
  refine exists_congr fun l₀ ↦ ?_
  rw [enter_eq_ok_iff hname]
  rcases hd with hd | hd
  · rw [reach, hd]
  · rw [reach, hd, walk_append, Steps.bind_eq_ok_iff]
    constructor
    · rintro ⟨hwalk, hdir, rfl⟩
      exact ⟨⟨l₀, hwalk, by rw [walk_singleton]; exact enter_empty hdir⟩, hdir, rfl⟩
    · rintro ⟨⟨l₁, hwalk, hlast⟩, hdir, rfl⟩
      rw [walk_singleton] at hlast
      have hl₁ := enter_empty (lookup?_of_enter hlast)
      obtain rfl := Except.ok.inj (hl₁.symm.trans hlast)
      exact ⟨hwalk, hdir, rfl⟩

/-- What is listed of a directory are the names that lead to the directories in it. -/
theorem directoriesIn_of_locate (h : w.locate p = .ok l)
    (hdir : w.tree.lookup? l = some .directory) :
    ∃ names, w.directoriesIn p = .ok names ∧
      ∀ n, n ∈ names ↔ w.tree.lookup? (l ++ [n]) = some .directory := by
  rw [directoriesIn, h]
  refine ⟨_, Steps.bind_eq_ok_iff.mpr ⟨l, rfl, by rw [hdir]⟩, fun n ↦ ?_⟩
  rw [FileTree.lookup?_eq_some_iff (by simp), List.mem_filterMap]
  constructor
  · rintro ⟨⟨k, e⟩, hk, hname⟩
    cases e with
    | file content => cases hname
    | directory =>
      rcases List.eq_nil_or_concat k with rfl | ⟨above, last, rfl⟩
      · cases hname
      · rw [List.concat_eq_append] at hk hname
        simp only [List.getLast?_append, List.getLast?_singleton, Option.some_or,
          List.dropLast_concat, Option.ite_none_right_eq_some, Option.some.injEq] at hname
        obtain ⟨rfl, rfl⟩ := hname
        exact hk
  · intro hk
    exact ⟨(l ++ [n], .directory), hk, by simp⟩

/-! ## More directories -/

/-- What is a directory in the one tree is a directory in the other. -/
structure KeepsDirectories (w w' : Workspace) : Prop where
  cwd : w'.cwd = w.cwd
  directory : ∀ l, w.tree.lookup? l = some .directory → w'.tree.lookup? l = some .directory

theorem KeepsDirectories.enter (h : w.KeepsDirectories w') {piece : String}
    (hl : w.enter l piece = .ok l') : w'.enter l piece = .ok l' := by
  have hdir := lookup?_of_enter hl
  rw [Workspace.enter, hdir] at hl
  rw [Workspace.enter, h.directory l hdir]
  exact hl

theorem KeepsDirectories.walk (h : w.KeepsDirectories w') (hl : w.walk l ps = .ok l') :
    w'.walk l ps = .ok l' := by
  induction ps generalizing l with
  | nil => exact hl
  | cons piece ps ih =>
    rw [walk_cons, Steps.bind_eq_ok_iff] at hl ⊢
    obtain ⟨l₁, henter, hwalk⟩ := hl
    exact ⟨l₁, h.enter henter, ih hwalk⟩

theorem KeepsDirectories.start (h : w.KeepsDirectories w') (p : String) :
    w'.start p = w.start p := by
  rw [Workspace.start, Workspace.start, h.cwd]

theorem KeepsDirectories.reach (h : w.KeepsDirectories w') (hp : w.reach p = .ok l) :
    w'.reach p = .ok l := by
  rw [Workspace.reach, h.start]
  exact h.walk hp

theorem KeepsDirectories.locate (h : w.KeepsDirectories w') (hp : w.locate p = .ok l) :
    w'.locate p = .ok l := by
  obtain ⟨hne, hreach⟩ := locate_eq_ok_iff.mp hp
  exact locate_eq_ok_iff.mpr ⟨hne, h.reach hreach⟩

/-! ## Going up -/

/-- What is on the way of a path is led to by the first of its pieces. -/
theorem walk_of_isOnWay (hq : Path.IsOnWay q d) (h : w.locate q = .ok l) :
    ∃ front, front <+: Path.pieces d ∧ w.walk (w.start d) front = .ok l := by
  obtain ⟨hne, hreach⟩ := locate_eq_ok_iff.mp h
  rcases hq with rfl | ⟨rfl, habs⟩ | ⟨habs, hprefix⟩
  · exact absurd rfl hne
  · refine ⟨[], List.nil_prefix, ?_⟩
    have hroot : w.reach "/" = .ok [] := rfl
    rw [start, habs, if_pos rfl, ← hreach, hroot]
    rfl
  · refine ⟨Path.pieces q, hprefix, ?_⟩
    rw [start, ← habs]
    exact hreach

/-- The parent of whatever a path leads to is there. -/
theorem locate_of_parent? (hq : Path.parent? p = some q) (hne : q ≠ "") (h : w.locate p = .ok l) :
    ∃ l₀, w.locate q = .ok l₀ ∧ w.tree.lookup? l₀ = some .directory := by
  obtain ⟨-, hreach⟩ := locate_eq_ok_iff.mp h
  rcases Path.parent?_cases hq with rfl | ⟨rfl, -⟩ | ⟨habs, rest, hrest, hpieces⟩
  · exact absurd rfl hne
  · exact ⟨[], rfl, rfl⟩
  · obtain ⟨piece, rest, rfl⟩ := List.exists_cons_of_ne_nil hrest
    rw [reach, hpieces, walk_append, Steps.bind_eq_ok_iff] at hreach
    obtain ⟨l₀, hwalk, hlast⟩ := hreach
    rw [walk_cons, Steps.bind_eq_ok_iff] at hlast
    obtain ⟨l₁, henter, -⟩ := hlast
    refine ⟨l₀, locate_eq_ok_iff.mpr ⟨hne, ?_⟩, lookup?_of_enter henter⟩
    rw [reach, start, habs]
    exact hwalk

end Workspace

end VersionedSite
