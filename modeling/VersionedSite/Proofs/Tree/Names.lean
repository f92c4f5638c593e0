import VersionedSite.Proofs.Tree.Walking

/-!
# Paths by their names

Some pieces of a path name nothing, and where a path leads to is decided by those that do. The
parent of a path is its text cut short by the last name. Going up from a file, and up once more
from the directory that is left, leads from the directory of the file to the one above it; at the
root and at the empty path there is none. Only a directory that is written as a point is left for
the same directory, which is then the empty path.
-/

namespace VersionedSite

namespace Path

/-! ## Names -/

theorem isSilent_iff {piece : List Char} : isSilent piece = true ↔ piece = [] ∨ piece = ['.'] := by
  rw [isSilent, Bool.or_eq_true, List.isEmpty_iff, beq_iff_eq]

theorem isSilent_eq_decide (piece : List Char) :
    isSilent piece = (String.ofList piece = "" || String.ofList piece = ".") := by
  rw [Bool.eq_iff_iff, isSilent_iff, Bool.or_eq_true, decide_eq_true_iff, decide_eq_true_iff,
    ← String.toList_inj, ← String.toList_inj, String.toList_ofList]
  rfl

/-- The names among pieces. -/
def namesOf (ps : List (List Char)) : List String := (ps.filter (!isSilent ·)).map String.ofList

/-- The names on a path. -/
def names (p : String) : List String := namesOf (pieces p)

theorem namesOf_append (ps qs : List (List Char)) :
    namesOf (ps ++ qs) = namesOf ps ++ namesOf qs := by
  rw [namesOf, List.filter_append, List.map_append]
  rfl

theorem namesOf_cons_of_isSilent {piece : List Char} (h : isSilent piece = true)
    (ps : List (List Char)) : namesOf (piece :: ps) = namesOf ps := by
  rw [namesOf, List.filter_cons_of_neg (by simp [h])]
  rfl

theorem namesOf_cons_of_not_isSilent {piece : List Char} (h : isSilent piece = false)
    (ps : List (List Char)) : namesOf (piece :: ps) = String.ofList piece :: namesOf ps := by
  rw [namesOf, List.filter_cons_of_pos (by simp [h])]
  rfl

theorem namesOf_reverse_dropSilent (ps : List (List Char)) :
    namesOf (dropSilent ps).reverse = namesOf ps.reverse := by
  induction ps with
  | nil => rfl
  | cons p ps ih =>
    cases ps with
    | nil => rfl
    | cons q ps =>
      rw [dropSilent]
      split
      · next hp =>
        have hnone : namesOf [p] = [] := namesOf_cons_of_isSilent hp []
        rw [ih, List.reverse_cons (a := p), namesOf_append, hnone, List.append_nil]
      · rfl

/-- What is left begins with a piece that names something, or is a single piece. -/
theorem dropSilent_cases {ps : List (List Char)} (h : ps ≠ []) :
    (∃ p, dropSilent ps = [p]) ∨
      ∃ p q rest, dropSilent ps = p :: q :: rest ∧ isSilent p = false := by
  induction ps with
  | nil => exact absurd rfl h
  | cons p ps ih =>
    cases ps with
    | nil => exact .inl ⟨p, rfl⟩
    | cons q ps =>
      rw [dropSilent]
      split
      · exact ih (List.cons_ne_nil _ _)
      · next hp => exact .inr ⟨p, q, ps, rfl, Bool.eq_false_iff.mpr hp⟩

/-! ## Cutting -/

/-- A text is known by its pieces. -/
theorem toList_eq_intercalate (p : String) : p.toList = ['/'].intercalate (pieces p) :=
  (List.intercalate_splitOn '/').symm

theorem pieces_inj {p q : String} (h : pieces p = pieces q) : p = q := by
  rw [← String.toList_inj, toList_eq_intercalate, toList_eq_intercalate, h]

/-- `q` is the text of `p` as far as the names `above`. -/
structure Cut (q p : String) (above : List String) : Prop where
  begins : q.toList <+: p.toList
  absolute : isAbsolute q = isAbsolute p
  names_eq : names q = above

theorem Cut.refl (p : String) : Cut p p (names p) := ⟨List.prefix_refl _, rfl, rfl⟩

theorem Cut.trans {u q p : String} {above nearer : List String} (hu : Cut u q above)
    (hq : Cut q p nearer) : Cut u p above :=
  ⟨hu.begins.trans hq.begins, hu.absolute.trans hq.absolute, hu.names_eq⟩

/-- The text of the first pieces is the path as far as their names. Only the lone piece before the
slash of the root is no such text, because it would not be absolute. -/
theorem cut_of_pieces {p : String} {ps rest : List (List Char)} (hp : pieces p = ps ++ rest)
    (hne : ps ≠ []) (hroot : ps ≠ [[]]) :
    ∃ q, q = String.ofList (['/'].intercalate ps) ∧ pieces q = ps ∧ Cut q p (namesOf ps) := by
  have hslash : ∀ piece ∈ ps ++ rest, '/' ∉ piece := fun piece hpiece ↦
    not_mem_of_mem_pieces (hp ▸ hpiece)
  have hq := pieces_ofList_intercalate hne fun piece hpiece ↦
    hslash piece (List.mem_append_left _ hpiece)
  refine ⟨_, rfl, hq, ?_, ?_, congrArg namesOf hq⟩
  · by_cases hrest : rest = []
    · rw [hrest, List.append_nil] at hp
      exact pieces_inj (hp.trans hq.symm) ▸ List.prefix_refl _
    · have htext : p = String.ofList (['/'].intercalate ps) ++ "/" ++
          String.ofList (['/'].intercalate rest) := by
        apply pieces_inj
        rw [pieces_append, hq, hp, pieces_ofList_intercalate hrest fun piece hpiece ↦
          hslash piece (List.mem_append_right _ hpiece)]
      rw [htext, String.toList_append, String.toList_append, List.append_assoc]
      exact List.prefix_append _ _
  · obtain ⟨first, others, rfl⟩ := List.exists_cons_of_ne_nil hne
    rw [Bool.eq_iff_iff, isAbsolute_iff hq, isAbsolute_iff hp]
    refine and_congr_right fun hfirst ↦ ?_
    have hothers : others ≠ [] := fun hothers ↦ hroot (by rw [hfirst, hothers])
    exact iff_of_true hothers (by simp [hothers])

/-- The text of pieces, last one first, without those at their end that name nothing. -/
def upTo (absolute : Bool) (before : List (List Char)) : String :=
  if dropSilent before = [[]] then if absolute then "/" else ""
  else String.ofList (['/'].intercalate (dropSilent before).reverse)

theorem parent?_eq (p : String) : parent? p =
    match dropSilent (pieces p).reverse with
    | [] => none
    | [last] => if last.isEmpty then none else some ""
    | _ :: before => some (upTo (isAbsolute p) before) := by
  rw [parent?, Text.splitAt_singleton, pieces]
  rcases dropSilent (p.toList.splitOn '/').reverse with _ | ⟨last, _ | ⟨x, before⟩⟩
  · rfl
  · rfl
  · dsimp only
    rw [upTo]
    split
    · next h => rw [if_pos h]
    · next h => rw [if_neg h, Text.join_eq_intercalate]

/-- A path that ends with a name or is the shortest to where it leads. -/
def IsTrimmed (p : String) : Prop :=
  p = "" ∨ p = "/" ∨ p = "." ∨ ∃ front last, pieces p = front ++ [last] ∧ isSilent last = false

theorem isTrimmed_of_pieces {q : String} {ps : List (List Char)} (hps : ps ≠ [])
    (hroot : dropSilent ps ≠ [[]]) (hq : pieces q = (dropSilent ps).reverse) : IsTrimmed q := by
  rcases dropSilent_cases hps with ⟨piece, hpiece⟩ | ⟨last, next, rest, hlast, hnamed⟩
  · rw [hpiece, List.reverse_singleton] at hq
    cases hsilent : isSilent piece with
    | false => exact .inr (.inr (.inr ⟨[], piece, hq, hsilent⟩))
    | true =>
      rcases isSilent_iff.mp hsilent with rfl | rfl
      · exact absurd hpiece hroot
      · have hpoint : pieces "." = [['.']] := by decide
        exact .inr (.inr (.inl (pieces_inj (hq.trans hpoint.symm))))
  · rw [hlast, List.reverse_cons] at hq
    exact .inr (.inr (.inr ⟨_, last, hq, hnamed⟩))

/-- The text of the first pieces, without those at their end that name nothing, is the path as far
as their names. -/
theorem cut_upTo {p : String} {front rest : List (List Char)} (hp : pieces p = front ++ rest)
    (hne : front ≠ []) :
    Cut (upTo (isAbsolute p) front.reverse) p (namesOf front) ∧
      IsTrimmed (upTo (isAbsolute p) front.reverse) := by
  have hrev : front.reverse ≠ [] := by simpa using hne
  have hnames := namesOf_reverse_dropSilent front.reverse
  rw [List.reverse_reverse] at hnames
  rw [upTo, ← hnames]
  by_cases hroot : dropSilent front.reverse = [[]]
  · rw [if_pos hroot, hroot]
    cases habs : isAbsolute p with
    | false => exact ⟨⟨List.nil_prefix, habs.symm, rfl⟩, .inl rfl⟩
    | true =>
      obtain ⟨cs, hcs⟩ := List.head?_eq_some_iff.mp (beq_iff_eq.mp habs)
      exact ⟨⟨hcs ▸ List.prefix_append ['/'] cs, habs.symm, rfl⟩, .inr (.inl rfl)⟩
  · obtain ⟨dropped, hdropped⟩ := dropSilent_suffix front.reverse
    have hsplit : front = (dropSilent front.reverse).reverse ++ dropped.reverse := by
      rw [← List.reverse_append, hdropped, List.reverse_reverse]
    have hleft : (dropSilent front.reverse).reverse ≠ [] := by simpa using dropSilent_ne_nil hrev
    have hlong : (dropSilent front.reverse).reverse ≠ [[]] := by
      rwa [ne_eq, ← List.reverse_singleton, List.reverse_inj]
    rw [hsplit, List.append_assoc] at hp
    obtain ⟨q, hq, hpieces, hcut⟩ := cut_of_pieces hp hleft hlong
    rw [if_neg hroot, ← hq]
    exact ⟨hcut, isTrimmed_of_pieces hrev hroot hpieces⟩

/-! ## Going up -/

theorem pop_of_pieces {p : String} {front : List (List Char)} {last : List Char}
    (hp : pieces p = front ++ [last]) (hlast : isSilent last = false) :
    pop p = (if front = [] then "" else upTo (isAbsolute p) front.reverse, true) := by
  rw [pop, parent?_eq, hp, List.reverse_concat]
  rcases List.eq_nil_or_concat front with rfl | ⟨above, next, rfl⟩
  · have hne : last.isEmpty = false := by
      rw [isSilent, Bool.or_eq_false_iff] at hlast
      exact hlast.1
    simp only [List.reverse_nil, dropSilent, hne, Bool.false_eq_true, if_false, if_true]
  · rw [if_neg (by simp), List.concat_eq_append, List.reverse_concat, dropSilent,
      if_neg (by simp [hlast])]

theorem isSilent_of_isName {name : String} (h : IsName name) : isSilent name.toList = false := by
  rw [Bool.eq_false_iff, ne_eq, isSilent_iff]
  rintro (hempty | hpoint)
  · exact h.1 (String.toList_eq_nil_iff.mp hempty)
  · exact h.2.1 (String.toList_injective hpoint)

/-- Going up from a file leads to its directory, in its shortest form. -/
theorem pop_join {name : String} (hname : IsName name) (d : String) :
    ∃ e, pop (join d name) = (e, true) ∧ Cut e d (names d) ∧ IsTrimmed e := by
  obtain ⟨front, hjoin, habs, hd⟩ := pieces_join hname.2.2.2 d
  have hends : ∃ rest, pieces d = front ++ rest ∧ namesOf rest = [] := by
    rcases hd with hd | hd
    · exact ⟨[], by rw [hd, List.append_nil], rfl⟩
    · exact ⟨[[]], hd, rfl⟩
  obtain ⟨rest, hrest, hsilent⟩ := hends
  have hnames : names d = namesOf front := by
    rw [names, hrest, namesOf_append, hsilent, List.append_nil]
  refine ⟨_, pop_of_pieces hjoin (isSilent_of_isName hname), ?_⟩
  by_cases hfront : front = []
  · have hempty : d = "" := by
      subst hfront
      exact pieces_inj (hd.resolve_left (List.splitOnP_ne_nil _ _))
    subst hempty
    rw [if_pos hfront]
    exact ⟨⟨List.nil_prefix, rfl, rfl⟩, .inl rfl⟩
  · rw [if_neg hfront, habs, hnames]
    exact cut_upTo hrest hfront

/-- Going up from a directory in its shortest form leads one name up. -/
theorem pop_of_isTrimmed {e : String} (he : IsTrimmed e) :
    (names e = [] ∧ pop e = (e, false)) ∨
      ∃ u, pop e = (u, true) ∧ Cut u e (names e).dropLast ∧ u.length < e.length := by
  rcases he with rfl | rfl | rfl | ⟨front, last, hlast, hnamed⟩
  · exact .inl ⟨rfl, by decide⟩
  · exact .inl ⟨by decide, by decide⟩
  · exact .inr ⟨"", by decide, ⟨List.nil_prefix, by decide, by decide⟩, by decide⟩
  have hnames : names e = namesOf front ++ [String.ofList last] := by
    rw [names, hlast, namesOf_append, namesOf_cons_of_not_isSilent hnamed]
    rfl
  have hcut : Cut (if front = [] then "" else upTo (isAbsolute e) front.reverse) e
      (names e).dropLast := by
    rw [hnames, List.dropLast_concat]
    by_cases hfront : front = []
    · have hrelative : isAbsolute e = false := by
        subst hfront
        exact Bool.eq_false_iff.mpr fun habs ↦ ((isAbsolute_iff hlast).mp habs).2 rfl
      rw [if_pos hfront, hfront]
      exact ⟨List.nil_prefix, hrelative.symm, rfl⟩
    · rw [if_neg hfront]
      exact (cut_upTo hlast hfront).1
  refine .inr ⟨_, pop_of_pieces hlast hnamed, hcut, ?_⟩
  generalize (if front = [] then "" else upTo (isAbsolute e) front.reverse) = u at hcut
  -- a text of the same length would have the same names
  rw [← String.length_toList, ← String.length_toList]
  refine Nat.lt_of_le_of_ne hcut.begins.length_le fun hlength ↦ ?_
  have heq := hcut.names_eq
  rw [String.toList_injective (hcut.begins.eq_of_length hlength), hnames,
    List.dropLast_concat] at heq
  simpa using congrArg List.length heq

theorem IsTrimmed.eq_point {e : String} (he : IsTrimmed e) (hne : e ≠ "")
    (hrelative : isAbsolute e = false) (hnames : names e = []) : e = "." := by
  rcases he with hempty | hroot | hpoint | ⟨front, last, hlast, hnamed⟩
  · exact absurd hempty hne
  · rw [hroot] at hrelative
    cases hrelative
  · exact hpoint
  · rw [names, hlast, namesOf_append, namesOf_cons_of_not_isSilent hnamed] at hnames
    exact absurd (List.append_eq_nil_iff.mp hnames).2 (List.cons_ne_nil _ _)

/-- **Up from a file and up once more leads one name up**, by less text; without a name, either
there is no way up, or it leads to a shorter text of the same place. -/
theorem pop_pop_join {name : String} (hname : IsName name) (d : String) :
    (names d = [] ∧ (pop (pop (join d name)).1).2 = false) ∨
      ∃ u, pop (pop (join d name)).1 = (u, true) ∧ Cut u d (names d).dropLast ∧
        u.length < d.length := by
  obtain ⟨e, hpop, hcut, htrimmed⟩ := pop_join hname d
  rw [hpop]
  rcases pop_of_isTrimmed htrimmed with ⟨hnames, htop⟩ | ⟨u, hup, hshorter, hlength⟩
  · exact .inl ⟨hcut.names_eq ▸ hnames, by rw [htop]⟩
  · rw [hcut.names_eq] at hshorter
    refine .inr ⟨u, hup, hshorter.trans hcut, Nat.lt_of_lt_of_le hlength ?_⟩
    rw [← String.length_toList, ← String.length_toList]
    exact hcut.begins.length_le

end Path

/-! ## Where names lead -/

namespace Workspace

variable {w : Workspace} {l l' : Location} {d e : String}

/-- The names lead from directory to directory, the last of them too. -/
def Leads (w : Workspace) (l : Location) (names : List String) : Prop :=
  ∀ above, above <+: names → w.tree.lookup? (l ++ above) = some .directory

theorem Leads.directory {names : List String} (h : w.Leads l names) :
    w.tree.lookup? l = some .directory := by
  simpa using h [] List.nil_prefix

theorem leads_cons_iff {name : String} {names : List String} :
    w.Leads l (name :: names) ↔
      w.tree.lookup? l = some .directory ∧ w.Leads (l ++ [name]) names := by
  constructor
  · intro h
    refine ⟨h.directory, fun above habove ↦ ?_⟩
    simpa using h (name :: above) (List.cons_prefix_cons.mpr ⟨rfl, habove⟩)
  · rintro ⟨hl, h⟩ above habove
    rcases above with _ | ⟨first, above⟩
    · simpa using hl
    · obtain ⟨rfl, hrest⟩ := List.cons_prefix_cons.mp habove
      simpa using h above hrest

/-- A piece that names nothing leads from a directory to itself. -/
theorem enter_of_isSilent {piece : List Char} (h : Path.isSilent piece = true) :
    w.enter l (String.ofList piece) = .ok l' ↔ w.tree.lookup? l = some .directory ∧ l = l' := by
  rw [Path.isSilent_eq_decide] at h
  rw [enter]
  cases w.tree.lookup? l with
  | none => simp
  | some entry =>
    cases entry with
    | file content => simp
    | directory => rw [if_pos h]; simp

theorem enter_of_not_isSilent {piece : List Char} (h : Path.isSilent piece = false)
    (hup : ".." ≠ String.ofList piece) : w.enter l (String.ofList piece) = .ok l' ↔
      w.tree.lookup? l = some .directory ∧ l ++ [String.ofList piece] = l' := by
  rw [Path.isSilent_eq_decide] at h
  rw [enter]
  cases w.tree.lookup? l with
  | none => simp
  | some entry =>
    cases entry with
    | file content => simp
    | directory => rw [if_neg (by rw [h]; exact Bool.false_ne_true), if_neg hup.symm]; simp

/-- Pieces lead to a directory if and only if their names do. -/
theorem walk_directory_iff {ps : List (List Char)} (hup : ".." ∉ Path.namesOf ps) :
    (w.walk l ps = .ok l' ∧ w.tree.lookup? l' = some .directory) ↔
      w.Leads l (Path.namesOf ps) ∧ l ++ Path.namesOf ps = l' := by
  induction ps generalizing l with
  | nil =>
    have hwalk : w.walk l [] = .ok l' ↔ l = l' := ⟨Except.ok.inj, congrArg _⟩
    have hleads : w.Leads l [] ↔ w.tree.lookup? l = some .directory :=
      ⟨Leads.directory, fun h above habove ↦ by rwa [List.prefix_nil.mp habove, List.append_nil]⟩
    rw [hwalk, Path.namesOf, List.filter_nil, List.map_nil, hleads, List.append_nil, and_comm]
    exact and_congr_left fun heq ↦ by rw [heq]
  | cons piece ps ih =>
    rw [walk_cons, Steps.bind_eq_ok_iff]
    cases hsilent : Path.isSilent piece with
    | true =>
      rw [Path.namesOf_cons_of_isSilent hsilent] at hup ⊢
      simp only [enter_of_isSilent hsilent, and_assoc, exists_and_left, exists_eq_left', ih hup]
      exact and_iff_right_of_imp fun h ↦ h.1.directory
    | false =>
      rw [Path.namesOf_cons_of_not_isSilent hsilent] at hup ⊢
      obtain ⟨hpiece, hrest⟩ := not_or.mp (mt List.mem_cons.mpr hup)
      simp only [enter_of_not_isSilent hsilent hpiece, and_assoc, exists_and_left,
        exists_eq_left', ih hrest, leads_cons_iff, List.append_assoc, List.singleton_append]

theorem locate_of_leads {p : String} (hp : p ≠ "") (hup : ".." ∉ Path.names p)
    (h : w.Leads (w.start p) (Path.names p)) :
    w.locate p = .ok (w.start p ++ Path.names p) :=
  locate_eq_ok_iff.mpr ⟨hp, ((walk_directory_iff hup).mpr ⟨h, rfl⟩).1⟩

theorem start_congr (h : Path.isAbsolute e = Path.isAbsolute d) : w.start e = w.start d := by
  rw [start, start, h]

/-- A file is where the names on the way to its directory lead. -/
theorem locate_join_iff_leads {name : String} (hname : Path.IsName name)
    (hup : ".." ∉ Path.names d) : w.locate (Path.join d name) = .ok l ↔
      w.Leads (w.start d) (Path.names d) ∧ l = w.start d ++ Path.names d ++ [name] := by
  rw [locate_join_eq_ok_iff hname]
  simp only [reach, ← and_assoc, walk_directory_iff hup]
  constructor
  · rintro ⟨l₀, ⟨hleads, rfl⟩, rfl⟩
    exact ⟨hleads, rfl⟩
  · rintro ⟨hleads, rfl⟩
    exact ⟨_, ⟨hleads, rfl⟩, rfl⟩

end Workspace

end VersionedSite
