import VersionedSite.FileTree
import VersionedSite.Proofs.Text.Affix

/-!
# Paths by their pieces

A path leads somewhere by the pieces between its slashes, one after the other. What is done to the
text of a path, joining it with a name and going up to its parent, is said here of the pieces: a
name is one more piece, and a parent has fewer of them.
-/

namespace VersionedSite

/-! ## Splitting at one character -/

namespace Text

theorem cutAt?_singleton (c : Char) (s : List Char) :
    (cutAt? [c] s = none ∧ c ∉ s) ∨
      ∃ before rest, cutAt? [c] s = some (before, rest) ∧ s = before ++ c :: rest ∧ c ∉ before := by
  induction s with
  | nil => exact .inl ⟨rfl, List.not_mem_nil⟩
  | cons d s ih =>
    rw [cutAt?]
    by_cases hd : c = d
    · subst hd
      have hdrop : dropStart? [c] (c :: s) = some s := dropStart?_append [c] s
      rw [hdrop]
      exact .inr ⟨[], s, rfl, rfl, List.not_mem_nil⟩
    · have hdrop : dropStart? [c] (d :: s) = none := by rw [dropStart?, if_neg hd]
      rw [hdrop]
      rcases ih with ⟨hcut, hs⟩ | ⟨before, rest, hcut, rfl, hbefore⟩
      · exact .inl ⟨by rw [hcut]; rfl, by simp [hd, hs]⟩
      · exact .inr ⟨d :: before, rest, by rw [hcut]; rfl, rfl, by simp [hd, hbefore]⟩

theorem splitFuel_singleton {c : Char} {fuel : Nat} {s : List Char} (h : s.length < fuel) :
    splitFuel [c] fuel s = s.splitOn c := by
  induction fuel generalizing s with
  | zero => omega
  | succ fuel ih =>
    have hne {p : List Char} (hp : c ∉ p) : ∀ x ∈ p, (x == c) = false := by
      intro x hx
      exact beq_eq_false_iff_ne.mpr fun hxc ↦ hp (hxc ▸ hx)
    rw [splitFuel]
    rcases cutAt?_singleton c s with ⟨hcut, hs⟩ | ⟨before, rest, hcut, rfl, hbefore⟩
    · rw [hcut]
      exact (List.splitOnP_eq_singleton (hne hs)).symm
    · rw [hcut]
      have hrest : rest.length < fuel := by
        rw [List.length_append, List.length_cons] at h
        omega
      show before :: splitFuel [c] fuel rest = _
      rw [ih hrest]
      exact (List.splitOnP_append_cons_of_forall_mem (hne hbefore) c (beq_self_eq_true c) rest).symm

/-- What is split at a character has none of it in its pieces. -/
theorem not_mem_of_mem_splitOn {c : Char} {s p : List Char} (h : p ∈ s.splitOn c) : c ∉ p := by
  induction s generalizing p with
  | nil =>
    rw [List.splitOn_nil, List.mem_singleton] at h
    rw [h]
    exact List.not_mem_nil
  | cons d s ih =>
    rw [List.splitOn_eq_splitOnP, List.splitOnP_cons_eq_if_modifyHead] at h
    by_cases hd : (d == c) = true
    · rw [if_pos hd] at h
      rcases List.mem_cons.mp h with rfl | h
      · exact List.not_mem_nil
      · exact ih h
    · rw [if_neg hd] at h
      obtain ⟨q, qs, hs⟩ := List.exists_cons_of_ne_nil (List.splitOnP_ne_nil (· == c) s)
      rw [hs, List.modifyHead_cons] at h
      have hq : ∀ p ∈ q :: qs, c ∉ p := by
        intro p hp
        rw [← hs] at hp
        exact ih hp
      rcases List.mem_cons.mp h with rfl | h
      · have hc : c ≠ d := fun hc ↦ hd (beq_iff_eq.mpr hc.symm)
        simp [hc, hq q List.mem_cons_self]
      · exact hq p (List.mem_cons_of_mem _ h)

theorem splitAt_singleton (c : Char) (s : List Char) : splitAt [c] s = s.splitOn c := by
  rw [splitAt]
  exact splitFuel_singleton (Nat.lt_succ_self _)

theorem join_eq_intercalate (sep : List Char) (ps : List (List Char)) :
    join sep ps = sep.intercalate ps := by
  induction ps with
  | nil => rfl
  | cons p ps ih =>
    cases ps with
    | nil => simp [join]
    | cons q ps => rw [join, ih, List.intercalate_cons_cons]

end Text

namespace Path

/-! ## Pieces -/

/-- The pieces of a path between its slashes, the empty ones among them. -/
def pieces (p : String) : List (List Char) := p.toList.splitOn '/'

theorem not_mem_of_mem_pieces {p : String} {piece : List Char} (h : piece ∈ pieces p) :
    '/' ∉ piece := Text.not_mem_of_mem_splitOn h

/-- Pieces without slashes are those of the text that they make up. -/
theorem pieces_ofList_intercalate {ps : List (List Char)} (hne : ps ≠ [])
    (hps : ∀ piece ∈ ps, '/' ∉ piece) : pieces (String.ofList (['/'].intercalate ps)) = ps := by
  rw [pieces, String.toList_ofList]
  exact List.splitOn_intercalate '/' hps hne

theorem pieces_of_not_mem {name : String} (h : '/' ∉ name.toList) :
    pieces name = [name.toList] := by
  refine List.splitOnP_eq_singleton fun x hx ↦ ?_
  exact beq_eq_false_iff_ne.mpr fun hxc ↦ h (hxc ▸ hx)

/-- A path is absolute if its first piece is empty and not all of it. -/
theorem isAbsolute_iff {p : String} {first : List Char} {rest : List (List Char)}
    (h : pieces p = first :: rest) : isAbsolute p = true ↔ first = [] ∧ rest ≠ [] := by
  have htext : p.toList = ['/'].intercalate (first :: rest) := by
    rw [← h]
    exact (List.intercalate_splitOn '/').symm
  have hfirst : '/' ∉ first := not_mem_of_mem_pieces (h ▸ List.mem_cons_self)
  rw [isAbsolute, htext]
  cases rest with
  | nil =>
    rw [List.intercalate_singleton]
    cases first with
    | nil => simp
    | cons c first => simpa using fun hc : c = '/' ↦ hfirst (hc ▸ List.mem_cons_self)
  | cons q qs =>
    rw [List.intercalate_cons_cons]
    cases first with
    | nil => simp
    | cons c first => simpa using fun hc : c = '/' ↦ hfirst (hc ▸ List.mem_cons_self)

/-! ## Joining -/

theorem isAbsolute_append {d : String} (h : d ≠ "") (t : String) :
    isAbsolute (d ++ t) = isAbsolute d := by
  rw [isAbsolute, isAbsolute, String.toList_append]
  cases hd : d.toList with
  | nil => exact absurd (String.toList_eq_nil_iff.mp hd) h
  | cons c cs => rfl

theorem pieces_append (d t : String) : pieces (d ++ "/" ++ t) = pieces d ++ pieces t := by
  have htext : (d ++ "/" ++ t).toList = d.toList ++ '/' :: t.toList := by simp
  rw [pieces, htext]
  exact List.splitOnP_append_cons _ _ (beq_self_eq_true '/')

theorem isAbsolute_of_not_mem {name : String} (h : '/' ∉ name.toList) :
    isAbsolute name = false := by
  rw [isAbsolute, beq_eq_false_iff_ne]
  exact fun hhead ↦ h (List.mem_of_head? hhead)

/-- Joining with a name puts one piece more behind those of the path, where an empty piece at their
end gives way. -/
theorem pieces_join {name : String} (hname : '/' ∉ name.toList) (d : String) :
    ∃ front, pieces (join d name) = front ++ [name.toList] ∧
      isAbsolute (join d name) = isAbsolute d ∧
      (pieces d = front ∨ pieces d = front ++ [[]]) := by
  have hrelative := isAbsolute_of_not_mem hname
  rw [join, hrelative]
  by_cases hd : d = ""
  · subst hd
    have hempty : isAbsolute "" = false := rfl
    exact ⟨[], by simpa using pieces_of_not_mem hname, by simpa [hempty] using hrelative, .inr rfl⟩
  by_cases hslash : d.toList.getLast? = some '/'
  · obtain ⟨init, hinit⟩ := List.getLast?_eq_some_iff.mp hslash
    have htext : d = String.ofList init ++ "/" := by
      rw [← String.toList_inj, hinit]
      simp
    refine ⟨pieces (String.ofList init), ?_, ?_, .inr ?_⟩
    · rw [← pieces_of_not_mem hname, ← pieces_append, ← htext]
      simp [hslash]
    · simpa [hslash] using isAbsolute_append hd name
    · have hempty : pieces "" = [[]] := rfl
      rw [← hempty, ← pieces_append, ← htext]
      simp
  · refine ⟨pieces d, ?_, ?_, .inl rfl⟩
    · rw [← pieces_of_not_mem hname, ← pieces_append]
      simp [hd, hslash]
    · have happend : d ++ "/" ++ name = d ++ ("/" ++ name) := String.append_assoc
      rw [← isAbsolute_append hd ("/" ++ name), ← happend]
      simp [hd, hslash]

/-- A name is put behind the same text, whatever the name. -/
theorem exists_join_eq_append (d : String) :
    ∃ front, ∀ name : String, '/' ∉ name.toList → join d name = front ++ name := by
  by_cases hd : (d.isEmpty || d.toList.getLast? == some '/') = true
  · refine ⟨d, fun name hname ↦ ?_⟩
    simp only [join, isAbsolute_of_not_mem hname, hd, if_true, Bool.false_eq_true, if_false]
  · refine ⟨d ++ "/", fun name hname ↦ ?_⟩
    simp only [join, isAbsolute_of_not_mem hname, hd, Bool.false_eq_true, if_false]

/-- Two names in a directory are two paths. -/
theorem join_inj {m n d : String} (hm : '/' ∉ m.toList) (hn : '/' ∉ n.toList)
    (h : join d m = join d n) : m = n := by
  obtain ⟨front, hfront⟩ := exists_join_eq_append d
  rw [hfront m hm, hfront n hn] at h
  have hchars := congrArg String.toList h
  rw [String.toList_append, String.toList_append] at hchars
  exact String.toList_injective (List.append_cancel_left hchars)

/-! ## Going up -/

theorem dropSilent_suffix (ps : List (List Char)) : dropSilent ps <:+ ps := by
  induction ps with
  | nil => exact List.suffix_refl _
  | cons p ps ih =>
    cases ps with
    | nil => exact List.suffix_refl _
    | cons q ps =>
      rw [dropSilent]
      split
      · exact ih.trans (List.suffix_cons _ _)
      · exact List.suffix_refl _

theorem dropSilent_ne_nil {ps : List (List Char)} (h : ps ≠ []) : dropSilent ps ≠ [] := by
  induction ps with
  | nil => exact absurd rfl h
  | cons p ps ih =>
    cases ps with
    | nil => exact h
    | cons q ps =>
      rw [dropSilent]
      split
      · exact ih (List.cons_ne_nil _ _)
      · exact h

/-- The pieces that a parent is made of: all but the last ones. -/
theorem pieces_of_rest {p : String} {last : List Char} {before r : List (List Char)}
    (hp : last :: before <:+ (pieces p).reverse) (hr : r <:+ before) :
    ∃ rest, rest ≠ [] ∧ pieces p = r.reverse ++ rest := by
  obtain ⟨t, ht⟩ := hp
  obtain ⟨u, rfl⟩ := hr
  refine ⟨u.reverse ++ last :: t.reverse, by simp, ?_⟩
  rw [← List.reverse_reverse (pieces p), ← ht]
  simp

/-- The parent of a path is nothing, the root, or made of the first of its pieces. -/
theorem parent?_cases {p q : String} (h : parent? p = some q) :
    q = "" ∨ (q = "/" ∧ isAbsolute p = true) ∨
      (isAbsolute q = isAbsolute p ∧ ∃ rest, rest ≠ [] ∧ pieces p = pieces q ++ rest) := by
  rw [parent?, Text.splitAt_singleton] at h
  have hsuffix := dropSilent_suffix (pieces p).reverse
  rw [pieces] at hsuffix
  rcases hd : dropSilent (p.toList.splitOn '/').reverse with _ | ⟨last, _ | ⟨x, before⟩⟩
  · simp [hd] at h
  · simp only [hd, Option.ite_none_left_eq_some, Option.some.injEq] at h
    exact .inl h.2.symm
  · rw [hd] at hsuffix
    have hr := dropSilent_suffix (x :: before)
    have hne := dropSilent_ne_nil (List.cons_ne_nil x before)
    simp only [hd] at h
    split at h
    · have hq := Option.some.inj h
      cases habs : isAbsolute p <;> rw [habs] at hq
      · exact .inl hq.symm
      · exact .inr (.inl ⟨hq.symm, rfl⟩)
    · next hrest =>
      obtain rfl := Option.some.inj h
      rw [Text.join_eq_intercalate]
      obtain ⟨rest, hnil, hp⟩ := pieces_of_rest hsuffix hr
      generalize dropSilent (x :: before) = r at hrest hne hp
      have hq : pieces (String.ofList (['/'].intercalate r.reverse)) = r.reverse := by
        refine pieces_ofList_intercalate (by simpa using hne) fun piece hpiece ↦ ?_
        exact not_mem_of_mem_pieces (p := p) (hp ▸ List.mem_append_left _ hpiece)
      refine .inr (.inr ⟨?_, rest, hnil, by rw [hq, hp]⟩)
      obtain ⟨a, as, has⟩ := List.exists_cons_of_ne_nil (l := r.reverse) (by simpa using hne)
      have hpieces : pieces p = a :: (as ++ rest) := by rw [hp, has, List.cons_append]
      -- a lone empty piece would have been the root
      have hroot : a = [] → as ≠ [] := by
        rintro rfl rfl
        exact hrest (by simpa using congrArg List.reverse has)
      rw [Bool.eq_iff_iff, isAbsolute_iff (hq.trans has), isAbsolute_iff hpieces]
      have hlong : as ++ rest ≠ [] := by simp [hnil]
      exact and_congr_right fun ha ↦ iff_of_true (hroot ha) hlong

/-- A path is on the way of another if it leads nowhere, to the root, or through the first of the
other's pieces. -/
def IsOnWay (q p : String) : Prop :=
  q = "" ∨ (q = "/" ∧ isAbsolute p = true) ∨
    (isAbsolute q = isAbsolute p ∧ pieces q <+: pieces p)

/-- Going up stays on the way. -/
theorem IsOnWay.of_parent? {q q' p : String} (h : IsOnWay q p) (hq : parent? q = some q') :
    IsOnWay q' p := by
  rcases h with rfl | ⟨rfl, -⟩ | ⟨habs, hprefix⟩
  · have hnone : parent? "" = none := by decide
    exact absurd (hnone.symm.trans hq) (by simp)
  · have hnone : parent? "/" = none := by decide
    exact absurd (hnone.symm.trans hq) (by simp)
  · rcases parent?_cases hq with rfl | ⟨rfl, habs'⟩ | ⟨habs', rest, -, hpieces⟩
    · exact .inl rfl
    · exact .inr (.inl ⟨rfl, habs ▸ habs'⟩)
    · exact .inr (.inr ⟨habs'.trans habs, (hpieces ▸ List.prefix_append _ _).trans hprefix⟩)

/-- The parent of a file in a directory is on the way of the directory. -/
theorem isOnWay_of_parent?_join {name d q : String} (hname : '/' ∉ name.toList)
    (h : parent? (join d name) = some q) : IsOnWay q d := by
  obtain ⟨front, hjoin, habs, hd⟩ := pieces_join hname d
  have hfront : front <+: pieces d := by
    rcases hd with hd | hd
    · exact hd ▸ List.prefix_refl _
    · exact hd ▸ List.prefix_append _ _
  rcases parent?_cases h with rfl | ⟨rfl, habs'⟩ | ⟨habs', rest, hrest, hpieces⟩
  · exact .inl rfl
  · exact .inr (.inl ⟨rfl, habs ▸ habs'⟩)
  · obtain ⟨most, last, rfl⟩ := (List.eq_nil_or_concat rest).resolve_left hrest
    rw [hjoin, List.concat_eq_append, ← List.append_assoc] at hpieces
    obtain ⟨hmost, -⟩ := List.append_inj' hpieces rfl
    refine .inr (.inr ⟨habs'.trans habs, List.IsPrefix.trans ?_ hfront⟩)
    exact hmost ▸ List.prefix_append _ _

end Path

end VersionedSite
