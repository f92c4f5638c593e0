import VersionedSite.Proofs.Site.DocsAddress

/-!
# Joining paths

The prefix of a site is checked by what may not stand in it, and paths are joined to it as texts.
Behind both there is a list. A prefix is a slash and segments with a slash behind each, and of one
list of segments only; a path that is made like this itself is joined by appending its segments to
those of the prefix. So the joined path is a prefix again, and to join in two steps is to join once.

A path that is joined first loses the slashes in front of it, and nothing else. That is what makes
the seam harmless: the prefix ends with the only slash there, and a joined path is never read as a
host and a path on it.
-/

namespace VersionedSite

variable {segments more : List (List Char)} {segment x y : List Char} {p q rest tail : String}

/-! ## Segments of a prefix -/

/-- What may stand between two slashes of a path prefix. -/
structure IsPrefixSegment (segment : List Char) : Prop where
  isPathSegment : IsPathSegment segment
  allows : ∀ c ∈ segment, BaseUrl.Allows c

instance : DecidablePred IsPrefixSegment := fun segment ↦
  decidable_of_iff
    (IsPathSegment segment ∧ (segment.all fun c ↦ decide (BaseUrl.Allows c)) = true)
    ⟨fun ⟨hpath, hallows⟩ ↦ ⟨hpath, BaseUrl.allows_of_all hallows⟩, fun h ↦
      ⟨h.isPathSegment, List.all_eq_true.mpr fun c hc ↦ decide_eq_true (h.allows c hc)⟩⟩

/-- The text is made of the segments, with a slash behind each. -/
structure IsSlashed (segments : List (List Char)) (text : List Char) : Prop where
  isSegment : ∀ segment ∈ segments, IsPrefixSegment segment
  text_eq : text = slashed segments

theorem IsSlashed.append (hx : IsSlashed segments x) (hy : IsSlashed more y) :
    IsSlashed (segments ++ more) (x ++ y) := by
  refine ⟨fun segment h ↦ ?_, ?_⟩
  · rcases List.mem_append.mp h with h | h
    · exact hx.isSegment segment h
    · exact hy.isSegment segment h
  · rw [hx.text_eq, hy.text_eq, slashed_append]

/-- Segments are read back from their text, because the first slash ends the first of them. -/
theorem slashed_inj (hsegments : ∀ segment ∈ segments, '/' ∉ segment)
    (hmore : ∀ segment ∈ more, '/' ∉ segment) (h : slashed segments = slashed more) :
    segments = more := by
  induction segments generalizing more with
  | nil =>
    cases more with
    | nil => rfl
    | cons m more => simp at h
  | cons s segments ih =>
    cases more with
    | nil => simp at h
    | cons m more =>
      rw [List.forall_mem_cons] at hsegments hmore
      rw [slashed_cons, slashed_cons] at h
      obtain ⟨rfl, hrest⟩ := Text.eq_and_eq_of_cut_first hsegments.1 hmore.1 h
      rw [ih hsegments.2 hmore.2 hrest]

theorem IsSlashed.unique (h : IsSlashed segments x) (h' : IsSlashed more x) : segments = more :=
  slashed_inj (fun s hs ↦ (h.isSegment s hs).isPathSegment.2)
    (fun s hs ↦ (h'.isSegment s hs).isPathSegment.2) (h.text_eq.symm.trans h'.text_eq)

/-! ## What segments come to -/

theorem IsPrefixSegment.isPlain (h : IsPrefixSegment segment) : IsPlain segment :=
  isPlain_iff.mpr ⟨fun hdouble ↦ h.isPathSegment.2 (hdouble.subset List.mem_cons_self), h.allows⟩

theorem IsPrefixSegment.head?_ne (h : IsPrefixSegment segment) : segment.head? ≠ some '/' :=
  fun hslash ↦ h.isPathSegment.2 (List.mem_of_head? hslash)

theorem IsPrefixSegment.getLast?_ne (h : IsPrefixSegment segment) : segment.getLast? ≠ some '/' :=
  fun hslash ↦ h.isPathSegment.2 (List.mem_of_getLast? hslash)

/-- No flaw comes about where slashes are put in front of segments and behind them. -/
theorem IsSlashed.isPlain (h : IsSlashed segments x) : IsPlain ('/' :: x) := by
  obtain ⟨hsegments, rfl⟩ := h
  induction segments with
  | nil => exact isPlain_slash
  | cons segment segments ih =>
    obtain ⟨hsegment, hsegments⟩ := List.forall_mem_cons.mp hsegments
    -- each slash meets a segment on either side, and no segment has a slash at its ends
    have hfront : (segment ++ '/' :: slashed segments).head? ≠ some '/' := by
      rw [List.head?_append_of_ne_nil _ hsegment.isPathSegment.1]
      exact hsegment.head?_ne
    rw [slashed_cons, ← List.singleton_append]
    exact isPlain_slash.append
      (hsegment.isPlain.append (ih hsegments) fun hlast ↦ absurd hlast hsegment.getLast?_ne)
      fun _ ↦ hfront

theorem IsSlashed.getLast?_cons (h : IsSlashed segments x) :
    ('/' :: x).getLast? = some '/' := by
  obtain ⟨-, rfl⟩ := h
  induction segments with
  | nil => rfl
  | cons segment segments ih =>
    rw [slashed_cons, ← List.cons_append, List.getLast?_append, ih, Option.some_or]

/-! ## Path prefixes -/

/-- The text is a slash, and behind it the segments. -/
def IsPathPrefix (segments : List (List Char)) (s : String) : Prop :=
  ∃ text, s.toList = '/' :: text ∧ IsSlashed segments text

theorem IsPathPrefix.unique {s : String} (h : IsPathPrefix segments s) (h' : IsPathPrefix more s) :
    segments = more := by
  obtain ⟨x, hx, hsegments⟩ := h
  obtain ⟨y, hy, hmore⟩ := h'
  obtain rfl : x = y := (List.cons.inj (hx.symm.trans hy)).2
  exact hsegments.unique hmore

namespace BaseUrl

variable {b : BaseUrl}

/-- A text is a path prefix in one way at most, and is kept as it is. -/
theorem ofString_eq_ok_iff {s : String} : ofString s = .ok b ↔ b.text = s := by
  rw [ofString]
  constructor
  · intro h
    split at h
    · rw [Except.ok.injEq] at h
      rw [← h]
    · exact absurd h (by simp)
  · rintro rfl
    split
    · rfl
    · next hf => exact absurd (b.valid.symm.trans hf) (by simp)

theorem fault?_eq_none_iff_exists_isPathPrefix {s : String} :
    baseUrlFault? s = none ↔ ∃ segments, IsPathPrefix segments s := by
  constructor
  · intro h
    let b : BaseUrl := ⟨s, h⟩
    obtain ⟨segments, hsegments, htext⟩ := b.exists_toList_eq_segments
    refine ⟨segments, slashed segments, htext, fun segment hsegment ↦ ?_, rfl⟩
    refine ⟨hsegments segment hsegment, fun c hc ↦ b.allows_of_mem ?_⟩
    rw [htext, slashed]
    exact List.mem_cons_of_mem _
      (List.mem_flatMap.mpr ⟨segment, hsegment, List.mem_append_left _ hc⟩)
  · rintro ⟨segments, text, hs, hslashed⟩
    obtain ⟨hdouble, hallows⟩ := isPlain_iff.mp hslashed.isPlain
    rw [fault?_eq_none_iff, hs]
    refine ⟨rfl, hslashed.getLast?_cons, ?_, hallows⟩
    rw [Bool.eq_false_iff, ne_eq, Text.occurs_eq_true_iff]
    exact hdouble

theorem exists_ofString_iff {s : String} :
    (∃ b, ofString s = .ok b) ↔ ∃ segments, IsPathPrefix segments s := by
  rw [← fault?_eq_none_iff_exists_isPathPrefix]
  simp only [ofString_eq_ok_iff]
  constructor
  · rintro ⟨b, rfl⟩
    exact b.valid
  · intro h
    exact ⟨⟨s, h⟩, rfl⟩

end BaseUrl

/-! ## Joining -/

/-- What a path is without the slashes that it starts with. -/
def IsBehindSlashes (rest path : String) : Prop :=
  ∃ n, path.toList = List.replicate n '/' ++ rest.toList ∧ rest.toList.head? ≠ some '/'

theorem exists_isBehindSlashes (path : String) : ∃ rest, IsBehindSlashes rest path := by
  refine ⟨String.ofList (path.toList.dropWhile (· == '/')), ?_⟩
  exact Text.dropWhile_beq_eq_iff.mp (String.toList_ofList).symm

theorem IsBehindSlashes.slash_append (h : IsBehindSlashes rest p) :
    IsBehindSlashes rest ("/" ++ p) := by
  obtain ⟨n, hp, hrest⟩ := h
  refine ⟨n + 1, ?_, hrest⟩
  rw [String.toList_append, hp, List.replicate_succ]
  rfl

theorem IsBehindSlashes.head?_ne (h : IsBehindSlashes rest p) : rest.toList.head? ≠ some '/' := by
  obtain ⟨-, -, hrest⟩ := h
  exact hrest

/-- Two texts without a slash in front, one after the other, have none in front. -/
theorem IsBehindSlashes.append (h : IsBehindSlashes rest p) (h' : IsBehindSlashes tail q) :
    IsBehindSlashes (rest ++ tail) (rest ++ tail) := by
  refine ⟨0, rfl, ?_⟩
  rw [String.toList_append, List.head?_append]
  cases hhead : rest.toList.head? with
  | none =>
    rw [Option.none_or]
    exact h'.head?_ne
  | some c =>
    rw [Option.some_or, ← hhead]
    exact h.head?_ne

namespace BaseUrl

variable {b joined : BaseUrl}

theorem join_eq (b : BaseUrl) (h : IsBehindSlashes rest p) : b.join p = b.text ++ rest := by
  rw [join, Text.dropWhile_beq_eq_iff.mpr h, String.ofList_toList]

theorem isPathPrefix_join {above : List (List Char)} (habove : IsPathPrefix above b.text)
    (h : IsBehindSlashes rest p) (hrest : IsSlashed segments rest.toList) :
    IsPathPrefix (above ++ segments) (b.join p) := by
  obtain ⟨text, htext, hslashed⟩ := habove
  refine ⟨text ++ rest.toList, ?_, hslashed.append hrest⟩
  rw [b.join_eq h, String.toList_append, htext, List.cons_append]

/-- To join in two steps is to join once. -/
theorem join_join (hjoined : joined.text = b.join p) (h : IsBehindSlashes rest p)
    (h' : IsBehindSlashes tail q) :
    joined.join q = b.join (rest ++ tail) := by
  rw [joined.join_eq h', hjoined, b.join_eq h, b.join_eq (h.append h'), String.append_assoc]

/-- **Path prefixes are lists of segments, and joining appends to the list.** A text is accepted as
a path prefix, and kept, exactly if it is a slash and segments with a slash behind each; the
segments are determined by the prefix. Joining writes a path behind the prefix without the slashes
that it starts with, so that one more of them makes no difference and no joined path starts with
two. If the rest of the path is made of segments, too, then the joined path is the prefix of all the
segments, and joining to it is joining both paths at once. -/
theorem join_appends_segments :
    (∀ s b, ofString s = .ok b ↔ b.text = s) ∧
      (∀ s, (∃ b, ofString s = .ok b) ↔ ∃ segments, IsPathPrefix segments s) ∧
      (∀ b : BaseUrl, ∃! segments, IsPathPrefix segments b.text) ∧
      ∀ (b : BaseUrl) p, ∃ rest, IsBehindSlashes rest p ∧
        b.join p = b.text ++ rest ∧ b.join ("/" ++ p) = b.join p ∧
        ¬['/', '/'] <+: (b.join p).toList ∧
        ∀ segments, IsSlashed segments rest.toList →
          ∃ joined, ofString (b.join p) = .ok joined ∧
            (∀ above, IsPathPrefix above b.text → IsPathPrefix (above ++ segments) joined.text) ∧
            ∀ q, ∃ tail, IsBehindSlashes tail q ∧ joined.join q = b.join (rest ++ tail) := by
  have hexists (b : BaseUrl) : ∃ segments, IsPathPrefix segments b.text :=
    fault?_eq_none_iff_exists_isPathPrefix.mp b.valid
  refine ⟨fun s b ↦ ofString_eq_ok_iff, fun s ↦ exists_ofString_iff, fun b ↦ ?_, fun b p ↦ ?_⟩
  · obtain ⟨segments, h⟩ := hexists b
    exact ⟨segments, h, fun other h' ↦ h'.unique h⟩
  · obtain ⟨rest, h⟩ := exists_isBehindSlashes p
    refine ⟨rest, h, b.join_eq h, ?_, ?_, fun segments hsegments ↦ ?_⟩
    · rw [b.join_eq h.slash_append, b.join_eq h]
    · rw [b.join_eq h, String.toList_append]
      exact b.not_two_slashes_append h.head?_ne
    · obtain ⟨above, habove⟩ := hexists b
      obtain ⟨joined, hjoined⟩ :=
        exists_ofString_iff.mpr ⟨_, isPathPrefix_join habove h hsegments⟩
      have htext : joined.text = b.join p := ofString_eq_ok_iff.mp hjoined
      refine ⟨joined, hjoined, fun above habove ↦ ?_, fun q ↦ ?_⟩
      · rw [htext]
        exact isPathPrefix_join habove h hsegments
      · obtain ⟨tail, h'⟩ := exists_isBehindSlashes q
        exact ⟨tail, h', join_join htext h h'⟩

/-- Two segments behind two slashes, and a page below them. -/
theorem page_joined_below_segments :
    ∃ (b joined : BaseUrl) (rest tail : String), b.text = "/docs/" ∧ rest = "next/beta/" ∧
      IsBehindSlashes rest "//next/beta/" ∧
      ofString (b.join "//next/beta/") = .ok joined ∧
      IsPathPrefix ["docs".toList, "next".toList, "beta".toList] joined.text ∧
      IsBehindSlashes tail "/guide" ∧ joined.join "/guide" = b.join (rest ++ tail) := by
  have habove : IsSlashed ["docs".toList] "docs/".toList := ⟨by decide, by decide⟩
  have hsegments : IsSlashed ["next".toList, "beta".toList] "next/beta/".toList :=
    ⟨by decide, by decide⟩
  obtain ⟨-, -, -, hjoin⟩ := join_appends_segments
  obtain ⟨rest, hrest, htext, -, -, hjoined⟩ := hjoin ⟨"/docs/", by decide⟩ "//next/beta/"
  obtain rfl : "next/beta/" = rest := by
    have htexts : "/docs/".toList ++ "next/beta/".toList = "/docs/".toList ++ rest.toList := by
      rw [← String.toList_append, ← String.toList_append]
      exact congrArg String.toList htext
    exact String.toList_inj.mp (List.append_cancel_left htexts)
  obtain ⟨joined, hok, happend, hpage⟩ := hjoined _ hsegments
  obtain ⟨tail, htail, hguide⟩ := hpage "/guide"
  exact ⟨_, joined, _, tail, rfl, rfl, hrest, hok,
    happend ["docs".toList] ⟨"docs/".toList, by decide, habove⟩, htail, hguide⟩

end BaseUrl

end VersionedSite
