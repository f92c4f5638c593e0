import VersionedSite.Proofs.Site.Grammar
import VersionedSite.Proofs.Site.Segments

/-!
# Requests from the root of the host

A request may leave the path prefix of the site out and go to the route at once. Such a request
names its version, unless the same text goes on from the prefix to the route and names another
segment there: that reading comes first, whichever version it leads to. It has to come first, or the
addresses that the site itself gives would not lead back.

The two readings of one text are the route and what follows it, moved along by the prefix. So either
the route repeats the prefix, and moving it along once less is the same situation, or the prefix is
at least as long as the route. Then the segment of the first reading lies inside the prefix: only a
version that is named like a segment of the prefix can lose a request, and only one that goes on
with a slash.
-/

namespace VersionedSite

/-- The prefix has the segment between two of its slashes. -/
def BaseUrl.HasSegment (b : BaseUrl) (segment : String) : Prop :=
  ("/" ++ segment ++ "/").toList <:+: b.text.toList

instance (b : BaseUrl) (segment : String) : Decidable (b.HasSegment segment) :=
  inferInstanceAs (Decidable (_ <:+: _))

namespace Site

variable {s : Site} {v : Version} {request segment other : String}

/-! ## A route that is moved along -/

/-- A text that starts with a segment starts with a piece that ends with a slash: the piece has the
segment in front, with a slash behind it. -/
theorem exists_eq_segment_append {segment tail piece rest : List Char}
    (hsegment : IsSegment segment) (htail : EndsBefore tail) (hpiece : piece.getLast? = some '/')
    (hplain : ∀ c ∈ piece, BaseUrl.Allows c) (h : segment ++ tail = piece ++ rest) :
    tail.head? = some '/' ∧ ∃ back, piece = segment ++ '/' :: back := by
  have hslash : '/' ∈ piece := List.mem_of_getLast? hpiece
  rcases List.append_eq_append_iff.mp h with ⟨back, hback, hrest⟩ | ⟨middle, hmiddle, -⟩
  · cases back with
    | nil =>
      rw [List.append_nil] at hback
      rw [hback] at hslash
      exact absurd (hsegment.2 '/' hslash) (by decide)
    | cons c back =>
      have hends : endsSegment c = true := htail c (by rw [hrest]; rfl)
      have hc := hplain c (by rw [hback]; simp)
      rcases endsSegment_eq_true_iff.mp hends with rfl | rfl | rfl
      · exact ⟨by rw [hrest]; rfl, back, hback⟩
      · exact absurd rfl hc.ne_query
      · exact absurd rfl hc.ne_fragment
  · rw [hmiddle] at hsegment
    exact absurd (hsegment.2 '/' (List.mem_append_left _ hslash)) (by decide)

/-- A route and what follows it are the same text when a piece that ends with a slash comes before
them. Then what follows the route starts with a part of the piece, up to its end and behind one of
its slashes. -/
theorem exists_piece_of_moved {piece : List Char} (hpiece : piece.getLast? = some '/')
    (rest after : List Char) :
    ∀ (route : List Char), route ≠ [] → route.getLast? ≠ some '/' →
      route ++ '/' :: after = piece ++ (route ++ '/' :: rest) →
      ∃ front back rest', '/' :: piece = front ++ '/' :: back ∧ back.getLast? = some '/' ∧
        after = back ++ rest' := by
  intro route
  -- the route gets shorter by the piece as long as it starts with the piece
  induction hlength : route.length using Nat.strongRecOn generalizing route with
  | ind n ih =>
    intro hne hlast h
    rcases List.append_eq_append_iff.mp h with ⟨m, hm, hafter⟩ | ⟨m, hm, hrest⟩
    · cases m with
      | nil =>
        rw [List.append_nil] at hm
        exact absurd (hm ▸ hpiece) hlast
      | cons c m =>
        obtain ⟨rfl, hbehind⟩ := List.cons.inj hafter
        cases m with
        | nil =>
          -- the piece is the route with a slash
          refine ⟨[], piece, rest, rfl, hpiece, ?_⟩
          rw [hbehind, hm]
          simp
        | cons d m =>
          refine ⟨'/' :: route, d :: m, route ++ '/' :: rest, by rw [hm]; rfl, ?_, hbehind⟩
          rw [hm] at hpiece
          simpa using hpiece
    · have hmne : m ≠ [] := by
        rintro rfl
        rw [List.append_nil] at hm
        exact hlast (hm ▸ hpiece)
      have hpne : piece ≠ [] := by
        rintro rfl
        exact absurd hpiece (by simp)
      have hshorter : m.length < n := by
        rw [← hlength, hm, List.length_append]
        have := List.length_pos_iff.mpr hpne
        omega
      have hmlast : m.getLast? ≠ some '/' := by
        rw [hm, List.getLast?_append_of_ne_nil _ hmne] at hlast
        exact hlast
      have hmoved : m ++ '/' :: after = piece ++ (m ++ '/' :: rest) := by
        rw [← hrest, hm, List.append_assoc]
      exact ih m.length hshorter m rfl hmne hmlast hmoved

/-! ## Two readings -/

/-- Behind a lead a request reads as one segment at most. -/
theorem Reads.unique {lead : String} (h : s.Reads lead request segment)
    (h' : s.Reads lead request other) : segment = other := by
  obtain ⟨rest, hrest, hdocs⟩ := reads_iff.mp h
  obtain ⟨rest', hrest', hdocs'⟩ := reads_iff.mp h'
  obtain rfl : rest = rest' := List.append_cancel_left (hrest.symm.trans hrest')
  exact Option.some.inj (hdocs.symm.trans hdocs')

/-- The request for a version from the root of the host. -/
def rootRequest (s : Site) (v : Version) (tail : String) : String :=
  "/" ++ s.routeBasePath ++ "/" ++ v.path.text ++ tail

theorem reads_rootRequest {tail : String} (htail : EndsBefore tail.toList) :
    s.Reads "/" (s.rootRequest v tail) v.path.text :=
  ⟨isSegment_path v, tail, htail, rfl⟩

/-- A request from the root that reads below the prefix as another segment is for a version named
like a segment of the prefix, and goes on with a slash. -/
theorem hasSegment_of_reads_rootRequest {tail : String} (hne : s.routeBasePath.toList ≠ [])
    (hlast : s.routeBasePath.toList.getLast? ≠ some '/') (htail : EndsBefore tail.toList)
    (h : s.Reads s.baseUrl.text (s.rootRequest v tail) other) (hother : other ≠ v.path.text) :
    s.baseUrl.HasSegment v.path.text ∧ tail.toList.head? = some '/' := by
  obtain ⟨-, hbaseLast, -, hplain⟩ := BaseUrl.fault?_eq_none_iff.mp s.baseUrl.valid
  obtain ⟨piece, hpiece, -⟩ := s.baseUrl.exists_toList
  obtain ⟨hsegment, tail', htail', hrequest⟩ := h
  have hmoved : s.routeBasePath.toList ++ '/' :: (v.path.text.toList ++ tail.toList) =
      piece ++ (s.routeBasePath.toList ++ '/' :: (other.toList ++ tail'.toList)) := by
    have htext := congrArg String.toList hrequest
    simpa [rootRequest, String.toList_append, hpiece] using htext
  by_cases hnil : piece = []
  · -- the prefix is one slash, so both readings are the same
    rw [hnil, List.nil_append, List.append_cancel_left_eq] at hmoved
    have hsame := congrArg (List.takeWhile fun c ↦ !endsSegment c) (List.cons.inj hmoved).2
    rw [takeWhile_segment (isSegment_path v) htail, takeWhile_segment hsegment htail'] at hsame
    exact absurd (String.toList_inj.mp hsame).symm hother
  · have hpieceLast : piece.getLast? = some '/' := by
      rw [hpiece, ← List.singleton_append, List.getLast?_append_of_ne_nil _ hnil] at hbaseLast
      exact hbaseLast
    obtain ⟨front, back, rest, hback, hbackLast, hafter⟩ :=
      exists_piece_of_moved hpieceLast _ _ _ hne hlast hmoved
    have hbackPlain : ∀ c ∈ back, BaseUrl.Allows c := by
      intro c hc
      refine hplain c ?_
      rw [hpiece, hback]
      simp [hc]
    obtain ⟨hslash, last, rfl⟩ :=
      exists_eq_segment_append (isSegment_path v) htail hbackLast hbackPlain hafter
    refine ⟨⟨front, last, ?_⟩, hslash⟩
    rw [hpiece, hback]
    simp [String.toList_append]

/-! ## Versions -/

/-- **Requests from the root of the host.** A request for a version that leaves the prefix out finds
the version exactly if it does not read below the prefix as another segment. Where it does, it is
about the version of that segment, or about the canonical one as a stand-in. That takes a version
that is named like a segment of the prefix, and a request that goes on with a slash. -/
theorem activeVersion_rootRequest {c : Config} {profile : Option String}
    (hs : c.resolve profile = .ok s) (hv : v ∈ s.versions.toList) {tail : String}
    (ht : ∀ ch ∈ tail.toList.head?, ch = '/' ∨ ch = '?' ∨ ch = '#') :
    (s.activeVersion (s.rootRequest v tail) = ⟨v, .matched⟩ ↔
        ∀ other, s.Reads s.baseUrl.text (s.rootRequest v tail) other → other = v.path.text) ∧
      (∀ other, s.Reads s.baseUrl.text (s.rootRequest v tail) other →
        s.activeVersion (s.rootRequest v tail) = s.versions.select (some other)) ∧
      (¬(s.baseUrl.HasSegment v.path.text ∧ tail.toList.head? = some '/') →
        s.activeVersion (s.rootRequest v tail) = ⟨v, .matched⟩) := by
  obtain ⟨l, -, hdescribes, hrules⟩ := Config.exists_describes_of_resolve hs
  obtain ⟨hne, hslash, hlast⟩ := hrules .route
  rw [← hdescribes.routeBasePath] at hne hslash hlast
  have htail : EndsBefore tail.toList := fun ch hch ↦ endsSegment_eq_true_iff.mpr (ht ch hch)
  have hbelow (other : String) (h : s.Reads s.baseUrl.text (s.rootRequest v tail) other) :
      s.activeVersion (s.rootRequest v tail) = s.versions.select (some other) := by
    rw [activeVersion, (versionSegment?_eq_some_iff hne hslash).mpr (.inl h)]
  have hfound : s.activeVersion (s.rootRequest v tail) = ⟨v, .matched⟩ ↔
      ∀ other, s.Reads s.baseUrl.text (s.rootRequest v tail) other → other = v.path.text := by
    constructor
    · intro h other hother
      rw [hbelow other hother] at h
      exact Option.some.inj (Versions.select_eq_matched_iff.mp h).2
    · intro h
      have hnames : s.Names (s.rootRequest v tail) v.path.text := by
        by_cases hread : ∃ other, s.Reads s.baseUrl.text (s.rootRequest v tail) other
        · obtain ⟨other, hother⟩ := hread
          exact .inl (h other hother ▸ hother)
        · exact .inr ⟨not_exists.mp hread, 1, reads_rootRequest htail⟩
      rw [activeVersion, (versionSegment?_eq_some_iff hne hslash).mpr hnames,
        Versions.select_of_mem hv]
  refine ⟨hfound, hbelow, fun hfree ↦ hfound.mpr fun other hother ↦ ?_⟩
  by_contra hdifferent
  exact hfree (hasSegment_of_reads_rootRequest hne hlast htail hother hdifferent)

/-- Where a version is named like the prefix, a request for it is found behind a query, and one that
goes on with another version is a request for that one. -/
theorem minimal_docs_from_root : ∃ s v, Config.minimal.resolve none = .ok s ∧
    v ∈ s.versions.toList ∧ v.path.text = "docs" ∧ s.baseUrl.HasSegment v.path.text ∧
    s.activeVersion (s.rootRequest v "?tab=helm") = ⟨v, .matched⟩ ∧
    s.Reads s.baseUrl.text (s.rootRequest v "/head/") "head" ∧
    s.activeVersion (s.rootRequest v "/head/") = s.versions.select (some "head") := by
  have hrun : (Config.minimal.resolve none).toOption.any (fun s ↦ s.versions.toList.any fun v ↦
      v.path.text = "docs" && s.baseUrl.HasSegment v.path.text &&
        (Text.dropStart? s.baseUrl.text.toList (s.rootRequest v "/head/").toList).bind
          s.docsSegment? = some "head") = true := by
    decide +kernel
  simp only [Steps.any_toOption_iff, List.any_eq_true, Bool.and_eq_true, decide_eq_true_iff,
    bind_docsSegment?_eq_some_iff] at hrun
  obtain ⟨s, hs, v, hv, ⟨hpath, hsegment⟩, hreads⟩ := hrun
  have hquery : ∀ ch ∈ "?tab=helm".toList.head?, ch = '/' ∨ ch = '?' ∨ ch = '#' :=
    fun ch hch ↦ .inr (.inl (Option.some.inj hch).symm)
  have hfurther : ∀ ch ∈ "/head/".toList.head?, ch = '/' ∨ ch = '?' ∨ ch = '#' :=
    fun ch hch ↦ .inl (Option.some.inj hch).symm
  have hslash : ¬(s.baseUrl.HasSegment v.path.text ∧ "?tab=helm".toList.head? = some '/') :=
    fun h ↦ absurd h.2 (by decide)
  exact ⟨s, v, hs, hv, hpath, hsegment, (activeVersion_rootRequest hs hv hquery).2.2 hslash, hreads,
    (activeVersion_rootRequest hs hv hfurther).2.1 "head" hreads⟩

/-- The request for `docs` from the root of the host that goes on with `head` is the address that
the site gives for `head`, and so it is not about `docs`. -/
theorem minimal_docs_lost_to_head : ∃ s v w, Config.minimal.resolve none = .ok s ∧
    v ∈ s.versions.toList ∧ w ∈ s.versions.toList ∧ v.path.text = "docs" ∧ w.path.text = "head" ∧
    "/" ++ s.routeBasePath ++ "/" ++ v.path.text ++ "/head/" = s.versionHref w ∧
    s.activeVersion ("/" ++ s.routeBasePath ++ "/" ++ v.path.text ++ "/head/") = ⟨w, .matched⟩ ∧
    s.activeVersion ("/" ++ s.routeBasePath ++ "/" ++ v.path.text ++ "/head/") ≠ ⟨v, .matched⟩ := by
  have hrun : (Config.minimal.resolve none).toOption.any (fun s ↦ s.versions.toList.any fun v ↦
      s.versions.toList.any fun w ↦ v.path.text = "docs" && w.path.text = "head" &&
        "/" ++ s.routeBasePath ++ "/" ++ v.path.text ++ "/head/" = s.versionHref w &&
        s.activeVersion ("/" ++ s.routeBasePath ++ "/" ++ v.path.text ++ "/head/") =
          ⟨w, .matched⟩ &&
        s.activeVersion ("/" ++ s.routeBasePath ++ "/" ++ v.path.text ++ "/head/") ≠
          ⟨v, .matched⟩) = true := by
    decide +kernel
  simp only [Steps.any_toOption_iff, List.any_eq_true, Bool.and_eq_true, decide_eq_true_iff] at hrun
  obtain ⟨s, hs, v, hv, w, hw, ⟨⟨⟨hdocs, hhead⟩, hhref⟩, hfound⟩, hlost⟩ := hrun
  exact ⟨s, v, w, hs, hv, hw, hdocs, hhead, hhref, hfound, hlost⟩

end Site

end VersionedSite
