import Mathlib.Data.List.Infix
import VersionedSite.Proofs.Site.ManifestUrl
import VersionedSite.Proofs.Site.Rules

/-!
# Addresses of the documentation

The documentation of a version stands below the prefix of the site, the route and the path of the
version, and a switcher links to it by the three of them. The prefix and the path have been checked
for everything that may not stand in a plain path. The route has been checked at its two ends only,
where a slash of its own would meet another one. So an address of the documentation starts and ends
as it should, and nothing is wrong with it but what is wrong with the route.

The main statement says so flaw by flaw, for the root of the documentation and for every version.
It also says what there is where the route has no flaw: behind scheme and host, the address of a
version is one segment after the other.
-/

namespace VersionedSite

variable {flaw x y : List Char}

/-! ## Flaws of a path -/

/-- What a plain path is free of: two slashes in a row, which have an empty segment between them,
and each character that may not stand in a path prefix. -/
inductive PathFlaw : List Char → Prop where
  | emptySegment : PathFlaw ['/', '/']
  | refused {c : Char} (h : ¬BaseUrl.Allows c) : PathFlaw [c]

/-- No flaw stands in the text. -/
def IsPlain (s : List Char) : Prop := ∀ flaw, PathFlaw flaw → ¬flaw <:+: s

theorem isPlain_iff {s : List Char} :
    IsPlain s ↔ ¬['/', '/'] <:+: s ∧ ∀ c ∈ s, BaseUrl.Allows c := by
  constructor
  · intro h
    refine ⟨h _ .emptySegment, fun c hc ↦ ?_⟩
    by_contra hrefused
    exact h [c] (.refused hrefused) ((List.singleton_infix_iff c s).mpr hc)
  · rintro ⟨hsegments, hallows⟩ flaw (_ | hrefused) h
    · exact hsegments h
    · exact hrefused (hallows _ ((List.singleton_infix_iff _ s).mp h))

/-- Two texts in a row have the flaws of either of them, unless a slash meets a slash. -/
theorem PathFlaw.infix_append_iff (h : PathFlaw flaw)
    (hseam : x.getLast? = some '/' → y.head? ≠ some '/') :
    flaw <:+: x ++ y ↔ flaw <:+: x ∨ flaw <:+: y := by
  rw [List.infix_append_iff_ne_nil, ← or_assoc]
  refine or_iff_left ?_
  -- a flaw across the seam has at least two characters, and the only such flaw is two slashes
  rintro ⟨front, back, hfront, hback, hflaw, ⟨before, rfl⟩, ⟨after, rfl⟩⟩
  have hlength := congrArg List.length hflaw
  have hfrontLength := List.length_pos_of_ne_nil hfront
  have hbackLength := List.length_pos_of_ne_nil hback
  rw [List.length_append] at hlength
  cases h with
  | emptySegment =>
    rw [List.length_cons, List.length_singleton] at hlength
    obtain ⟨c, rfl⟩ := List.length_eq_one_iff.mp (show front.length = 1 by omega)
    obtain ⟨d, rfl⟩ := List.length_eq_one_iff.mp (show back.length = 1 by omega)
    obtain ⟨rfl, rfl⟩ : '/' = c ∧ '/' = d := by simpa using hflaw
    exact hseam (by simp) (by simp)
  | refused _ =>
    rw [List.length_singleton] at hlength
    omega

theorem IsPlain.append (hx : IsPlain x) (hy : IsPlain y)
    (hseam : x.getLast? = some '/' → y.head? ≠ some '/') : IsPlain (x ++ y) := by
  intro flaw hflaw h
  rcases (hflaw.infix_append_iff hseam).mp h with h | h
  · exact hx flaw hflaw h
  · exact hy flaw hflaw h

/-! ## Texts that have been checked -/

theorem BaseUrl.isPlain (b : BaseUrl) : IsPlain b.text.toList := by
  obtain ⟨-, -, hdouble, hallows⟩ := fault?_eq_none_iff.mp b.valid
  refine isPlain_iff.mpr ⟨fun h ↦ ?_, hallows⟩
  exact absurd (Text.occurs_eq_true_iff.mpr h) (by simp [hdouble])

theorem isPlain_slash : IsPlain ['/'] :=
  isPlain_iff.mpr ⟨by decide, BaseUrl.allows_of_all (by decide)⟩

theorem VersionPath.isPlain (p : VersionPath) : IsPlain p.text.toList := by
  refine isPlain_iff.mpr ⟨fun h ↦ ?_, fun c hc ↦ ?_⟩
  · have hslash : '/' ∈ p.text.toList := h.subset List.mem_cons_self
    exact (p.allows_of_mem hslash).ne_slash rfl
  · have hc := p.allows_of_mem hc
    exact ⟨hc.notBlank, hc.ne_query, hc.ne_fragment⟩

/-- The path of a version with a slash behind it, which is how it stands in an address. -/
theorem VersionPath.isPlain_append_slash (p : VersionPath) : IsPlain (p.text.toList ++ ['/']) := by
  refine p.isPlain.append isPlain_slash fun hlast ↦ ?_
  exact absurd rfl (p.allows_of_mem (List.mem_of_getLast? hlast)).ne_slash

namespace Site

variable {s : Site} {v : Version} {c : Config} {profile : Option String}

/-! ## Addresses of a site -/

theorem toList_docsRoot (s : Site) :
    s.docsRoot.toList = s.baseUrl.text.toList ++ (s.routeBasePath.toList ++ ['/']) := by
  simp [docsRoot, String.toList_append]

theorem toList_versionHref (s : Site) (v : Version) :
    (s.versionHref v).toList = s.docsRoot.toList ++ (v.path.text.toList ++ ['/']) := by
  simp [versionHref, String.toList_append]

/-- The route of a site has been checked at its ends. -/
theorem route_of_resolve (hs : c.resolve profile = .ok s) :
    s.routeBasePath.toList ≠ [] ∧ s.routeBasePath.toList.head? ≠ some '/' ∧
      s.routeBasePath.toList.getLast? ≠ some '/' := by
  obtain ⟨l, -, hdescribes, hrules⟩ := Config.exists_describes_of_resolve hs
  rw [hdescribes.routeBasePath]
  exact hrules .route

theorem flaw_infix_docsRoot_iff (hs : c.resolve profile = .ok s) (hflaw : PathFlaw flaw) :
    flaw <:+: s.docsRoot.toList ↔ flaw <:+: s.routeBasePath.toList := by
  obtain ⟨hne, hhead, hlast⟩ := route_of_resolve hs
  have hbase : ¬flaw <:+: s.baseUrl.text.toList := s.baseUrl.isPlain flaw hflaw
  have hslash : ¬flaw <:+: ['/'] := isPlain_slash flaw hflaw
  have hfront : (s.routeBasePath.toList ++ ['/']).head? ≠ some '/' := by
    rwa [List.head?_append_of_ne_nil _ hne]
  rw [toList_docsRoot, hflaw.infix_append_iff fun _ ↦ hfront, or_iff_right hbase,
    hflaw.infix_append_iff fun h ↦ absurd h hlast, or_iff_left hslash]

theorem flaw_infix_versionHref_iff (v : Version) (hflaw : PathFlaw flaw) :
    flaw <:+: (s.versionHref v).toList ↔ flaw <:+: s.docsRoot.toList := by
  have hpath : ¬flaw <:+: v.path.text.toList ++ ['/'] := v.path.isPlain_append_slash flaw hflaw
  have hfront : (v.path.text.toList ++ ['/']).head? ≠ some '/' := by
    rw [List.head?_append_of_ne_nil _ v.path.text_ne_nil]
    exact fun h ↦ (v.path.allows_of_mem (List.mem_of_head? h)).ne_slash rfl
  rw [toList_versionHref, hflaw.infix_append_iff fun _ ↦ hfront, or_iff_left hpath]

theorem head?_docsRoot (s : Site) : s.docsRoot.toList.head? = some '/' := by
  obtain ⟨r, hr, -⟩ := s.baseUrl.exists_toList
  rw [toList_docsRoot, hr, List.cons_append, List.head?_cons]

/-- A route without flaws is one segment after the other, once it is followed by a slash. -/
theorem exists_segments_route (hs : c.resolve profile = .ok s)
    (hplain : IsPlain s.routeBasePath.toList) :
    ∃ route, (∀ segment ∈ route, IsPathSegment segment) ∧
      s.routeBasePath.toList ++ ['/'] = slashed route := by
  obtain ⟨hne, hhead, hlast⟩ := route_of_resolve hs
  refine exists_segments ?_ ?_ ?_
  · intro ch hch
    rw [List.getLast?_concat] at hch
    exact (Option.mem_some.mp hch).symm
  · rwa [List.head?_append_of_ne_nil _ hne]
  · rw [PathFlaw.emptySegment.infix_append_iff fun h ↦ absurd h hlast, not_or]
    exact ⟨hplain _ .emptySegment, isPlain_slash _ .emptySegment⟩

/-- **Nothing is wrong with an address of the documentation but what is wrong with the route.** The
root of the documentation and the address of every version start and end with a slash, and each
flaw stands in them exactly if it stands in the route. So if the route has none, the address of a
version is scheme and host and the segments of the prefix, of the route and of the version, without
a blank, a query or a fragment. -/
theorem docs_address_has_flaws_of_route (hs : c.resolve profile = .ok s) (v : Version) :
    (∀ address ∈ [s.docsRoot, s.versionHref v],
        address.toList.head? = some '/' ∧ address.toList.getLast? = some '/' ∧
        ∀ flaw, PathFlaw flaw →
          (flaw <:+: address.toList ↔ flaw <:+: s.routeBasePath.toList)) ∧
      (IsPlain s.routeBasePath.toList → ∃ above route,
        s.baseUrl.text.toList = '/' :: slashed above ∧
        s.routeBasePath.toList ++ ['/'] = slashed route ∧
        (∀ segment ∈ above ++ route ++ [v.path.text.toList], IsPathSegment segment) ∧
        (s.url.text ++ s.versionHref v).toList =
          s.url.text.toList ++ '/' :: slashed (above ++ route ++ [v.path.text.toList]) ∧
        ∀ ch ∈ (s.url.text ++ s.versionHref v).toList, BaseUrl.Allows ch) := by
  constructor
  · intro address haddress
    rcases List.mem_pair.mp haddress with rfl | rfl
    · refine ⟨s.head?_docsRoot, ?_, fun flaw hflaw ↦ flaw_infix_docsRoot_iff hs hflaw⟩
      rw [toList_docsRoot, ← List.append_assoc, List.getLast?_concat]
    · refine ⟨?_, ?_, fun flaw hflaw ↦ ?_⟩
      · rw [toList_versionHref, List.head?_append, s.head?_docsRoot, Option.some_or]
      · rw [toList_versionHref, ← List.append_assoc, List.getLast?_concat]
      · rw [flaw_infix_versionHref_iff v hflaw, flaw_infix_docsRoot_iff hs hflaw]
  · intro hplain
    obtain ⟨above, habove, hbase⟩ := s.baseUrl.exists_toList_eq_segments
    obtain ⟨route, hroute, hslashed⟩ := exists_segments_route hs hplain
    have haddress : IsPlain (s.versionHref v).toList := by
      intro flaw hflaw
      rw [flaw_infix_versionHref_iff v hflaw, flaw_infix_docsRoot_iff hs hflaw]
      exact hplain flaw hflaw
    refine ⟨above, route, hbase, hslashed, fun segment h ↦ ?_, ?_, fun ch hch ↦ ?_⟩
    · rw [List.mem_append, List.mem_append, List.mem_singleton] at h
      rcases h with (h | h) | rfl
      · exact habove segment h
      · exact hroute segment h
      · exact v.path.isPathSegment
    · rw [String.toList_append, toList_versionHref, toList_docsRoot, hbase, hslashed]
      simp
    · rw [String.toList_append, List.mem_append] at hch
      rcases hch with hch | hch
      · exact s.url.allows_of_mem hch
      · exact (isPlain_iff.mp haddress).2 ch hch

end Site

/-- The small configuration with another route. -/
def Config.routed (route : String) : Config :=
  { minimal with docs := { minimal.docs with routeBasePath := route } }

namespace Site

/-- A route of two segments, one of them named like the prefix. -/
theorem docs_address_of_two_segments : ∃ s v, (Config.routed "docs/next").resolve none = .ok s ∧
    v ∈ s.versions.toList ∧ IsPlain s.routeBasePath.toList ∧
    s.url.text ++ s.versionHref v = "https://example.org/docs/docs/next/head/" ∧
    ∀ ch ∈ (s.url.text ++ s.versionHref v).toList, BaseUrl.Allows ch := by
  have hrun : ((Config.routed "docs/next").resolve none).toOption.any (fun s ↦
      s.routeBasePath = "docs/next" &&
        s.url.text ++ s.versionHref s.versions.canonical =
          "https://example.org/docs/docs/next/head/") = true := by
    decide +kernel
  simp only [Steps.any_toOption_iff, Bool.and_eq_true, decide_eq_true_iff] at hrun
  obtain ⟨s, hs, hroute, haddress⟩ := hrun
  have hplain : IsPlain s.routeBasePath.toList := by
    rw [hroute]
    refine isPlain_iff.mpr ⟨by decide, fun ch hch ↦ ?_⟩
    have hchars : ("docs/next".toList.all fun ch ↦
        !Text.isBlank ch && (ch != '?' && ch != '#')) = true := by
      decide
    simp only [List.all_eq_true, Bool.and_eq_true, Bool.not_eq_true', bne_iff_ne] at hchars
    obtain ⟨hblank, hquery, hfragment⟩ := hchars ch hch
    exact ⟨hblank, hquery, hfragment⟩
  obtain ⟨above, route, -, -, -, -, hallows⟩ :=
    (docs_address_has_flaws_of_route hs s.versions.canonical).2 hplain
  exact ⟨s, s.versions.canonical, hs, List.head_mem s.versions.nonempty, hplain, haddress, hallows⟩

/-- A route may have every kind of flaw between its ends. -/
theorem docs_address_with_every_flaw :
    ∃ s v, (Config.routed "my docs//new?a#b").resolve none = .ok s ∧ v ∈ s.versions.toList ∧
      ∀ flaw ∈ [['/', '/'], [' '], ['?'], ['#']], PathFlaw flaw ∧
        flaw <:+: s.docsRoot.toList ∧ flaw <:+: (s.versionHref v).toList := by
  have hrun : ((Config.routed "my docs//new?a#b").resolve none).toOption.any (fun s ↦
      [['/', '/'], [' '], ['?'], ['#']].all fun flaw ↦ flaw <:+: s.docsRoot.toList) = true := by
    decide +kernel
  simp only [Steps.any_toOption_iff, List.all_eq_true, decide_eq_true_iff] at hrun
  obtain ⟨s, hs, hroot⟩ := hrun
  have hflaws : ∀ flaw ∈ [['/', '/'], [' '], ['?'], ['#']], PathFlaw flaw := by
    intro flaw hflaw
    simp only [List.mem_cons, List.not_mem_nil, or_false] at hflaw
    rcases hflaw with rfl | rfl | rfl | rfl
    · exact .emptySegment
    · exact .refused fun h ↦ absurd h.notBlank (by decide)
    · exact .refused fun h ↦ h.ne_query rfl
    · exact .refused fun h ↦ h.ne_fragment rfl
  refine ⟨s, s.versions.canonical, hs, List.head_mem s.versions.nonempty, fun flaw hflaw ↦ ?_⟩
  refine ⟨hflaws flaw hflaw, hroot flaw hflaw, ?_⟩
  rw [toList_versionHref]
  exact List.infix_append_of_infix_left (hroot flaw hflaw)

end Site

end VersionedSite
