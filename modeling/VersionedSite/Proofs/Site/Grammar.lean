import VersionedSite.Proofs.Site.Requests

/-!
# The grammar of requests

Which requests name a segment, and which one, as a grammar: a request is a lead, the route, a slash,
the segment, and whatever may follow a segment. Two leads count, the path prefix of the site and any
number of slashes, and they are not on a par. A request that has a reading behind the prefix has no
other, whatever it looks like from the root of the host.

The grammar says nothing about how a request is read. That the second reading takes all slashes off
the front makes no difference, because the route of a site does not start with one.
-/

namespace VersionedSite

namespace Site

variable {s : Site} {lead request segment : String}

/-! ## Readings -/

/-- Behind the lead the request goes on with the route, a slash and the segment, and the segment
ends there. -/
def Reads (s : Site) (lead request segment : String) : Prop :=
  IsSegment segment.toList ∧ ∃ tail : String, EndsBefore tail.toList ∧
    request = lead ++ s.routeBasePath ++ "/" ++ segment ++ tail

/-- The request names the segment: it has a reading behind the path prefix, or it has none there and
one behind some number of slashes, which may be zero. -/
def Names (s : Site) (request segment : String) : Prop :=
  s.Reads s.baseUrl.text request segment ∨
    (∀ other, ¬s.Reads s.baseUrl.text request other) ∧
      ∃ k, s.Reads (String.ofList (List.replicate k '/')) request segment

theorem reads_iff : s.Reads lead request segment ↔
    ∃ rest, request.toList = lead.toList ++ rest ∧ s.docsSegment? rest = some segment := by
  simp only [Reads, docsSegment?_eq_some_iff]
  constructor
  · rintro ⟨hsegment, tail, htail, rfl⟩
    refine ⟨s.routeBasePath.toList ++ '/' :: (segment.toList ++ tail.toList), ?_, hsegment,
      tail.toList, htail, rfl⟩
    simp [String.toList_append]
  · rintro ⟨-, hrequest, hsegment, tail, htail, rfl⟩
    refine ⟨hsegment, String.ofList tail, by rwa [String.toList_ofList], String.toList_inj.mp ?_⟩
    simp [String.toList_append, hrequest]

/-! ## The two leads -/

theorem bind_docsSegment?_eq_some_iff :
    (Text.dropStart? s.baseUrl.text.toList request.toList).bind s.docsSegment? = some segment ↔
      s.Reads s.baseUrl.text request segment := by
  simp only [Option.bind_eq_some_iff, Text.dropStart?_eq_some_iff, reads_iff]

/-- A route that does not start with a slash is found behind the slashes of a request, however many
there are. -/
theorem docsSegment?_dropWhile_eq_some_iff (hne : s.routeBasePath.toList ≠ [])
    (hslash : s.routeBasePath.toList.head? ≠ some '/') :
    s.docsSegment? (request.toList.dropWhile (· == '/')) = some segment ↔
      ∃ k, s.Reads (String.ofList (List.replicate k '/')) request segment := by
  simp only [reads_iff, String.toList_ofList]
  constructor
  · intro h
    obtain ⟨k, hrequest, -⟩ := Text.dropWhile_beq_eq_iff.mp
      (rfl : request.toList.dropWhile (· == '/') = _)
    exact ⟨k, _, hrequest, h⟩
  · rintro ⟨k, rest, hrequest, h⟩
    -- what is left starts with the route, so no slash of it is taken off
    obtain ⟨-, tail, -, rfl⟩ := docsSegment?_eq_some_iff.mp h
    rw [Text.dropWhile_beq_eq_iff.mpr ⟨k, hrequest, ?_⟩]
    · exact h
    · rwa [List.head?_append_of_ne_nil _ hne]

theorem versionSegment?_eq_some_iff (hne : s.routeBasePath.toList ≠ [])
    (hslash : s.routeBasePath.toList.head? ≠ some '/') :
    s.versionSegment? request = some segment ↔ s.Names request segment := by
  have hnone : (Text.dropStart? s.baseUrl.text.toList request.toList).bind s.docsSegment? = none ↔
      ∀ other, ¬s.Reads s.baseUrl.text request other := by
    rw [Option.eq_none_iff_forall_ne_some]
    exact forall_congr' fun other ↦ not_congr bind_docsSegment?_eq_some_iff
  rw [versionSegment?, Option.or_eq_some_iff, bind_docsSegment?_eq_some_iff, hnone,
    docsSegment?_dropWhile_eq_some_iff hne hslash, Names]

/-! ## Versions -/

/-- **Requests are read by their grammar.** A site reads from a request the segment that the request
names, and none if it names none. The request is then about the version of that path, and about the
canonical one as a stand-in if there is no such version. -/
theorem request_is_read_by_grammar {c : Config} {profile : Option String}
    (hs : c.resolve profile = .ok s) (request : String) :
    (∀ segment, s.versionSegment? request = some segment ↔ s.Names request segment) ∧
      (s.versionSegment? request = none ↔ ∀ segment, ¬s.Names request segment) ∧
      (∀ v, s.activeVersion request = ⟨v, .matched⟩ ↔
        v ∈ s.versions.toList ∧ s.Names request v.path.text) ∧
      (s.activeVersion request = ⟨s.versions.canonical, .fallback⟩ ↔
        ∀ v ∈ s.versions.toList, ¬s.Names request v.path.text) ∧
      (s.activeVersion request).version ∈ s.versions.toList := by
  obtain ⟨l, -, hdescribes, hrules⟩ := Config.exists_describes_of_resolve hs
  obtain ⟨hne, hslash, -⟩ := hrules .route
  rw [← hdescribes.routeBasePath] at hne hslash
  have hread (segment : String) :
      s.versionSegment? request = some segment ↔ s.Names request segment :=
    versionSegment?_eq_some_iff hne hslash
  refine ⟨hread, ?_, fun v ↦ ?_, ?_, s.mem_versions_activeVersion request⟩
  · rw [Option.eq_none_iff_forall_ne_some]
    exact forall_congr' fun segment ↦ not_congr (hread segment)
  · rw [activeVersion, Versions.select_eq_matched_iff, hread]
  · rw [activeVersion, Versions.select_eq_fallback_iff]
    exact forall₂_congr fun v _ ↦ not_congr (hread v.path.text)

/-- Behind the prefix this request lacks a segment, and behind two slashes it has one. -/
theorem minimal_docs_behind_slashes :
    ∃ s v, Config.minimal.resolve none = .ok s ∧ s.baseUrl.text = "/docs/" ∧
      (∀ segment, ¬s.Reads s.baseUrl.text "//docs/docs?tab=helm" segment) ∧
      s.Names "//docs/docs?tab=helm" "docs" ∧
      s.activeVersion "//docs/docs?tab=helm" = ⟨v, .matched⟩ ∧ v.label = "Docs" := by
  have hrun : (Config.minimal.resolve none).toOption.any (fun s ↦
      s.baseUrl.text = "/docs/" &&
        (Text.dropStart? s.baseUrl.text.toList "//docs/docs?tab=helm".toList).isNone &&
        s.versionSegment? "//docs/docs?tab=helm" = some "docs" &&
        s.versions.toList.any fun v ↦ v.path.text = "docs" && v.label = "Docs") = true := by
    decide +kernel
  simp only [Steps.any_toOption_iff, Bool.and_eq_true, decide_eq_true_iff, List.any_eq_true,
    Option.isNone_iff_eq_none] at hrun
  obtain ⟨s, hs, ⟨⟨hbase, hprefix⟩, hsegment⟩, v, hv, hpath, hlabel⟩ := hrun
  obtain ⟨hread, -, hmatched, -, -⟩ := request_is_read_by_grammar hs "//docs/docs?tab=helm"
  have hnames : s.Names "//docs/docs?tab=helm" "docs" := (hread "docs").mp hsegment
  refine ⟨s, v, hs, hbase, fun segment hreads ↦ ?_, hnames,
    (hmatched v).mpr ⟨hv, hpath ▸ hnames⟩, hlabel⟩
  obtain ⟨rest, hrest, -⟩ := reads_iff.mp hreads
  rw [Text.dropStart?_eq_some_iff.mpr hrest] at hprefix
  exact absurd hprefix (by simp)

end Site

end VersionedSite
