import VersionedSite.Proofs.Site.Characters
import VersionedSite.Proofs.Site.Rules

/-!
# Requests that name a version

The segment that a request names a version by, stated through the texts that the request is put
together from, and with it the way back: the address that a site gives for one of its versions is
read as a request for that very version. Nothing is assumed about how the path prefix, the route
and the paths of versions look beside each other. They may repeat one another, because the prefix
is tried first and the route is taken off once.
-/

namespace VersionedSite

namespace Site

variable {s : Site} {v : Version}

/-! ## Segments -/

/-- A segment of a request: it is not empty, and no character in it would end it. -/
def IsSegment (segment : List Char) : Prop :=
  segment ≠ [] ∧ ∀ c ∈ segment, endsSegment c = false

/-- What may follow a segment: nothing, or a text that starts with a character that ends it. -/
def EndsBefore (tail : List Char) : Prop := ∀ c ∈ tail.head?, endsSegment c = true

theorem endsSegment_eq_true_iff {c : Char} :
    endsSegment c = true ↔ c = '/' ∨ c = '?' ∨ c = '#' := by
  rw [endsSegment, Bool.or_eq_true, Bool.or_eq_true, beq_iff_eq, beq_iff_eq, beq_iff_eq, or_assoc]

/-- A version can be named by a segment. -/
theorem isSegment_path (v : Version) : IsSegment v.path.text.toList := by
  refine ⟨v.path.text_ne_nil, fun c hc ↦ ?_⟩
  have h := v.path.allows_of_mem hc
  rw [Bool.eq_false_iff, ne_eq, endsSegment_eq_true_iff]
  rintro (rfl | rfl | rfl)
  · exact h.ne_slash rfl
  · exact h.ne_query rfl
  · exact h.ne_fragment rfl

theorem takeWhile_segment {segment tail : List Char} (hs : IsSegment segment)
    (ht : EndsBefore tail) : (segment ++ tail).takeWhile (fun c ↦ !endsSegment c) = segment :=
  Text.takeWhile_append_of_ended (fun c hc ↦ by rw [hs.2 c hc]; rfl)
    (fun c hc ↦ by rw [ht c hc]; rfl)

/-- Below the root of the site, a request names a segment by the route, a slash and the segment. -/
theorem docsSegment?_eq_some_iff {path : List Char} {segment : String} :
    s.docsSegment? path = some segment ↔ IsSegment segment.toList ∧ ∃ tail, EndsBefore tail ∧
      path = s.routeBasePath.toList ++ '/' :: (segment.toList ++ tail) := by
  rw [docsSegment?]
  simp only [Option.bind_eq_bind, Option.bind_eq_some_iff, Text.dropStart?_eq_some_iff]
  constructor
  · rintro ⟨-, rfl, below, rfl, h⟩
    split at h
    · exact absurd h (by simp)
    · next hne =>
      obtain rfl := Option.some.inj h
      rw [String.toList_ofList]
      refine ⟨⟨by simpa using hne, fun c hc ↦ ?_⟩, below.dropWhile (fun c ↦ !endsSegment c), ?_, ?_⟩
      · simpa using List.mem_takeWhile_imp hc
      · intro c hc
        simpa using Text.ended_dropWhile _ below c hc
      · rw [List.takeWhile_append_dropWhile]
        rfl
  · rintro ⟨hs, tail, ht, rfl⟩
    refine ⟨_, rfl, segment.toList ++ tail, rfl, ?_⟩
    rw [takeWhile_segment hs ht, if_neg (by simpa using hs.1), String.ofList_toList]

/-! ## The version that is viewed -/

/-- The version that is viewed is one of the site's, whether the request named it or not. -/
theorem mem_versions_activeVersion (s : Site) (request : String) :
    (s.activeVersion request).version ∈ s.versions.toList := by
  rcases s.versions.select_eq_matched_or_fallback (s.versionSegment? request) with ⟨v, h⟩ | h
  · rw [activeVersion, h]
    exact (Versions.select_eq_matched_iff.mp h).1
  · rw [activeVersion, h]
    exact List.head_mem s.versions.nonempty

/-! ## Requests below the prefix of the site -/

/-- A request that starts with the path prefix is read below it, whatever else it may look like. -/
theorem versionSegment?_of_toList {request : String} {tail : List Char} (ht : EndsBefore tail)
    (h : request.toList = s.baseUrl.text.toList ++
      (s.routeBasePath.toList ++ '/' :: (v.path.text.toList ++ tail))) :
    s.versionSegment? request = some v.path.text := by
  have hbelow : s.docsSegment? (s.routeBasePath.toList ++ '/' :: (v.path.text.toList ++ tail)) =
      some v.path.text := docsSegment?_eq_some_iff.mpr ⟨isSegment_path v, tail, ht, rfl⟩
  rw [versionSegment?, h, Text.dropStart?_append, Option.bind_some, hbelow, Option.some_or]

theorem activeVersion_of_toList (hv : v ∈ s.versions.toList) {request : String}
    {tail : List Char} (ht : EndsBefore tail)
    (h : request.toList = s.baseUrl.text.toList ++
      (s.routeBasePath.toList ++ '/' :: (v.path.text.toList ++ tail))) :
    s.activeVersion request = ⟨v, .matched⟩ := by
  rw [activeVersion, versionSegment?_of_toList ht h, Versions.select_of_mem hv]

/-- A site joins a path by dropping its slashes, and a route has none to lose. -/
theorem toList_sitePath_route (hroute : s.routeBasePath.toList ≠ [])
    (hslash : s.routeBasePath.toList.head? ≠ some '/') (rest : String) :
    (s.sitePath ("/" ++ s.routeBasePath ++ rest)).toList =
      s.baseUrl.text.toList ++ (s.routeBasePath.toList ++ rest.toList) := by
  obtain ⟨c, r, hr⟩ := List.exists_cons_of_ne_nil hroute
  have hc : c ≠ '/' := fun he ↦ hslash (by rw [hr, he]; rfl)
  rw [sitePath, BaseUrl.join, String.toList_append, String.toList_ofList, String.toList_append,
    String.toList_append, hr]
  simp [hc]

/-- **Addresses of versions lead back to them.** The address below the prefix of the site, the
address that the switcher links to and the path inside the site are all read as the version that
they were made for, with any tail that does not go on with the segment. -/
theorem activeVersion_of_version_address {c : Config} {profile : Option String}
    (hs : c.resolve profile = .ok s) (hv : v ∈ s.versions.toList) {tail : String}
    (ht : ∀ ch ∈ tail.toList.head?, ch = '/' ∨ ch = '?' ∨ ch = '#') :
    s.activeVersion (s.baseUrl.text ++ s.routeBasePath ++ "/" ++ v.path.text ++ tail) =
        ⟨v, .matched⟩ ∧
      s.activeVersion (s.versionHref v) = ⟨v, .matched⟩ ∧
      s.activeVersion (s.sitePath ("/" ++ s.routeBasePath ++ "/" ++ v.path.text ++ tail)) =
        ⟨v, .matched⟩ := by
  have htail : EndsBefore tail.toList := fun ch hch ↦ endsSegment_eq_true_iff.mpr (ht ch hch)
  refine ⟨?_, ?_, ?_⟩
  · refine activeVersion_of_toList hv htail ?_
    simp [String.toList_append]
  · have hslash : EndsBefore ['/'] := fun ch hch ↦ by rw [← Option.mem_some.mp hch]; rfl
    refine activeVersion_of_toList hv hslash ?_
    simp [versionHref, docsRoot, String.toList_append]
  · -- only here does it matter what the route looks like: joining would drop a slash of its own
    obtain ⟨l, -, hdescribes, hrules⟩ := Config.exists_describes_of_resolve hs
    obtain ⟨hne, hslash, -⟩ := hrules .route
    rw [← hdescribes.routeBasePath] at hne hslash
    have hjoin := toList_sitePath_route hne hslash ("/" ++ v.path.text ++ tail)
    refine activeVersion_of_toList hv htail ?_
    simpa [String.toList_append, String.append_assoc] using hjoin

/-- A version may be named like the route, and the route like the prefix. -/
theorem minimal_docs_found : ∃ s v, Config.minimal.resolve none = .ok s ∧
    v ∈ s.versions.toList ∧
    s.baseUrl.text = "/docs/" ∧ s.routeBasePath = "docs" ∧ v.path.text = "docs" ∧
    s.activeVersion (s.baseUrl.text ++ s.routeBasePath ++ "/" ++ v.path.text ++ "/install") =
      ⟨v, .matched⟩ := by
  have hhead : "/install".toList.head? = some '/' := rfl
  have htail : ∀ ch ∈ "/install".toList.head?, ch = '/' ∨ ch = '?' ∨ ch = '#' :=
    fun ch hch ↦ .inl (Option.some.inj (hch.symm.trans hhead))
  obtain ⟨s, hs⟩ : ∃ s, Config.minimal.resolve none = .ok s := ⟨_, rfl⟩
  obtain ⟨l, hL, hdescribes, -⟩ := Config.exists_describes_of_resolve hs
  obtain rfl := hL.unique .base
  have hv : (⟨"Docs", ⟨"docs", by decide⟩⟩ : Version) ∈ s.versions.toList := by
    rw [hdescribes.versions]
    exact List.mem_cons_of_mem _ List.mem_cons_self
  have hbase : s.baseUrl.text = "/docs/" :=
    congrArg BaseUrl.text (Option.some.inj hdescribes.baseUrl).symm
  exact ⟨s, _, hs, hv, hbase, hdescribes.routeBasePath, rfl,
    (activeVersion_of_version_address hs hv htail).1⟩

end Site

end VersionedSite
