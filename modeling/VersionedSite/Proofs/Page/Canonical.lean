import VersionedSite.Proofs.Page.Composed
import VersionedSite.Proofs.Site.Segments

/-!
# The version of the root page

A site is built with one home page, and the version that it is about is found by reading the path
prefix of the site as a request. That is meant to find no version, so that the canonical one stands
in. But a request is read from the root of the host as well, and a prefix may itself look like the
address of some version there. Then the page is about that version.

The statements here are exact: which prefixes read as which version, when the page is about the
canonical version, and that its commands are then the ones given without a request.
-/

namespace VersionedSite

namespace Site

variable {s : Site} {v : Version}

/-! ## Prefixes that read as a version -/

/-- The path prefix of the site is, or goes on from, the address that the documentation of the
version would have at the root of the host. -/
def PrefixNames (s : Site) (v : Version) : Prop :=
  ("/" ++ s.routeBasePath ++ "/" ++ v.path.text ++ "/").toList <+: s.baseUrl.text.toList

instance (s : Site) (v : Version) : Decidable (s.PrefixNames v) :=
  inferInstanceAs (Decidable (_ <+: _))

theorem docsSegment?_nil (s : Site) : s.docsSegment? [] = none := by
  refine Option.eq_none_iff_forall_ne_some.mpr fun segment h ↦ ?_
  obtain ⟨-, tail, -, hpath⟩ := docsSegment?_eq_some_iff.mp h
  exact absurd hpath (by simp)

/-- Below itself the prefix names nothing, so it is read from the root of the host. -/
theorem versionSegment?_baseUrl {r : List Char} (hr : s.baseUrl.text.toList = '/' :: r)
    (hhead : r.head? ≠ some '/') : s.versionSegment? s.baseUrl.text = s.docsSegment? r := by
  have hself := Text.dropStart?_append s.baseUrl.text.toList []
  rw [List.append_nil] at hself
  have hdrop : r.dropWhile (· == '/') = r := by
    cases r with
    | nil => rfl
    | cons c r =>
      have hc : c ≠ '/' := by simpa using hhead
      rw [List.dropWhile_cons_of_neg (by simpa using hc)]
  rw [versionSegment?, hself, Option.bind_some, docsSegment?_nil, Option.none_or, hr,
    List.dropWhile_cons_of_pos (by simp), hdrop]

/-- The segment of the prefix ends with a slash, because nothing else that ends a segment may stand
in a prefix. -/
theorem exists_tail_eq_cons {segment tail : List Char} (hs : IsSegment segment)
    (ht : EndsBefore tail) {before : List Char}
    (h : s.baseUrl.text.toList = before ++ (segment ++ tail)) : ∃ t, tail = '/' :: t := by
  obtain ⟨-, hlast, -, -⟩ := BaseUrl.fault?_eq_none_iff.mp s.baseUrl.valid
  cases tail with
  | nil =>
    rw [h, List.append_nil, List.getLast?_append_of_ne_nil _ hs.1] at hlast
    exact absurd (hs.2 '/' (List.mem_of_getLast? hlast)) (by decide)
  | cons c t =>
    have hc : c ∈ s.baseUrl.text.toList := by simp [h]
    rcases endsSegment_eq_true_iff.mp (ht c rfl) with rfl | rfl | rfl
    · exact ⟨t, rfl⟩
    · exact absurd rfl (s.baseUrl.allows_of_mem hc).ne_query
    · exact absurd rfl (s.baseUrl.allows_of_mem hc).ne_fragment

theorem versionSegment?_baseUrl_eq_some_iff :
    s.versionSegment? s.baseUrl.text = some v.path.text ↔ s.PrefixNames v := by
  obtain ⟨r, hr, hhead⟩ := s.baseUrl.exists_toList
  rw [versionSegment?_baseUrl hr hhead, docsSegment?_eq_some_iff, PrefixNames]
  constructor
  · rintro ⟨hsegment, tail, ht, rfl⟩
    have hbase : s.baseUrl.text.toList =
        ('/' :: s.routeBasePath.toList ++ ['/']) ++ (v.path.text.toList ++ tail) := by simp [hr]
    obtain ⟨t, rfl⟩ := exists_tail_eq_cons hsegment ht hbase
    exact ⟨t, by simp [hbase]⟩
  · rintro ⟨t, ht⟩
    refine ⟨isSegment_path v, '/' :: t, fun c hc ↦ by rw [← Option.mem_some.mp hc]; rfl, ?_⟩
    have hcons : '/' :: r =
        '/' :: (s.routeBasePath.toList ++ '/' :: (v.path.text.toList ++ '/' :: t)) := by
      simpa [hr] using ht.symm
    exact (List.cons.inj hcons).2

/-- The prefix is read as a request for a version exactly if it names the version. -/
theorem activeVersion_baseUrl_eq_matched_iff :
    s.activeVersion s.baseUrl.text = ⟨v, .matched⟩ ↔ v ∈ s.versions.toList ∧ s.PrefixNames v := by
  rw [activeVersion, Versions.select_eq_matched_iff, versionSegment?_baseUrl_eq_some_iff]

theorem activeVersion_baseUrl_eq_canonical_iff :
    (s.activeVersion s.baseUrl.text).version = s.versions.canonical ↔
      ∀ v ∈ s.versions.toList, s.PrefixNames v → v = s.versions.canonical := by
  constructor
  · intro h v hv hnames
    rw [activeVersion_baseUrl_eq_matched_iff.mpr ⟨hv, hnames⟩] at h
    exact h
  · intro h
    rcases s.versions.select_eq_matched_or_fallback (s.versionSegment? s.baseUrl.text) with
      ⟨v, hv⟩ | hv
    · obtain ⟨hmem, hnames⟩ := activeVersion_baseUrl_eq_matched_iff.mp hv
      rw [activeVersion, hv]
      exact h v hmem hnames
    · rw [activeVersion, hv]

/-! ## The root page -/

/-- **The root page is about the canonical version exactly if the path prefix names no other.** It
is about the version that the prefix names, if it names one. Where it is about the canonical
version, its install commands are those that are given without a request. -/
theorem root_page_is_canonical_iff (s : Site) :
    ((s.activeVersion s.baseUrl.text).version = s.versions.canonical ↔
        ∀ v ∈ s.versions.toList, s.PrefixNames v → v = s.versions.canonical) ∧
      (∀ v, s.activeVersion s.baseUrl.text = ⟨v, .matched⟩ ↔
        v ∈ s.versions.toList ∧ s.PrefixNames v) ∧
      ∀ (year : Int) (snippets : InstallSnippets) (lib : Liquid.Library) (page : HomePage),
        (∀ v ∈ s.versions.toList, s.PrefixNames v → v = s.versions.canonical) →
        InstallSnippets.ofTemplates s.snippets = .ok snippets →
        s.homePage (s.activeVersion s.baseUrl.text).version year snippets lib = .ok page →
        s.home.showInstall = true →
        ∃ block, page.install = some block ∧ block.version = s.versions.canonical.label ∧
          ∀ k, s.snippet none k = .ok (block.command k) := by
  refine ⟨activeVersion_baseUrl_eq_canonical_iff, fun _ ↦ activeVersion_baseUrl_eq_matched_iff,
    fun year snippets lib page hprefix hsnippets h ↦ ?_⟩
  -- as the prefix names no other version, this is the page that a request for none would get
  rw [activeVersion_baseUrl_eq_canonical_iff.mpr hprefix] at h
  exact exists_install_of_homePage none hsnippets h

end Site

/-! ## Two sites below an address of their own -/

/-- A configuration of a site with the versions `head` and `docs`, of which the first is canonical,
below the given prefix. -/
def Config.below (base : BaseUrl) : Config :=
  { minimal with
    baseUrl := some base
    snippets := ⟨"install \x7b\x7b version \x7d\x7d", "apply \x7b\x7b full_url \x7d\x7d"⟩ }

namespace Site

/-- A site below the address of its own canonical version. -/
theorem root_page_below_canonical :
    ∃ s snippets page, (Config.below ⟨"/docs/head/", by decide⟩).resolve none = .ok s ∧
      (∀ v ∈ s.versions.toList, s.PrefixNames v → v = s.versions.canonical) ∧
      InstallSnippets.ofTemplates s.snippets = .ok snippets ∧
      s.homePage (s.activeVersion s.baseUrl.text).version 2026 snippets .empty = .ok page ∧
      s.home.showInstall = true ∧
      ∃ block, page.install = some block ∧ block.version = s.versions.canonical.label ∧
        ∀ k, s.snippet none k = .ok (block.command k) := by
  have hrun : ((Config.below ⟨"/docs/head/", by decide⟩).resolve none).toOption.any (fun s ↦
      (InstallSnippets.ofTemplates s.snippets).toOption.any fun snippets ↦
      (s.homePage (s.activeVersion s.baseUrl.text).version 2026 snippets .empty).toOption.any
        fun _ ↦ s.home.showInstall &&
          decide (∀ v ∈ s.versions.toList, s.PrefixNames v → v = s.versions.canonical)) = true := by
    decide +kernel
  simp only [Steps.any_toOption_iff, Bool.and_eq_true, decide_eq_true_iff] at hrun
  obtain ⟨s, hs, snippets, hsnippets, page, hpage, hshow, hprefix⟩ := hrun
  exact ⟨s, snippets, page, hs, hprefix, hsnippets, hpage, hshow,
    (root_page_is_canonical_iff s).2.2 2026 snippets .empty page hprefix hsnippets hpage hshow⟩

/-- A site below the address of a later version: its root page is about that version, and neither
of its commands is the one that is given without a request. -/
theorem root_page_below_later_version :
    ∃ s snippets page block, (Config.below ⟨"/docs/docs/", by decide⟩).resolve none = .ok s ∧
      InstallSnippets.ofTemplates s.snippets = .ok snippets ∧
      s.homePage (s.activeVersion s.baseUrl.text).version 2026 snippets .empty = .ok page ∧
      page.install = some block ∧
      (s.activeVersion s.baseUrl.text).version ≠ s.versions.canonical ∧
      ∀ k, s.snippet none k ≠ .ok (block.command k) := by
  have hrun : ((Config.below ⟨"/docs/docs/", by decide⟩).resolve none).toOption.any (fun s ↦
      (InstallSnippets.ofTemplates s.snippets).toOption.any fun snippets ↦
      (s.homePage (s.activeVersion s.baseUrl.text).version 2026 snippets .empty).toOption.any
        fun page ↦ page.install.any fun block ↦
          decide ((s.activeVersion s.baseUrl.text).version ≠ s.versions.canonical) &&
            SnippetKind.all.all fun k ↦ (s.snippet none k).toOption ≠ some (block.command k)) =
      true := by
    decide +kernel
  simp only [Steps.any_toOption_iff] at hrun
  obtain ⟨s, hs, snippets, hsnippets, page, hpage, hpage'⟩ := hrun
  simp only [Option.any_eq_true, Bool.and_eq_true, decide_eq_true_iff, List.all_eq_true] at hpage'
  obtain ⟨block, hblock, hother, hlines⟩ := hpage'
  refine ⟨s, snippets, page, block, hs, hsnippets, hpage, hblock, hother, fun k hk ↦ ?_⟩
  have hmem : k ∈ SnippetKind.all := by cases k <;> decide
  exact hlines k hmem (congrArg Except.toOption hk)

end Site

end VersionedSite
