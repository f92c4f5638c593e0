import VersionedSite.Proofs.Liquid.Twin
import VersionedSite.Proofs.Site.Requests
import VersionedSite.Site.Install

/-!
# Trying out install commands

The templates of the install commands are tried out on one version before they are accepted. That
one trial decides for all sites and versions: the path of a version and the address of its
manifest are words, whatever the site, and so are the two texts of the trial. Conversely the trial
is itself a site and a version, so nothing that always works is refused.
-/

namespace VersionedSite

/-! ## The data of templates -/

theorem VersionPath.isWord (p : VersionPath) : Text.IsWord p.text.toList :=
  ⟨p.text_ne_nil, fun _ hc ↦ (p.allows_of_mem hc).notBlank⟩

theorem SiteUrl.isWord (u : SiteUrl) : Text.IsWord u.text.toList := by
  refine ⟨fun h ↦ ?_, fun _ hc ↦ u.notBlank_of_mem hc⟩
  obtain ⟨scheme, -, host, hne, htext, -⟩ := u.exists_host
  rw [h] at htext
  exact hne (List.append_eq_nil_iff.mp htext.symm).2

/-- The address of a manifest is put together from texts without blanks. -/
theorem installManifestUrl_isWord (url : SiteUrl) (base : BaseUrl) (path : VersionPath) :
    Text.IsWord (installManifestUrl url base path).toList := by
  have hreleases : Text.IsWord "releases/".toList := by decide
  have hinstall : Text.IsWord "/install.yaml".toList := by decide
  rw [installManifestUrl, String.toList_append, String.toList_append, String.toList_append,
    String.toList_append]
  exact (((url.isWord.append fun _ hc ↦ (base.allows_of_mem hc).notBlank).append
    hreleases.2).append path.isWord.2).append hinstall.2

namespace SnippetKind

open Liquid (StandsIn Twin)

/-- The data of the trial stand in for the data of every version. -/
theorem data_standsIn (k : SnippetKind) {path manifest : String}
    (hpath : Text.IsWord path.toList) (hmanifest : Text.IsWord manifest.toList) :
    StandsIn
      (Liquid.Value.field? · (k.data InstallSnippets.probePath InstallSnippets.probeManifest))
      (Liquid.Value.field? · (k.data path manifest)) := by
  have hversion : Twin (.text InstallSnippets.probePath) (.text path) :=
    ⟨.text (by decide), .text hpath, by decide⟩
  have hurl : Twin (.text InstallSnippets.probeManifest) (.text manifest) :=
    ⟨.text (by decide), .text hmanifest, by decide⟩
  intro name v hv
  simp only [Liquid.Value.field?, data, List.find?_cons] at hv ⊢
  split at hv
  · next heq =>
    obtain rfl := Option.some.inj hv
    exact ⟨.text path, rfl, hversion⟩
  · cases k with
    | packageManager => exact absurd hv (by simp)
    | directApply =>
      simp only [List.find?_cons] at hv ⊢
      split at hv
      · obtain rfl := Option.some.inj hv
        exact ⟨.text manifest, rfl, hurl⟩
      · exact absurd hv (by simp)

end SnippetKind

namespace InstallSnippets

variable {s : InstallSnippets} {k : SnippetKind}

/-! ## One line -/

theorem oneLine_eq_ok_iff {text line : String} :
    oneLine k text = .ok line ↔
      '\n' ∉ Text.trim text.toList ∧ line = String.ofList (Text.trim text.toList) := by
  rw [oneLine]
  by_cases h : '\n' ∈ Text.trim text.toList
  · simp [h]
  · simp [h, eq_comm]

theorem lineFor_eq_ok_iff (hs : ∀ n ∈ s.template k, n.IsPlain) {path manifest line : String} :
    s.lineFor k path manifest = .ok line ↔
      ∃ out, (s.template k).printed (Liquid.Value.field? · (k.data path manifest)) = .ok out ∧
        '\n' ∉ Text.trim out ∧ line = String.ofList (Text.trim out) := by
  rw [lineFor, Steps.bind_eq_ok_iff, Liquid.Library.render_plain hs]
  simp only [Steps.mapError_eq_ok_iff, Steps.map_eq_ok_iff, oneLine_eq_ok_iff]
  constructor
  · rintro ⟨-, ⟨out, hout, rfl⟩, h⟩
    rw [String.toList_ofList] at h
    exact ⟨out, hout, h⟩
  · rintro ⟨out, hout, h⟩
    refine ⟨String.ofList out, ⟨out, hout, rfl⟩, ?_⟩
    rwa [String.toList_ofList]

/-- A command is on one line. -/
theorem not_mem_newline_of_lineFor {path manifest line : String}
    (h : s.lineFor k path manifest = .ok line) : '\n' ∉ line.toList := by
  rw [lineFor] at h
  obtain ⟨text, -, h⟩ := Steps.bind_eq_ok_iff.mp h
  obtain ⟨hline, rfl⟩ := oneLine_eq_ok_iff.mp h
  rwa [String.toList_ofList]

/-! ## The trial -/

/-- A template that passes the trial gives a command for all words. -/
theorem exists_lineFor_of_probe (hs : ∀ n ∈ s.template k, n.IsPlain) {line : String}
    (h : s.lineFor k probePath probeManifest = .ok line) {path manifest : String}
    (hpath : Text.IsWord path.toList) (hmanifest : Text.IsWord manifest.toList) :
    ∃ line', s.lineFor k path manifest = .ok line' := by
  obtain ⟨out, hout, hline, -⟩ := (lineFor_eq_ok_iff hs).mp h
  obtain ⟨out', hout', hr⟩ :=
    Liquid.Template.printed_reworded (k.data_standsIn hpath hmanifest) hs hout
  exact ⟨_, (lineFor_eq_ok_iff hs).mpr ⟨out', hout', mt hr.trim.mem_newline_iff.mpr hline, rfl⟩⟩

theorem probe_eq_ok_iff :
    s.probe k = .ok () ↔ ∃ line, s.lineFor k probePath probeManifest = .ok line := by
  rw [probe, Steps.bind_eq_ok_iff]
  refine exists_congr fun line ↦ ?_
  rw [Steps.mapError_eq_ok_iff]
  exact and_iff_left rfl

theorem read_eq_ok_iff {source : String} {t : Liquid.Template} :
    read k source = .ok t ↔ Liquid.Template.ofChars .plain (Text.trim source.toList) = .ok t := by
  rw [read, Steps.mapError_eq_ok_iff]

theorem ofTemplates_eq_ok_iff {t : SnippetTemplates} :
    ofTemplates t = .ok s ↔
      read .packageManager t.packageManager = .ok s.packageManager ∧
        read .directApply t.directApply = .ok s.directApply ∧ ∀ k, s.probe k = .ok () := by
  simp only [ofTemplates, Steps.bind_eq_ok_iff]
  constructor
  · rintro ⟨p, hp, d, hd, ⟨⟩, htrial, ⟨⟩, htrial', h⟩
    obtain rfl := Except.ok.inj h
    refine ⟨hp, hd, fun k ↦ ?_⟩
    cases k with
    | packageManager => exact htrial
    | directApply => exact htrial'
  · rintro ⟨hp, hd, htrial⟩
    exact ⟨_, hp, _, hd, (), htrial .packageManager, (), htrial .directApply, rfl⟩

/-- What has been read is plain. -/
theorem isPlain_of_read {t : SnippetTemplates}
    (hp : read .packageManager t.packageManager = .ok s.packageManager)
    (hd : read .directApply t.directApply = .ok s.directApply) (k : SnippetKind) :
    ∀ n ∈ s.template k, n.IsPlain := by
  cases k with
  | packageManager => exact Liquid.Template.isPlain_of_ofChars (read_eq_ok_iff.mp hp)
  | directApply => exact Liquid.Template.isPlain_of_ofChars (read_eq_ok_iff.mp hd)

/-- Accepted templates give a command for every version of every site. -/
theorem exists_line_of_ofTemplates {t : SnippetTemplates} (h : ofTemplates t = .ok s)
    (k : SnippetKind) (site : Site) (v : Version) : ∃ line, s.line k site v = .ok line := by
  obtain ⟨hp, hd, htrial⟩ := ofTemplates_eq_ok_iff.mp h
  obtain ⟨trial, hline⟩ := probe_eq_ok_iff.mp (htrial k)
  exact exists_lineFor_of_probe (isPlain_of_read hp hd k) hline v.path.isWord
    (installManifestUrl_isWord site.url site.baseUrl v.path)

/-- Some site and version have the data of the trial. -/
theorem exists_line_eq_probe :
    ∃ (site : Site) (v : Version), ∀ (s : InstallSnippets) (k : SnippetKind),
      s.line k site v = s.lineFor k probePath probeManifest := by
  -- any site will do, once it is served from where the trial pretends to be
  obtain ⟨site, -⟩ : ∃ site, Config.minimal.resolve none = .ok site := ⟨_, rfl⟩
  exact ⟨{ site with url := ⟨"https://example.invalid", by decide⟩, baseUrl := .root },
    ⟨"", ⟨probePath, by decide⟩⟩, fun _ _ ↦ rfl⟩

/-- **One trial decides.** Templates are accepted exactly if both can be read and each gives a
command on one line for every version of every site. -/
theorem ofTemplates_eq_ok_iff_always_one_line {t : SnippetTemplates} :
    ofTemplates t = .ok s ↔
      read .packageManager t.packageManager = .ok s.packageManager ∧
        read .directApply t.directApply = .ok s.directApply ∧
          ∀ (k : SnippetKind) (site : Site) (v : Version),
            ∃ line, s.line k site v = .ok line ∧ '\n' ∉ line.toList := by
  rw [ofTemplates_eq_ok_iff]
  refine and_congr_right fun hp ↦ and_congr_right fun hd ↦ ⟨fun htrial k site v ↦ ?_, fun h k ↦ ?_⟩
  · obtain ⟨trial, h⟩ := probe_eq_ok_iff.mp (htrial k)
    obtain ⟨line, hline⟩ := exists_lineFor_of_probe (isPlain_of_read hp hd k) h v.path.isWord
      (installManifestUrl_isWord site.url site.baseUrl v.path)
    exact ⟨line, hline, not_mem_newline_of_lineFor hline⟩
  · obtain ⟨site, v, hsame⟩ := exists_line_eq_probe
    obtain ⟨line, hline, -⟩ := h k site v
    exact probe_eq_ok_iff.mpr ⟨line, hsame s k ▸ hline⟩

end InstallSnippets

end VersionedSite
