import VersionedSite.Proofs.Liquid.Written
import VersionedSite.Proofs.Site.Trial

/-!
# What install commands are made of

A template of an install command that is put together from literal texts and from the two values
that there are: the version, and the address of its manifest. Such a template is refused for one
of two reasons alone, a line break that is not at its ends or a value that its kind is not given,
and it never fails otherwise: the command is the template with the values filled in.

The template is trimmed when it is read and the command when it is printed. Both lose the same
characters, since a value is a word and is written between braces.
-/

namespace VersionedSite

open Liquid (Mark)

/-! ## Pieces -/

/-- A part of a template. -/
inductive SnippetPiece where
  /-- A text without braces. -/
  | literal (text : String) (plain : '{' ∉ text.toList ∧ '}' ∉ text.toList)
  | version
  /-- The address of the manifest. -/
  | fullUrl

namespace SnippetPiece

/-- How the piece is written. -/
def source : SnippetPiece → String
  | literal text _ => text
  | version => "\x7b\x7b version \x7d\x7d"
  | fullUrl => "\x7b\x7b full_url \x7d\x7d"

/-- What the piece stands for. -/
def filled (path manifest : String) : SnippetPiece → String
  | literal text _ => text
  | version => path
  | fullUrl => manifest

/-- The marks that the piece is written with. -/
def marks : SnippetPiece → List Mark
  | literal text _ => text.toList.map .char
  | version => [.name "version"]
  | fullUrl => [.name "full_url"]

theorem isName_version : Liquid.IsName "version" := ⟨by decide, by decide, by decide⟩

theorem isName_fullUrl : Liquid.IsName "full_url" := ⟨by decide, by decide, by decide⟩

theorem isReadable_marks (p : SnippetPiece) : ∀ m ∈ p.marks, m.IsReadable := by
  cases p with
  | literal text plain =>
    intro m hm
    obtain ⟨c, hc, rfl⟩ := List.mem_map.mp hm
    exact .char fun h ↦ plain.1 (h ▸ hc)
  | version => exact fun m hm ↦ List.mem_singleton.mp hm ▸ .name isName_version
  | fullUrl => exact fun m hm ↦ List.mem_singleton.mp hm ▸ .name isName_fullUrl

theorem flatMap_char {f : Mark → List Char} (hchar : ∀ c, f (.char c) = [c]) (s : List Char) :
    (s.map Mark.char).flatMap f = s := by
  rw [List.flatMap_map]
  simp only [hchar, List.flatMap_singleton']

theorem toList_source (p : SnippetPiece) : p.source.toList = p.marks.flatMap Mark.source := by
  cases p with
  | literal text plain => exact (flatMap_char (fun _ ↦ rfl) _).symm
  | version => rfl
  | fullUrl => rfl

end SnippetPiece

namespace SnippetKind

open Liquid.Value (field?)

variable {k : SnippetKind} {path manifest : String}

theorem field?_version : field? "version" (k.data path manifest) = some (.text path) := rfl

theorem field?_fullUrl (hk : k ≠ .packageManager) :
    field? "full_url" (k.data path manifest) = some (.text manifest) := by
  cases k with
  | packageManager => exact absurd rfl hk
  | directApply => rfl

end SnippetKind

/-! ## Sequences of pieces -/

namespace SnippetPiece

variable {k : SnippetKind} {path manifest : String} {ps : List SnippetPiece}

/-- The template that the pieces are put together to. -/
def sourceOf (ps : List SnippetPiece) : String := String.join (ps.map source)

/-- The pieces with a version and the address of its manifest filled in. -/
def filledOf (path manifest : String) (ps : List SnippetPiece) : String :=
  String.join (ps.map (filled path manifest))

def marksOf (ps : List SnippetPiece) : List Mark := ps.flatMap marks

/-- The template that the pieces are read as. -/
def templateOf (ps : List SnippetPiece) : Liquid.Template :=
  Mark.template (Mark.trimmed (marksOf ps))

/-- The kind is given every value that the pieces ask for. -/
def GivenTo (k : SnippetKind) (ps : List SnippetPiece) : Prop :=
  k = .packageManager → .fullUrl ∉ ps

theorem GivenTo.ne_packageManager (h : GivenTo k ps) (hp : .fullUrl ∈ ps) :
    k ≠ .packageManager :=
  fun hk ↦ h hk hp

theorem isReadable_marksOf (ps : List SnippetPiece) : ∀ m ∈ marksOf ps, m.IsReadable := by
  intro m hm
  obtain ⟨p, -, hp⟩ := List.mem_flatMap.mp hm
  exact p.isReadable_marks m hp

theorem toList_sourceOf (ps : List SnippetPiece) :
    (sourceOf ps).toList = (marksOf ps).flatMap Mark.source := by
  rw [sourceOf, String.toList_join, List.flatMap_map, marksOf, List.flatMap_assoc]
  simp only [toList_source]

/-- A name is written by a piece of its own. -/
theorem mem_of_name_mem_marksOf {n : String} (h : .name n ∈ marksOf ps) :
    .version ∈ ps ∧ n = "version" ∨ .fullUrl ∈ ps ∧ n = "full_url" := by
  obtain ⟨p, hp, hn⟩ := List.mem_flatMap.mp h
  cases p with
  | literal text plain =>
    obtain ⟨c, -, hc⟩ := List.mem_map.mp hn
    exact absurd hc (by simp)
  | version => exact .inl ⟨hp, Mark.name.inj (List.mem_singleton.mp hn)⟩
  | fullUrl => exact .inr ⟨hp, Mark.name.inj (List.mem_singleton.mp hn)⟩

/-- The one value that a kind may lack is the address of the manifest. -/
theorem givenTo_iff :
    GivenTo k ps ↔ ∀ n, .name n ∈ marksOf ps →
      (Liquid.Value.field? n (k.data path manifest)).isSome = true := by
  constructor
  · intro h n hn
    rcases mem_of_name_mem_marksOf hn with ⟨-, rfl⟩ | ⟨hp, rfl⟩
    · rfl
    · rw [SnippetKind.field?_fullUrl (h.ne_packageManager hp)]
      rfl
  · rintro h rfl hp
    have hname : .name "full_url" ∈ marksOf ps :=
      List.mem_flatMap.mpr ⟨.fullUrl, hp, List.mem_singleton_self _⟩
    have hnone : Liquid.Value.field? "full_url"
        (SnippetKind.packageManager.data path manifest) = none := rfl
    exact absurd (h _ hname) (by simp [hnone])

/-- The values are words. -/
theorem GivenTo.hasWords (h : GivenTo k ps) (hpath : Text.IsWord path.toList)
    (hmanifest : Text.IsWord manifest.toList) :
    Mark.HasWords (Liquid.Value.field? · (k.data path manifest)) (marksOf ps) := by
  intro n hn
  rcases mem_of_name_mem_marksOf hn with ⟨-, rfl⟩ | ⟨hp, rfl⟩
  · exact ⟨.text path, SnippetKind.field?_version, hpath⟩
  · exact ⟨.text manifest, SnippetKind.field?_fullUrl (h.ne_packageManager hp), hmanifest⟩

theorem GivenTo.toList_filledOf (h : GivenTo k ps) :
    (filledOf path manifest ps).toList =
      (marksOf ps).flatMap (Mark.chars (Liquid.Value.field? · (k.data path manifest))) := by
  have hpiece : ∀ p ∈ ps, (p.filled path manifest).toList =
      p.marks.flatMap (Mark.chars (Liquid.Value.field? · (k.data path manifest))) := by
    intro p hp
    cases p with
    | literal text plain => exact (flatMap_char (fun _ ↦ rfl) _).symm
    | version => exact (List.append_nil _).symm
    | fullUrl =>
      rw [marks, List.flatMap_singleton, Mark.chars,
        SnippetKind.field?_fullUrl (h.ne_packageManager hp)]
      rfl
  rw [filledOf, String.toList_join, List.flatMap_map, marksOf, List.flatMap_assoc]
  exact List.flatMap_congr hpiece

/-- Filling in moves no line break to the ends and none away from them. -/
theorem GivenTo.newline_mem_trim_iff (h : GivenTo k ps) (hpath : Text.IsWord path.toList)
    (hmanifest : Text.IsWord manifest.toList) :
    '\n' ∈ Text.trim (filledOf path manifest ps).toList ↔
      '\n' ∈ Text.trim (sourceOf ps).toList := by
  rw [h.toList_filledOf, toList_sourceOf]
  exact Mark.newline_mem_trim_iff (isReadable_marksOf ps) (h.hasWords hpath hmanifest)

end SnippetPiece

/-! ## Templates -/

/-- The template of a kind. -/
def SnippetTemplates.source (t : SnippetTemplates) : SnippetKind → String
  | .packageManager => t.packageManager
  | .directApply => t.directApply

/-- The templates with another one of a kind. -/
def SnippetTemplates.withSource (t : SnippetTemplates) (k : SnippetKind) (source : String) :
    SnippetTemplates :=
  match k with
  | .packageManager => { t with packageManager := source }
  | .directApply => { t with directApply := source }

theorem SnippetTemplates.source_withSource (t : SnippetTemplates) (k l : SnippetKind)
    (source : String) :
    (t.withSource k source).source l = if l = k then source else t.source l := by
  cases k <;> cases l <;> rfl

namespace InstallSnippets

variable {s s₀ : InstallSnippets} {t : SnippetTemplates} {k : SnippetKind} {ps : List SnippetPiece}
  {path manifest : String}

/-- The read templates with another one of a kind. -/
def withTemplate (s : InstallSnippets) (k : SnippetKind) (t : Liquid.Template) : InstallSnippets :=
  match k with
  | .packageManager => { s with packageManager := t }
  | .directApply => { s with directApply := t }

theorem template_withTemplate (s : InstallSnippets) (k l : SnippetKind) (t : Liquid.Template) :
    (s.withTemplate k t).template l = if l = k then t else s.template l := by
  cases k <;> cases l <;> rfl

/-- The trial of a kind is about its template alone. -/
theorem probe_congr {s s' : InstallSnippets} (h : s.template k = s'.template k) :
    s.probe k = s'.probe k := by
  rw [probe, probe, lineFor, lineFor, h]

/-- Each kind is read and tried out for itself. -/
theorem ofTemplates_eq_ok_iff_forall :
    ofTemplates t = .ok s ↔
      ∀ k, read k (t.source k) = .ok (s.template k) ∧ s.probe k = .ok () := by
  rw [ofTemplates_eq_ok_iff]
  constructor
  · rintro ⟨hp, hd, htrial⟩ k
    cases k with
    | packageManager => exact ⟨hp, htrial _⟩
    | directApply => exact ⟨hd, htrial _⟩
  · intro h
    exact ⟨(h .packageManager).1, (h .directApply).1, fun k ↦ (h k).2⟩

/-- Of accepted templates, one is replaced by any other that is read and passes the trial. -/
theorem exists_ofTemplates_withSource_iff {source : String} (h : ofTemplates t = .ok s₀) :
    (∃ s, ofTemplates (t.withSource k source) = .ok s) ↔
      ∃ s : InstallSnippets, read k source = .ok (s.template k) ∧ s.probe k = .ok () := by
  constructor
  · rintro ⟨s, hs⟩
    have hk := ofTemplates_eq_ok_iff_forall.mp hs k
    rw [SnippetTemplates.source_withSource, if_pos rfl] at hk
    exact ⟨s, hk⟩
  · rintro ⟨s, hread, hprobe⟩
    refine ⟨s₀.withTemplate k (s.template k), ofTemplates_eq_ok_iff_forall.mpr fun l ↦ ?_⟩
    have htemplate := template_withTemplate s₀ k l (s.template k)
    rw [SnippetTemplates.source_withSource]
    by_cases hl : l = k
    · subst hl
      rw [if_pos rfl] at htemplate
      rw [if_pos rfl, htemplate, probe_congr htemplate]
      exact ⟨hread, hprobe⟩
    · rw [if_neg hl] at htemplate
      rw [if_neg hl, htemplate, probe_congr htemplate]
      exact ofTemplates_eq_ok_iff_forall.mp h l

/-! ## Commands -/

theorem ofChars_sourceOf (ps : List SnippetPiece) :
    Liquid.Template.ofChars .plain (Text.trim (SnippetPiece.sourceOf ps).toList) =
      .ok (SnippetPiece.templateOf ps) := by
  rw [SnippetPiece.toList_sourceOf, Mark.trim_flatMap_source]
  refine (Mark.readAs_template fun m hm ↦ ?_).ofChars
  exact SnippetPiece.isReadable_marksOf ps m (Text.mem_of_mem_trimItems hm)

theorem read_sourceOf_eq_ok_iff {template : Liquid.Template} :
    read k (SnippetPiece.sourceOf ps) = .ok template ↔ template = SnippetPiece.templateOf ps := by
  rw [read_eq_ok_iff, ofChars_sourceOf, Except.ok.injEq, eq_comm]

/-- What the template prints, for all words. -/
theorem printed_templateOf_eq_ok_iff (hpath : Text.IsWord path.toList)
    (hmanifest : Text.IsWord manifest.toList) {line : List Char} :
    (∃ out, (SnippetPiece.templateOf ps).printed
        (Liquid.Value.field? · (k.data path manifest)) = .ok out ∧ Text.trim out = line) ↔
      SnippetPiece.GivenTo k ps ∧
        Text.trim (SnippetPiece.filledOf path manifest ps).toList = line := by
  have hknown : (∀ n, .name n ∈ Mark.trimmed (SnippetPiece.marksOf ps) →
      (Liquid.Value.field? n (k.data path manifest)).isSome = true) ↔
        SnippetPiece.GivenTo k ps := by
    simp only [Mark.name_mem_trimmed_iff]
    exact SnippetPiece.givenTo_iff.symm
  -- the template has lost the blanks at its ends already, and the printed text loses no more
  have htrim (h : SnippetPiece.GivenTo k ps) :
      Text.trim ((Mark.trimmed (SnippetPiece.marksOf ps)).flatMap
          (Mark.chars (Liquid.Value.field? · (k.data path manifest)))) =
        Text.trim (SnippetPiece.filledOf path manifest ps).toList := by
    rw [← Mark.trim_flatMap_chars (h.hasWords hpath hmanifest), Text.trim_trim, h.toList_filledOf]
  simp only [SnippetPiece.templateOf, Mark.printed_template_eq_ok_iff, hknown]
  constructor
  · rintro ⟨_, ⟨hgiven, rfl⟩, rfl⟩
    exact ⟨hgiven, (htrim hgiven).symm⟩
  · rintro ⟨hgiven, rfl⟩
    exact ⟨_, ⟨hgiven, rfl⟩, htrim hgiven⟩

/-- The command of a template that has been read from pieces, for all words. -/
theorem lineFor_eq_ok_iff_filled (hs : s.template k = SnippetPiece.templateOf ps)
    (hpath : Text.IsWord path.toList) (hmanifest : Text.IsWord manifest.toList) {line : String} :
    s.lineFor k path manifest = .ok line ↔
      (SnippetPiece.GivenTo k ps ∧ '\n' ∉ Text.trim (SnippetPiece.sourceOf ps).toList) ∧
        line = String.ofList (Text.trim (SnippetPiece.filledOf path manifest ps).toList) := by
  have hplain : ∀ n ∈ s.template k, n.IsPlain := by
    rw [hs]
    exact Liquid.Template.isPlain_of_ofChars (ofChars_sourceOf ps)
  rw [lineFor_eq_ok_iff hplain, hs]
  constructor
  · rintro ⟨out, hout, hline, rfl⟩
    obtain ⟨hgiven, htrim⟩ := (printed_templateOf_eq_ok_iff hpath hmanifest).mp ⟨out, hout, rfl⟩
    have hbreak := hgiven.newline_mem_trim_iff hpath hmanifest
    rw [← htrim] at hline ⊢
    exact ⟨⟨hgiven, mt hbreak.mpr hline⟩, rfl⟩
  · rintro ⟨⟨hgiven, hline⟩, rfl⟩
    obtain ⟨out, hout, htrim⟩ := (printed_templateOf_eq_ok_iff hpath hmanifest).mpr ⟨hgiven, rfl⟩
    have hbreak := hgiven.newline_mem_trim_iff hpath hmanifest
    refine ⟨out, hout, ?_, by rw [htrim]⟩
    rw [htrim]
    exact mt hbreak.mp hline

/-- The trial is passed exactly if every value is given and no line break is left. -/
theorem probe_eq_ok_iff_of_pieces (hs : s.template k = SnippetPiece.templateOf ps) :
    s.probe k = .ok () ↔
      SnippetPiece.GivenTo k ps ∧ '\n' ∉ Text.trim (SnippetPiece.sourceOf ps).toList := by
  have hpath : Text.IsWord probePath.toList := by decide
  have hmanifest : Text.IsWord probeManifest.toList := by decide
  rw [probe_eq_ok_iff]
  simp only [lineFor_eq_ok_iff_filled hs hpath hmanifest, exists_and_left, exists_eq, and_true]

/-- **Templates are filled in exactly.** In the place of one of two accepted templates, one that is
put together from pieces is accepted exactly if its kind is given all of them and no line break is
left when it is trimmed; and then the command for a version of a site is the pieces with the path
of the version and the address of its manifest filled in, trimmed. -/
theorem pieces_are_filled_in (h : ofTemplates t = .ok s₀) (k : SnippetKind)
    (ps : List SnippetPiece) :
    ((∃ s, ofTemplates (t.withSource k (SnippetPiece.sourceOf ps)) = .ok s) ↔
        (k = .packageManager → .fullUrl ∉ ps) ∧
          '\n' ∉ Text.trim (SnippetPiece.sourceOf ps).toList) ∧
      ∀ s, ofTemplates (t.withSource k (SnippetPiece.sourceOf ps)) = .ok s →
        ∀ (site : Site) (v : Version),
          s.line k site v = .ok (String.ofList (Text.trim (SnippetPiece.filledOf v.path.text
            (site.url.text ++ site.baseUrl.text ++ "releases/" ++ v.path.text ++ "/install.yaml")
            ps).toList)) := by
  refine ⟨?_, fun s hs site v ↦ ?_⟩
  · rw [exists_ofTemplates_withSource_iff h]
    constructor
    · rintro ⟨s, hread, hprobe⟩
      exact (probe_eq_ok_iff_of_pieces (read_sourceOf_eq_ok_iff.mp hread)).mp hprobe
    · intro hpieces
      have htemplate := template_withTemplate s₀ k k (SnippetPiece.templateOf ps)
      rw [if_pos rfl] at htemplate
      exact ⟨_, read_sourceOf_eq_ok_iff.mpr htemplate,
        (probe_eq_ok_iff_of_pieces htemplate).mpr hpieces⟩
  · obtain ⟨hread, hprobe⟩ := ofTemplates_eq_ok_iff_forall.mp hs k
    rw [SnippetTemplates.source_withSource, if_pos rfl] at hread
    have htemplate := read_sourceOf_eq_ok_iff.mp hread
    have hpieces := (probe_eq_ok_iff_of_pieces htemplate).mp hprobe
    exact (lineFor_eq_ok_iff_filled htemplate v.path.isWord
      (installManifestUrl_isWord site.url site.baseUrl v.path)).mpr ⟨hpieces, rfl⟩

/-- The line breaks around the command are no part of it. The package manager is not given the
address. -/
theorem minimal_docs_by_curl :
    let source := "\n  curl -sL \x7b\x7b full_url \x7d\x7d | kubectl apply -f -\n"
    ∃ site v s₀ s, Config.minimal.resolve none = .ok site ∧ v ∈ site.versions.toList ∧
      v.path.text = "docs" ∧ ofTemplates site.snippets = .ok s₀ ∧
      ofTemplates (site.snippets.withSource .directApply source) = .ok s ∧
      s.line .directApply site v =
        .ok "curl -sL https://example.org/docs/releases/docs/install.yaml | kubectl apply -f -" ∧
      ¬∃ s, ofTemplates (site.snippets.withSource .packageManager source) = .ok s := by
  intro source
  let curl : List SnippetPiece := [.literal "\n  curl -sL " (by decide), .fullUrl,
    .literal " | kubectl apply -f -\n" (by decide)]
  have hsource : SnippetPiece.sourceOf curl = source := by decide +kernel
  have hline : '\n' ∉ Text.trim (SnippetPiece.sourceOf curl).toList := by decide +kernel
  have hrun : (Config.minimal.resolve none).toOption.any (fun site ↦
      (ofTemplates site.snippets).toOption.any fun _ ↦ site.versions.toList.any fun v ↦
        v.path.text == "docs" && site.url.text == "https://example.org" &&
          site.baseUrl.text == "/docs/") = true := by
    decide +kernel
  simp only [Steps.any_toOption_iff, List.any_eq_true, Bool.and_eq_true, beq_iff_eq] at hrun
  obtain ⟨site, hsite, s₀, hs₀, v, hv, ⟨hpath, hurl⟩, hbase⟩ := hrun
  obtain ⟨hdirect, hfilled⟩ := pieces_are_filled_in hs₀ .directApply curl
  obtain ⟨hmanager, -⟩ := pieces_are_filled_in hs₀ .packageManager curl
  obtain ⟨s, hs⟩ := hdirect.mpr ⟨fun h ↦ absurd h (by decide), hline⟩
  have hcommand := hfilled s hs site v
  rw [hpath, hurl, hbase] at hcommand
  have htext : String.ofList (Text.trim (SnippetPiece.filledOf "docs"
      ("https://example.org" ++ "/docs/" ++ "releases/" ++ "docs" ++ "/install.yaml")
        curl).toList) =
      "curl -sL https://example.org/docs/releases/docs/install.yaml | kubectl apply -f -" := by
    decide +kernel
  rw [hsource] at hs hmanager
  refine ⟨site, v, s₀, s, hsite, hv, hpath, hs₀, hs, htext ▸ hcommand, fun h ↦ ?_⟩
  exact (hmanager.mp h).1 rfl (by simp [curl])

end InstallSnippets

end VersionedSite
