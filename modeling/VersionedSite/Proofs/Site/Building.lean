import VersionedSite.Proofs.Page.Copyright
import VersionedSite.Proofs.Tree.Touching

/-!
# Building a site

A build works out two texts and writes them into the destination. It fails over what it builds
before anything is written, and over the tree only while it writes; in any case nothing is touched
but the two files and the directories on the way to them.

Of the two texts the manifest depends on the site alone. The page depends on the site, on the year,
and on the moment of the build, but on the moment through the copyright line only: two builds write
the same page exactly if they write the same line. A line that is made without dates is the same at
any moment.
-/

namespace VersionedSite

open Liquid (Template)

namespace Site

variable {s : Site} {year : Int} {now now' : Calendar.Moment} {w : Workspace} {home : String}
  {f : Failure}

/-! ## The line and the page -/

/-- The copyright line of a year is the same at both moments. -/
def SignsAlike (s : Site) (year : Int) (now now' : Calendar.Moment) : Prop :=
  s.copyright (Page.bundled.atMoment now') year = s.copyright (Page.bundled.atMoment now) year

/-- The copyright line is made without dates. -/
def SignsTimelessly (s : Site) : Prop :=
  ∀ source t, s.footer.copyright = some source → Template.ofString .standard source = .ok t →
    t.isTimeless = true

theorem SignsTimelessly.signsAlike (h : s.SignsTimelessly) (year : Int)
    (now now' : Calendar.Moment) : s.SignsAlike year now now' := by
  rw [SignsAlike, copyright, copyright]
  cases hsource : s.footer.copyright with
  | none => rfl
  | some source =>
    cases hread : Template.ofString .standard source with
    | error e => simp only [hread]
    | ok t =>
      have hrender := Liquid.Library.render_atMoment Page.bundled_isTimeless
        (h source t hsource hread) [("year", .int year)] now' now
      simp only [hread, hrender]

/-- There is a line exactly if the site has a template for it. -/
theorem isSome_of_copyright {lib : Liquid.Library} {line : Option String}
    (h : s.copyright lib year = .ok line) : line.isSome = s.footer.copyright.isSome := by
  rw [copyright] at h
  cases hsource : s.footer.copyright with
  | none =>
    rw [hsource] at h
    rw [← Except.ok.inj h, Option.isSome_none]
  | some source =>
    rw [hsource] at h
    dsimp only at h
    split at h
    · cases h
    · split at h
      · cases h
      · rw [← Except.ok.inj h, Option.isSome_some, Option.isSome_some]

theorem homeText_eq_ok_iff :
    s.homeText year now = .ok home ↔
      ∃ snippets install line, InstallSnippets.ofTemplates s.snippets = .ok snippets ∧
        s.installBlock snippets (s.activeVersion s.baseUrl.text).version = .ok install ∧
        s.copyright (Page.bundled.atMoment now) year = .ok line ∧
        Page.render (Page.bundled.atMoment now)
          (s.pageAround (s.activeVersion s.baseUrl.text).version install line) = .ok home := by
  rw [homeText]
  constructor
  · intro h
    obtain ⟨snippets, hsnippets, h⟩ := Steps.bind_eq_ok_iff.mp h
    obtain ⟨page, hpage, h⟩ := Steps.bind_eq_ok_iff.mp h
    obtain ⟨install, line, hinstall, hline, rfl⟩ := homePage_eq_ok_iff.mp hpage
    exact ⟨snippets, install, line, Steps.mapError_eq_ok_iff.mp hsnippets, hinstall, hline,
      Steps.mapError_eq_ok_iff.mp h⟩
  · rintro ⟨snippets, install, line, hsnippets, hinstall, hline, hrender⟩
    refine Steps.bind_eq_ok_iff.mpr ⟨snippets, Steps.mapError_eq_ok_iff.mpr hsnippets, ?_⟩
    refine Steps.bind_eq_ok_iff.mpr
      ⟨_, homePage_eq_ok_iff.mpr ⟨install, line, hinstall, hline, rfl⟩, ?_⟩
    exact Steps.mapError_eq_ok_iff.mpr hrender

/-- Nothing but the install commands and the copyright line can keep a page from being written. -/
theorem exists_homeText
    (hsnippets : ∃ snippets, InstallSnippets.ofTemplates s.snippets = .ok snippets)
    (hline : ∃ line, s.copyright (Page.bundled.atMoment now) year = .ok line) :
    ∃ home, s.homeText year now = .ok home := by
  obtain ⟨snippets, hsnippets⟩ := hsnippets
  obtain ⟨line, hline⟩ := hline
  obtain ⟨install, hinstall⟩ :=
    exists_installBlock hsnippets (s.activeVersion s.baseUrl.text).version
  obtain ⟨home, hhome⟩ := Page.exists_render
    (s.pageAround (s.activeVersion s.baseUrl.text).version install line) now
  exact ⟨home, homeText_eq_ok_iff.mpr ⟨snippets, install, line, hsnippets, hinstall, hline, hhome⟩⟩

theorem pageAround_eq_signed (s : Site) (v : Version) (install : Option InstallBlock)
    (line : Option String) :
    s.pageAround v install line = (s.pageAround v install none).signed line := rfl

/-- The page is the same at another moment exactly if the copyright line is. -/
theorem homeText_eq_iff_signsAlike (h : s.homeText year now = .ok home) (now' : Calendar.Moment) :
    s.homeText year now' = .ok home ↔ s.SignsAlike year now now' := by
  obtain ⟨snippets, install, line, hsnippets, hinstall, hline, hrender⟩ :=
    homeText_eq_ok_iff.mp h
  rw [SignsAlike, hline]
  constructor
  · intro h'
    obtain ⟨snippets', install', line', hsnippets', hinstall', hline', hrender'⟩ :=
      homeText_eq_ok_iff.mp h'
    obtain rfl := Except.ok.inj (hsnippets.symm.trans hsnippets')
    obtain rfl := Except.ok.inj (hinstall.symm.trans hinstall')
    rw [Page.render_atMoment _ now' now, ← hrender] at hrender'
    have hsome := (isSome_of_copyright hline').trans (isSome_of_copyright hline).symm
    rw [hline']
    cases line with
    | none =>
      obtain rfl : line' = none := by simpa using hsome
      rfl
    | some text =>
      obtain ⟨text', rfl⟩ := Option.isSome_iff_exists.mp hsome
      rw [pageAround_eq_signed _ _ _ (some text'), pageAround_eq_signed _ _ _ (some text)]
        at hrender'
      rw [Page.render_signed_inj hrender']
  · intro hline'
    rw [Page.render_atMoment _ now now'] at hrender
    exact homeText_eq_ok_iff.mpr
      ⟨snippets, install, line, hsnippets, hinstall, hline', hrender⟩

/-! ## Writing -/

def homePath (s : Site) : String := Path.join s.destination homeFileName

def versionsPath (s : Site) : String := Path.join s.destination versionsFileName

theorem homePath_ne_versionsPath (s : Site) : s.homePath ≠ s.versionsPath := fun h ↦
  absurd (Path.join_inj (by decide) (by decide) h) (by decide)

/-- The files of a site by their names in the destination. -/
def files (s : Site) (home : String) : List (String × String) :=
  [(homeFileName, home), (versionsFileName, s.manifestText)]

theorem isName_of_mem_files : ∀ f ∈ s.files home, Path.IsName f.1 := by
  have hnames : ∀ name ∈ [homeFileName, versionsFileName], Path.IsName name := by decide
  intro f hf
  exact hnames f.1 (List.mem_map_of_mem hf)

theorem buildFor_of_homeText (h : s.homeText year now = .ok home) (w : Workspace) :
    s.buildFor year now w =
      w.writeOutputs ((s.files home).map fun f ↦ (Path.join s.destination f.1, f.2)) := by
  rw [buildFor, outputs, h]
  rfl

/-- A page that cannot be made leaves everything alone. -/
theorem buildFor_of_error (h : s.homeText year now = .error f) (w : Workspace) :
    s.buildFor year now w = ⟨[], .error f, w⟩ := by
  rw [buildFor, outputs, h]
  rfl

theorem exists_wrote_buildFor (h : s.homeText year now = .ok home) (w : Workspace) :
    ∃ done rest, s.files home = done ++ rest ∧
      Workspace.Wrote s.destination done rest w (s.buildFor year now w) := by
  have hnodup : ((s.files home).map (·.1)).Nodup := by
    have hnames : [homeFileName, versionsFileName].Nodup := by decide
    exact hnames
  rw [buildFor_of_homeText h]
  exact Workspace.exists_wrote s.destination isName_of_mem_files hnodup w

theorem touches_buildFor (s : Site) (year : Int) (now : Calendar.Moment) (w : Workspace) :
    w.Touches s.destination [homeFileName, versionsFileName] (s.buildFor year now w).workspace := by
  cases hhome : s.homeText year now with
  | error f =>
    rw [buildFor_of_error hhome]
    exact .refl _ _ w
  | ok home =>
    obtain ⟨done, rest, hfiles, hwrote⟩ := exists_wrote_buildFor hhome w
    have hall : w.Touches s.destination ((s.files home).map (·.1)) _ :=
      hfiles ▸ hwrote.touches_all
    exact hall

/-- The page comes before the manifest: it has been written, or the manifest has not been begun. -/
theorem written_or_not_begun (h : s.homeText year now = .ok home) (w : Workspace) :
    ((s.buildFor year now w).workspace.readText s.homePath = .ok home ∧
        (s.buildFor year now w).begun = [s.homePath, s.versionsPath]) ∨
      w.Touches s.destination [homeFileName] (s.buildFor year now w).workspace ∧
        (s.buildFor year now w).begun = [s.homePath] := by
  obtain ⟨done, rest, hfiles, hwrote⟩ := exists_wrote_buildFor h w
  have hbegun := hwrote.begun
  have htouches := hwrote.touches
  cases done with
  | nil =>
    -- the page is the file that could not be written
    have hfirst : [] ++ rest.take 1 = [(homeFileName, home)] := by
      rw [← List.nil_append rest, ← hfiles, files, List.nil_append, List.take_succ_cons,
        List.take_zero]
    rw [hfirst] at hbegun htouches
    exact .inr ⟨htouches, hbegun⟩
  | cons first done =>
    obtain ⟨rfl, hmore⟩ := List.cons.inj hfiles
    -- whether or not it could be written, the manifest has been begun
    have hall : done ++ rest.take 1 = [(versionsFileName, s.manifestText)] := by
      rcases List.append_eq_singleton_iff.mp hmore.symm with ⟨rfl, rfl⟩ | ⟨rfl, rfl⟩
      · rfl
      · rfl
    rw [List.cons_append, hall] at hbegun
    have hread := hwrote.read (homeFileName, home) List.mem_cons_self
    exact .inl ⟨hread, hbegun⟩

theorem written_of_begun (h : s.versionsPath ∈ (s.buildFor year now w).begun) :
    ∃ home, s.homeText year now = .ok home ∧
      (s.buildFor year now w).workspace.readText s.homePath = .ok home := by
  cases hhome : s.homeText year now with
  | error f =>
    rw [buildFor_of_error hhome] at h
    exact absurd h List.not_mem_nil
  | ok home =>
    rcases written_or_not_begun hhome w with ⟨hread, -⟩ | ⟨-, hbegun⟩
    · exact ⟨home, rfl, hread⟩
    · rw [hbegun, List.mem_singleton] at h
      exact absurd h.symm s.homePath_ne_versionsPath

theorem touches_of_not_begun (h : s.versionsPath ∉ (s.buildFor year now w).begun) :
    w.Touches s.destination [homeFileName] (s.buildFor year now w).workspace := by
  cases hhome : s.homeText year now with
  | error f =>
    rw [buildFor_of_error hhome]
    exact .refl _ _ w
  | ok home =>
    rcases written_or_not_begun hhome w with ⟨-, hbegun⟩ | ⟨htouches, -⟩
    · rw [hbegun] at h
      exact absurd (by simp) h
    · exact htouches

/-- Once the page has been made, it is the tree that a build fails over. -/
theorem failure_of_buildFor (h : s.homeText year now = .ok home)
    (hf : (s.buildFor year now w).result = .error f) : ∃ what e, f = stepFailure what e := by
  obtain ⟨done, rest, -, hwrote⟩ := exists_wrote_buildFor h w
  exact hwrote.eq_stepFailure hf

/-- A build that is done has left its two files. -/
theorem read_of_buildFor (h : (s.buildFor year now w).result = .ok ()) :
    ∃ home, s.homeText year now = .ok home ∧
      (s.buildFor year now w).workspace.readText s.homePath = .ok home ∧
      (s.buildFor year now w).workspace.readText s.versionsPath = .ok s.manifestText := by
  cases hhome : s.homeText year now with
  | error f =>
    rw [buildFor_of_error hhome] at h
    cases h
  | ok home =>
    obtain ⟨done, rest, hfiles, hwrote⟩ := exists_wrote_buildFor hhome w
    rw [hwrote.result_eq_ok_iff.mp h, List.append_nil] at hfiles
    subst hfiles
    exact ⟨home, rfl, hwrote.read (homeFileName, home) (by simp [files]),
      hwrote.read (versionsFileName, s.manifestText) (by simp [files])⟩

/-! ## A second build -/

/-- Where both files are up to date, a build changes nothing. -/
theorem buildFor_of_readText (h : s.homeText year now = .ok home)
    (hread : w.readText s.homePath = .ok home)
    (hread' : w.readText s.versionsPath = .ok s.manifestText) :
    s.buildFor year now w = ⟨[s.homePath, s.versionsPath], .ok (), w⟩ := by
  have hwrite : w.writeOutput s.homePath home = (.ok (), w) :=
    Workspace.writeOutput_of_readText hread
  have hwrite' : w.writeOutput s.versionsPath s.manifestText = (.ok (), w) :=
    Workspace.writeOutput_of_readText hread'
  have hrun : w.writeOutputs [(s.homePath, home), (s.versionsPath, s.manifestText)] =
      ⟨[s.homePath, s.versionsPath], .ok (), w⟩ := by
    rw [Workspace.writeOutputs, hwrite]
    simp only [Workspace.writeOutputs, hwrite']
  rw [buildFor_of_homeText h]
  exact hrun

/-- Over files that are there a site is built whenever its page can be made. -/
theorem buildFor_over_files {text text' : String} (h : s.homeText year now = .ok home)
    (hread : w.readText s.homePath = .ok text) (hread' : w.readText s.versionsPath = .ok text') :
    (s.buildFor year now w).result = .ok () := by
  obtain ⟨l, hl, hfile⟩ := Workspace.readText_eq_ok_iff.mp hread
  obtain ⟨l', hl', hfile'⟩ := Workspace.readText_eq_ok_iff.mp hread'
  obtain ⟨l₀, hreach, hdir, rfl⟩ := (Workspace.locate_join_eq_ok_iff (by decide)).mp hl
  obtain ⟨l₁, hreach', -, rfl⟩ := (Workspace.locate_join_eq_ok_iff (by decide)).mp hl'
  obtain rfl := Except.ok.inj (hreach.symm.trans hreach')
  rw [buildFor_of_homeText h]
  refine Workspace.writeOutputs_of_reach isName_of_mem_files hreach hdir ?_
  simp [files, hfile, hfile']

/-- Into a directory that holds no directories a site is built whenever its page can be made. -/
theorem buildFor_into {l : Location} (h : s.homeText year now = .ok home)
    (hreach : w.reach s.destination = .ok l) (hdir : w.tree.lookup? l = some .directory)
    (hfree : ∀ name, w.tree.lookup? (l ++ [name]) ≠ some .directory) :
    (s.buildFor year now w).result = .ok () := by
  rw [buildFor_of_homeText h]
  exact Workspace.writeOutputs_of_reach isName_of_mem_files hreach hdir fun f _ ↦ hfree f.1

/-- The site with another destination. -/
def into (s : Site) (destination : String) : Site := { s with destination }

/-- A second build changes nothing exactly if it makes the same copyright line. -/
theorem rebuild_iff (h : (s.buildFor year now w).result = .ok ()) (now' : Calendar.Moment) :
    ((s.buildFor year now' (s.buildFor year now w).workspace).result = .ok () ∧
        (s.buildFor year now' (s.buildFor year now w).workspace).workspace =
          (s.buildFor year now w).workspace) ↔
      s.SignsAlike year now now' := by
  obtain ⟨home, hhome, hread, hread'⟩ := read_of_buildFor h
  rw [← homeText_eq_iff_signsAlike hhome]
  constructor
  · rintro ⟨hresult, hsame⟩
    obtain ⟨home', hhome', hread'', -⟩ := read_of_buildFor hresult
    rw [hsame] at hread''
    rw [hhome', Except.ok.inj (hread''.symm.trans hread)]
  · intro hhome'
    rw [buildFor_of_readText hhome' hread hread']
    exact ⟨rfl, rfl⟩

/-- Two builds into any destinations write the same page exactly if they make the same line. -/
theorem read_homePath_iff (h : s.homeText year now = .ok home) {d : String} {w' : Workspace}
    (h' : ((s.into d).buildFor year now' w').result = .ok ()) :
    ((s.into d).buildFor year now' w').workspace.readText (s.into d).homePath = .ok home ↔
      s.SignsAlike year now now' := by
  obtain ⟨home', hhome', hread, -⟩ := read_of_buildFor h'
  have hsame : s.homeText year now' = .ok home' := hhome'
  rw [← homeText_eq_iff_signsAlike h, hread, hsame, Except.ok.injEq, Except.ok.injEq]

/-- **What a build does to a tree.** For every site, year, moment and tree, a build touches its two
files and the directories on the way to them. If the page cannot be made nothing is touched, and if
it can a build fails over the tree only. The manifest is not begun before the page has been written.
What a build writes into any destination is the same manifest, and the same page as long as the
copyright line is the same; exactly then a second build changes nothing. A line that is made without
dates is the same at any moment. -/
theorem build_keeps_to_its_files (s : Site) (year : Int) (now : Calendar.Moment) (w : Workspace) :
    w.Touches s.destination [homeFileName, versionsFileName]
        (s.buildFor year now w).workspace ∧
      (∀ f, s.homeText year now = .error f → s.buildFor year now w = ⟨[], .error f, w⟩) ∧
      (∀ home f, s.homeText year now = .ok home → (s.buildFor year now w).result = .error f →
        ∃ what e, f = stepFailure what e) ∧
      (s.versionsPath ∈ (s.buildFor year now w).begun → ∃ home, s.homeText year now = .ok home ∧
        (s.buildFor year now w).workspace.readText s.homePath = .ok home) ∧
      (s.versionsPath ∉ (s.buildFor year now w).begun →
        w.Touches s.destination [homeFileName] (s.buildFor year now w).workspace) ∧
      ((s.buildFor year now w).result = .ok () → ∃ home,
        (s.buildFor year now w).workspace.readText s.homePath = .ok home ∧
        (s.buildFor year now w).workspace.readText s.versionsPath = .ok s.manifestText ∧
        (∀ d now' w', ((s.into d).buildFor year now' w').result = .ok () →
          ((s.into d).buildFor year now' w').workspace.readText (s.into d).versionsPath =
              .ok s.manifestText ∧
            (((s.into d).buildFor year now' w').workspace.readText (s.into d).homePath = .ok home ↔
              s.SignsAlike year now now')) ∧
        ∀ now', ((s.buildFor year now' (s.buildFor year now w).workspace).result = .ok () ∧
            (s.buildFor year now' (s.buildFor year now w).workspace).workspace =
              (s.buildFor year now w).workspace) ↔
          s.SignsAlike year now now') ∧
      (s.SignsTimelessly → ∀ now', s.SignsAlike year now now') := by
  refine ⟨touches_buildFor s year now w, fun f hf ↦ buildFor_of_error hf w,
    fun home f hhome ↦ failure_of_buildFor hhome, written_of_begun, touches_of_not_begun,
    fun h ↦ ?_, fun h now' ↦ h.signsAlike year now now'⟩
  obtain ⟨home, hhome, hread, hread'⟩ := read_of_buildFor h
  refine ⟨home, hread, hread', fun d now' w' h' ↦ ⟨?_, read_homePath_iff hhome h'⟩,
    rebuild_iff h⟩
  obtain ⟨-, -, -, hmanifest⟩ := read_of_buildFor h'
  exact hmanifest

/-! ## A line with a date -/

theorem signsTimelessly_of_check
    (h : (s.footer.copyright.all fun source ↦
      (Template.ofString .standard source).toOption.all (·.isTimeless)) = true) :
    s.SignsTimelessly := by
  intro source t hsource hread
  rw [hsource, Option.all_some, hread] at h
  exact h

/-- Only an empty directory to build into. -/
def emptyDestination : Workspace := ⟨FileTree.empty.set ["build"] .directory, []⟩

theorem emptyDestination_free (name : String) :
    emptyDestination.tree.lookup? (["build"] ++ [name]) ≠ some .directory := by
  simp [emptyDestination, FileTree.set, FileTree.setEntry, FileTree.empty, FileTree.lookup?]

theorem buildFor_emptyDestination (hhome : s.homeText year now = .ok home)
    (hreach : emptyDestination.reach s.destination = .ok ["build"]) :
    (s.buildFor year now emptyDestination).result = .ok () :=
  buildFor_into hhome hreach rfl emptyDestination_free

/-- A line of the year is the same at any moment, and so is the tree. -/
theorem year_line_is_kept :
    ∃ s home, (Config.signed "Copyright \x7b\x7b year \x7d\x7d").resolve none = .ok s ∧
      (s.buildFor 2026 (.startOfYear 2026) emptyDestination).result = .ok () ∧
      (s.buildFor 2026 (.startOfYear 2026) emptyDestination).workspace.readText s.homePath =
        .ok home ∧
      s.SignsTimelessly ∧
      ∀ now, (s.buildFor 2026 now
          (s.buildFor 2026 (.startOfYear 2026) emptyDestination).workspace).workspace =
        (s.buildFor 2026 (.startOfYear 2026) emptyDestination).workspace := by
  have hrun : ((Config.signed "Copyright \x7b\x7b year \x7d\x7d").resolve none).toOption.any
      (fun s ↦ (InstallSnippets.ofTemplates s.snippets).toOption.isSome &&
        (s.copyright (Page.bundled.atMoment (.startOfYear 2026)) 2026).toOption.isSome &&
        (emptyDestination.reach s.destination).toOption == some ["build"] &&
        s.footer.copyright.all fun source ↦
          (Template.ofString .standard source).toOption.all (·.isTimeless)) = true := by
    decide +kernel
  simp only [Steps.any_toOption_iff, Option.isSome_iff_exists, Steps.toOption_eq_some_iff,
    Bool.and_eq_true, beq_iff_eq] at hrun
  obtain ⟨s, hs, ⟨⟨hsnippets, hline⟩, hreach⟩, hcheck⟩ := hrun
  have htimeless := signsTimelessly_of_check hcheck
  obtain ⟨home, hhome⟩ := exists_homeText hsnippets hline
  have hresult := buildFor_emptyDestination hhome hreach
  obtain ⟨-, -, -, -, -, hsuccess, hsame⟩ :=
    build_keeps_to_its_files s 2026 (.startOfYear 2026) emptyDestination
  obtain ⟨home, hread, -, -, hagain⟩ := hsuccess hresult
  exact ⟨s, home, hs, hresult, hread, htimeless,
    fun now ↦ ((hagain now).mpr (hsame htimeless now)).2⟩

def firstOfJuly : Calendar.Moment := { Calendar.Moment.startOfYear 2026 with month := 7 }

/-- A line that writes the present month is another one half a year later, and the second build of
the year changes the page. -/
theorem dated_line_is_rewritten :
    ∃ s, (Config.signed "\x7b\x7b 'now' | date: '%m' \x7d\x7d").resolve none = .ok s ∧
      (s.buildFor 2026 (.startOfYear 2026) emptyDestination).result = .ok () ∧
      (s.buildFor 2026 firstOfJuly
        (s.buildFor 2026 (.startOfYear 2026) emptyDestination).workspace).result = .ok () ∧
      (s.buildFor 2026 firstOfJuly
          (s.buildFor 2026 (.startOfYear 2026) emptyDestination).workspace).workspace ≠
        (s.buildFor 2026 (.startOfYear 2026) emptyDestination).workspace := by
  have hrun : ((Config.signed "\x7b\x7b 'now' | date: '%m' \x7d\x7d").resolve none).toOption.any
      (fun s ↦ (InstallSnippets.ofTemplates s.snippets).toOption.isSome &&
        (s.copyright (Page.bundled.atMoment (.startOfYear 2026)) 2026).toOption ==
          some (some "01") &&
        (s.copyright (Page.bundled.atMoment firstOfJuly) 2026).toOption == some (some "07") &&
        (emptyDestination.reach s.destination).toOption == some ["build"]) = true := by
    decide +kernel
  simp only [Steps.any_toOption_iff, Option.isSome_iff_exists, Steps.toOption_eq_some_iff,
    Bool.and_eq_true, beq_iff_eq] at hrun
  obtain ⟨s, hs, ⟨⟨hsnippets, hline⟩, hline'⟩, hreach⟩ := hrun
  obtain ⟨home, hhome⟩ := exists_homeText hsnippets ⟨_, hline⟩
  obtain ⟨home', hhome'⟩ := exists_homeText hsnippets ⟨_, hline'⟩
  have hresult := buildFor_emptyDestination hhome hreach
  obtain ⟨_, -, hread, hread'⟩ := read_of_buildFor hresult
  have hagain := buildFor_over_files hhome' hread hread'
  refine ⟨s, hs, hresult, hagain, fun hsame ↦ ?_⟩
  have halike := (rebuild_iff hresult _).mp ⟨hagain, hsame⟩
  rw [SignsAlike, hline, hline'] at halike
  exact absurd halike (by simp)

end Site

end VersionedSite
