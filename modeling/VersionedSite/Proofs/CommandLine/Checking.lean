import VersionedSite.CommandLine.Run
import VersionedSite.Proofs.Site.Auditing
import VersionedSite.Proofs.Tree.Walking

/-!
# Checking what is published

A check lists the directories in the published one and compares their names with the declared
paths. It leaves everything as it is, and only what it is told to do about problems decides whether
it fails.
-/

namespace VersionedSite.CommandLine

/-! ## Courses -/

namespace Course

variable {α β : Type} {a : α} {c : Course α} {f : α → Workspace → Course β}

theorem notingIf_result (cond : Bool) (n : Note) (c : Course α) :
    (c.notingIf cond n).result = c.result := by
  cases cond <;> rfl

theorem notingIf_workspace (cond : Bool) (n : Note) (c : Course α) :
    (c.notingIf cond n).workspace = c.workspace := by
  cases cond <;> rfl

/-- An answer is gone on with, and the notes on the way to it come first. -/
theorem andThen_of_ok {next : Course β} (h : c.result = .ok a) (hnext : f a c.workspace = next) :
    c.andThen f = ⟨next.result, c.notes ++ next.notes, next.workspace⟩ := by
  rw [andThen, h, ← hnext]

end Course

/-! ## Loading -/

variable {i : Invocation} {w : Workspace} {c : Config} {s : Site}

theorem loadConfig_workspace : (loadConfig i w).workspace = w := by
  rw [loadConfig]
  cases i.config with
  | some path => rfl
  | none => cases h : Config.search? w (workingPath w) <;> simp only [h] <;> rfl

theorem resolveSite_result :
    (resolveSite i c w).result = (c.resolve i.profile).mapError fun f ↦ .ofReport f.report := by
  rw [resolveSite]
  split <;> simp only [Course.notingIf_result] <;> rfl

theorem resolveSite_workspace : (resolveSite i c w).workspace = w := by
  rw [resolveSite]
  split <;> simp only [Course.notingIf_workspace] <;> rfl

/-- A configuration that resolves gives its site, and everything is still as it was. -/
theorem loadSite_of_resolve (hload : (loadConfig i w).result = .ok c)
    (hc : c.resolve i.profile = .ok s) :
    (loadSite i w).result = .ok s ∧ (loadSite i w).workspace = w := by
  rw [loadSite, Course.andThen_of_ok hload rfl, loadConfig_workspace]
  exact ⟨by rw [resolveSite_result, hc, Steps.mapError_ok], resolveSite_workspace⟩

/-! ## Answers -/

/-- The level at which problems are noted, where they are not failures. -/
def problemLevel? : OnBrokenLinks → Option Level
  | .ignore => some .debug
  | .warn => some .warn
  | .throw => none

/-- What a check of a directory makes of an audit. -/
inductive Answers (s : Site) (directory : String) (a : Audit) (w : Workspace) :
    Course String → Prop where
  | clean : a.isClean = true → Answers s directory a w
      ⟨.ok "", [note .info "docsite::check" s!"All {s.versions.size} version(s) are published"], w⟩
  /-- Each problem is noted. -/
  | noted (level : Level) : a.isClean = false → problemLevel? s.onBrokenLinks = some level →
      Answers s directory a w
        ⟨.ok "", (auditProblems directory a).map (note level "docsite::check"), w⟩
  /-- The failure tells all problems. -/
  | failed : a.isClean = false → problemLevel? s.onBrokenLinks = none → Answers s directory a w
      ⟨.error ⟨.step ("Broken version links:\n  " ++
        "\n  ".intercalate (auditProblems directory a)), []⟩, [], w⟩

theorem runCheck_answers {directory : String} {names : List String}
    (h : w.directoriesIn directory = .ok names) :
    Answers s directory (s.audit names) w (runCheck directory s w) := by
  rw [runCheck, h]
  dsimp only
  cases hclean : (s.audit names).isClean with
  | true => exact .clean hclean
  | false =>
    rw [if_neg Bool.false_ne_true]
    cases hpolicy : s.onBrokenLinks with
    | ignore => exact .noted .debug hclean (by rw [hpolicy]; rfl)
    | warn => exact .noted .warn hclean (by rw [hpolicy]; rfl)
    | throw => exact .failed hclean (by rw [hpolicy]; rfl)

theorem problemLevel?_eq_none_iff {o : OnBrokenLinks} : problemLevel? o = none ↔ o = .throw := by
  cases o <;> decide

namespace Answers

variable {directory : String} {a : Audit} {told : Course String}

theorem workspace_eq (h : Answers s directory a w told) : told.workspace = w := by
  cases h <;> rfl

/-- A check fails where problems are failures and there is one, and nowhere else. -/
theorem isError_iff (h : Answers s directory a w told) :
    (∃ f, told.result = .error f) ↔ s.onBrokenLinks = .throw ∧ a.isClean = false := by
  rw [← problemLevel?_eq_none_iff]
  cases h with
  | clean hclean => simp [hclean]
  | noted level _ hlevel => simp [hlevel]
  | failed hclean hlevel => simp [hclean, hlevel]

end Answers

/-! ## The command -/

theorem Invocation.run_code_ne_zero_iff {now : Calendar.Moment} {time : String} {terminal : Bool} :
    (i.run now time terminal w).code ≠ 0 ↔ ∃ f, (i.course now w).result = .error f := by
  rw [run]
  cases (i.course now w).result with
  | ok output => simp
  | error f => simp

/-- **A check compares the declared paths with the names of the directories in the published one.**
What it compares are sets: the audit has the names of each that the other does not have, each once
and in the order of their bytes, however the versions are declared and the directories are listed,
and it is clean if and only if the sets are equal. The command fails if and only if problems are
failures and the audit is not clean. -/
theorem check_compares_sets_of_names (s : Site) :
    (∀ published, (s.audit published).Compares s.declaredPaths published ∧
      ((s.audit published).isClean = true ↔ ∀ k, k ∈ s.declaredPaths ↔ k ∈ published)) ∧
    (∀ (s' : Site) (published published' : List String),
      (∀ k, k ∈ s.declaredPaths ↔ k ∈ s'.declaredPaths) →
      (∀ k, k ∈ published ↔ k ∈ published') → s.audit published = s'.audit published') ∧
    ∀ (i : Invocation) (w : Workspace) (c : Config) (directory : String) (l : Location),
      i.command = .check directory → (loadConfig i w).result = .ok c →
      c.resolve i.profile = .ok s → w.locate directory = .ok l →
      w.tree.lookup? l = some .directory →
      ∃ names told, (∀ n, n ∈ names ↔ w.tree.lookup? (l ++ [n]) = some .directory) ∧
        Answers s directory (s.audit names) w told ∧
        ∀ now, i.course now w = ⟨told.result, (loadSite i w).notes ++ told.notes, w⟩ ∧
          ∀ time terminal, (i.run now time terminal w).code ≠ 0 ↔
            s.onBrokenLinks = .throw ∧ (s.audit names).isClean = false := by
  refine ⟨fun published ↦ ?_, fun s' published published' hdeclared hpublished ↦ ?_, ?_⟩
  · exact ⟨s.audit_compares published, (s.audit_compares published).isClean_iff⟩
  · exact (s.audit_compares published).unique (s'.audit_compares published') hdeclared hpublished
  intro i w c directory l hcommand hload hc hlocate hdir
  obtain ⟨names, hlist, hnames⟩ := Workspace.directoriesIn_of_locate hlocate hdir
  obtain ⟨hsite, hkept⟩ := loadSite_of_resolve hload hc
  have htold := runCheck_answers (s := s) hlist
  refine ⟨names, _, hnames, htold, fun now ↦ ?_⟩
  have hcourse : i.course now w = ⟨(runCheck directory s w).result,
      (loadSite i w).notes ++ (runCheck directory s w).notes, w⟩ := by
    rw [Invocation.course, hcommand]
    dsimp only
    rw [Course.andThen_of_ok hsite (by rw [hkept]), htold.workspace_eq]
  refine ⟨hcourse, fun time terminal ↦ ?_⟩
  rw [Invocation.run_code_ne_zero_iff, hcourse]
  exact htold.isError_iff

/-- A configuration that declares a version `v1`. -/
def strictText : String :=
  "title: Docs\nurl: https://example.org\nbase_url: /\non_broken_links: throw\n" ++
  "navbar: \x7b\x7d\nfooter: \x7b\x7d\ndocs:\n  versions:\n" ++
  "    - \x7blabel: HEAD, path: head\x7d\n    - \x7blabel: First, path: v1\x7d\n"

/-- A file and a directory further down have the name of the version, but no directory that is
listed has it. -/
def strictWorkspace : Workspace where
  tree := FileTree.empty.set ["_site.yml"] (.file strictText.toUTF8) |>.set ["out"] .directory
    |>.set ["out", "head"] .directory |>.set ["out", "head", "v1"] .directory
    |>.set ["out", "v1"] (.file .empty)
  cwd := []

def strictCheck : Invocation := ⟨.check "out", some "_site.yml", none, .auto, none⟩

theorem check_of_misplaced_version :
    ∃ c s names, (loadConfig strictCheck strictWorkspace).result = .ok c ∧
      c.resolve none = .ok s ∧
      (∀ n, n ∈ names ↔ strictWorkspace.tree.lookup? ["out", n] = some .directory) ∧
      "v1" ∈ (s.audit names).unpublished ∧
      ∀ now time terminal, (strictCheck.run now time terminal strictWorkspace).code ≠ 0 := by
  have hrun : (loadConfig strictCheck strictWorkspace).result.toOption.any (fun c ↦
      (c.resolve none).toOption.any fun s ↦
        s.onBrokenLinks = .throw ∧ s.declaredPaths = ["head", "v1"]) = true := by
    decide +kernel
  simp only [Steps.any_toOption_iff, decide_eq_true_iff] at hrun
  obtain ⟨c, hload, s, hc, hpolicy, hdeclared⟩ := hrun
  obtain ⟨hcompares, -, hcommand⟩ := check_compares_sets_of_names s
  obtain ⟨names, told, hnames, -, hcourse⟩ :=
    hcommand strictCheck strictWorkspace c "out" ["out"] rfl hload hc rfl rfl
  obtain ⟨hexact, hclean⟩ := hcompares names
  have hdeclares : "v1" ∈ s.declaredPaths := by rw [hdeclared]; decide
  have hlacks : "v1" ∉ names := fun hv1 ↦ absurd ((hnames _).mp hv1) (by decide +kernel)
  have hmissing := (hexact.mem_unpublished_iff _).mpr ⟨hdeclares, hlacks⟩
  refine ⟨c, s, names, hload, hc, hnames, hmissing, fun now time terminal ↦ ?_⟩
  refine ((hcourse now).2 time terminal).mpr ⟨hpolicy, Bool.eq_false_iff.mpr fun hall ↦ ?_⟩
  exact hlacks ((hclean.mp hall "v1").mp hdeclares)

end VersionedSite.CommandLine
