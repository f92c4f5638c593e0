import VersionedSite.Build
import VersionedSite.CommandLine.Invocation
import VersionedSite.Discovery

/-!
# Running commands

What a command prints, notes and writes. A command works on a file tree and gives the tree back;
everything that it prints is known at its end, so a command that fails prints nothing but the note
that says why.
-/

namespace VersionedSite.CommandLine

/-! ## Courses -/

/-- The course of a command: an answer or a failure, the notes that were taken on the way, and the
tree as it is then. -/
structure Course (α : Type) where
  result : Except Failure α
  notes : List Note
  workspace : Workspace

namespace Course

variable {α β : Type}

def pure (a : α) (w : Workspace) : Course α := ⟨.ok a, [], w⟩

def ofExcept (r : Except Failure α) (w : Workspace) : Course α := ⟨r, [], w⟩

/-- Takes a note first. -/
def noting (n : Note) (c : Course α) : Course α := { c with notes := n :: c.notes }

/-- Goes on with an answer, if there is one. -/
def andThen (c : Course α) (f : α → Workspace → Course β) : Course β :=
  match c.result with
  | .error e => ⟨.error e, c.notes, c.workspace⟩
  | .ok a =>
    let next := f a c.workspace
    { next with notes := c.notes ++ next.notes }

/-- Takes a note if a condition holds. -/
def notingIf (cond : Bool) (n : Note) (c : Course α) : Course α := if cond then c.noting n else c

end Course

/-! ## Notes -/

def configSource : String := "docsite_config::config"

def note (level : Level) (source text : String) : Note := ⟨level, source, text⟩

/-- The note on a request that names no version of the site. -/
def fallbackNote (segment : Option String) (a : ActiveVersion) : Note :=
  let named := segment.getD ""
  note .debug "docsite_core::catalog"
    s!"No documentation version matches \x60{named}\x60, using \x60{a.version.path.text}\x60"

/-! ## Loading -/

/-- The working directory as a path. -/
def workingPath (w : Workspace) : String := "/" ++ "/".intercalate w.cwd

/-- The configuration in the named file, or the one that the working directory is in. -/
def loadConfig (i : Invocation) (w : Workspace) : Course Config :=
  match i.config with
  | some path =>
    let wrap := Failure.because (.step s!"Error reading config file {path}")
    .ofExcept ((Config.ofFile w path).mapError wrap) w
  | none =>
    let cwd := workingPath w
    let found := Course.ofExcept (Config.discover w cwd) w
    match Config.search? w cwd with
    | some path => found.noting (note .debug configSource s!"Using config file \x60{path}\x60")
    | none =>
      found.noting (note .warn configSource
        s!"No {configFileName} file found in current directory, using default config.")

/-- The site of a configuration and the chosen profile. -/
def resolveSite (i : Invocation) (c : Config) (w : Workspace) : Course Site :=
  let result := (c.resolve i.profile).mapError fun f ↦ Failure.ofReport f.report
  let withoutSearch :=
    match result, c.layered i.profile with
    | .ok _, .ok layered => !layered.search.enabled
    | _, _ => false
  let course := (Course.ofExcept result w).notingIf withoutSearch
    (note .debug configSource "Search disabled, dropping search navbar items")
  match i.profile with
  | none => course
  | some name =>
    course.notingIf (c.profiles.contains name)
      (note .debug configSource s!"Applying profile \x60{name}\x60")

def loadSite (i : Invocation) (w : Workspace) : Course Site :=
  (loadConfig i w).andThen (resolveSite i)

/-! ## Commands -/

def runBuild (destination : Option String) (now : Calendar.Moment) (s : Site) (w : Workspace) :
    Course String :=
  let s := { s with destination := destination.getD s.destination }
  let source := "docsite::build"
  let done := s.build now w
  let root := s.activeVersion s.baseUrl.text
  let notes :=
    note .debug source s!"Building into \x60{s.destination}\x60"
      :: (if root.isFallback then [fallbackNote (s.versionSegment? s.baseUrl.text) root] else [])
      ++ done.begun.map fun path ↦ note .trace source s!"Writing {path}"
  match done.result with
  | .error f => ⟨.error f, notes, done.workspace⟩
  | .ok () =>
    ⟨.ok "", notes ++ [
      note .info source s!"Built {s.destination} for {s.versions.size} version(s)",
      note .info source "Build successful"], done.workspace⟩

def runSnippet (k : SnippetKind) (request : Option String) (s : Site) (w : Workspace) :
    Course String :=
  let viewed := s.requestedVersion request
  (Course.ofExcept ((s.snippet request k).map (· ++ "\n")) w).notingIf viewed.isFallback
    (fallbackNote (request.bind s.versionSegment?) viewed)

def runResolve (request : String) (s : Site) (w : Workspace) : Course String :=
  let viewed := s.activeVersion request
  let path := viewed.version.path.text
  let answer := Course.pure s!"{viewed.version.label}\t{path}\n" w
  if viewed.isFallback then
    (answer.noting (note .info "docsite::resolve"
      s!"\x60{request}\x60 names no declared version, using \x60{path}\x60")).noting
        (fallbackNote (s.versionSegment? request) viewed)
  else answer

/-- What is wrong with the published versions, a line for each. -/
def auditProblems (directory : String) (a : Audit) : List String :=
  a.unpublished.map (fun p ↦ s!"version \x60{p}\x60 has no content under {directory}")
    ++ a.undeclared.map fun p ↦ s!"\x60{p}\x60 is published but not in the version catalog"

/-- A directory that cannot be read. -/
def unreadable (directory : String) (f : FileFault) : Failure :=
  ⟨.step s!"Could not read {directory}",
    [.step s!"IO error for operation on {directory}: {f.message}", .file f]⟩

def runCheck (directory : String) (s : Site) (w : Workspace) : Course String :=
  let source := "docsite::check"
  match w.directoriesIn directory with
  | .error f => .ofExcept (.error (unreadable directory f)) w
  | .ok names =>
    let audit := s.audit names
    let problems := auditProblems directory audit
    if audit.isClean then
      (Course.pure "" w).noting
        (note .info source s!"All {s.versions.size} version(s) are published")
    else
      match s.onBrokenLinks with
      | .ignore => ⟨.ok "", problems.map (note .debug source), w⟩
      | .warn => ⟨.ok "", problems.map (note .warn source), w⟩
      | .throw =>
        .ofExcept (.error
          ⟨.step ("Broken version links:\n  " ++ "\n  ".intercalate problems), []⟩) w

def runDebug (topic : DebugTopic) (i : Invocation) (w : Workspace) : Course String :=
  match topic with
  | .config => (loadSite i w).andThen fun s w ↦ .pure (s.display ++ "\n") w
  | .profiles =>
    (loadConfig i w).andThen fun c w ↦ .pure (String.join (c.profileNames.map (· ++ "\n"))) w
  | .features =>
    (loadSite i w).andThen fun s w ↦
      let blocks := featureGrid s.baseUrl features
      .pure (Json.print (.list (blocks.map (·.toValue))) ++ "\n") w

/-- What a command prints. -/
def Invocation.course (i : Invocation) (now : Calendar.Moment) (w : Workspace) : Course String :=
  match i.command with
  | .build destination => (loadSite i w).andThen (runBuild destination now)
  | .snippet k request => (loadSite i w).andThen (runSnippet k request)
  | .resolve request => (loadSite i w).andThen (runResolve request)
  | .check directory => (loadSite i w).andThen (runCheck directory)
  | .debug topic => runDebug topic i w

/-! ## Outcomes -/

/-- What is left when a command is done. -/
structure Outcome where
  code : UInt32
  output : String
  log : String
  workspace : Workspace

/-- Whether notes are coloured. -/
def Invocation.style (i : Invocation) (terminal : Bool) : LogStyle :=
  ⟨i.level, i.color == .always || (i.color == .auto && terminal)⟩

/-- Runs a command at a moment. `time` is what notes give as their time, and `terminal` whether
they are read on one. -/
def Invocation.run (i : Invocation) (now : Calendar.Moment) (time : String) (terminal : Bool)
    (w : Workspace) : Outcome :=
  let c := i.course now w
  let log := (i.style terminal).log time
  match c.result with
  | .ok output => ⟨0, output, log c.notes, c.workspace⟩
  | .error f => ⟨1, "", log (c.notes ++ [note .error "docsite" f.text]), c.workspace⟩

end VersionedSite.CommandLine
