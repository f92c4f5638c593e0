import VersionedSite.FileTree
import VersionedSite.Json
import VersionedSite.Page.Rendering
import VersionedSite.Site.Manifest

/-!
# Building a site

A site is built into two files: the home page of the version that the root of the site is about,
which is the canonical one unless the base prefix names another, and the manifest of versions. Both
texts are worked out before anything is written, so a fault in the description of the site leaves
the files alone.
-/

namespace VersionedSite

/-! ## What is written -/

def homeFileName : String := "index.html"

def versionsFileName : String := "versions.json"

namespace Site

/-- The markup of the home page, which is about the version that the root of the site is about. -/
def homeText (s : Site) (year : Int) (now : Calendar.Moment) : Except Failure String := do
  let snippets ← (InstallSnippets.ofTemplates s.snippets).mapError SnippetsFault.failure
  let viewed := (s.activeVersion s.baseUrl.text).version
  let lib := Page.bundled.atMoment now
  let page ← s.homePage viewed year snippets lib
  (Page.render lib page).mapError fun f ↦ ⟨.template f.message, []⟩

/-- The manifest of versions as a document. -/
def manifestText (s : Site) : String := Json.print (.list (s.versionManifest.map (·.toValue)))

/-- The files of the site and their texts. -/
def outputs (s : Site) (year : Int) (now : Calendar.Moment) :
    Except Failure (List (String × String)) := do
  let home ← s.homeText year now
  return [(Path.join s.destination homeFileName, home),
    (Path.join s.destination versionsFileName, s.manifestText)]

end Site

/-! ## Writing -/

/-- The course of writing files: which were begun, whether all was well, and what has become of
the tree. -/
structure Writing where
  begun : List String
  result : Except Failure Unit
  workspace : Workspace

/-- A failure to take a step because of the file system. -/
def stepFailure (what : String) (f : FileFault) : Failure := ⟨.step what, [.file f]⟩

/-- Makes the directories that a file is to stand in. -/
def Workspace.makeParent (w : Workspace) (path : String) : Except Failure Unit × Workspace :=
  match Path.parent? path with
  | none => (.ok (), w)
  | some parent =>
    let (made, w) := w.makeDirectories (parent.length + 1) parent
    (made.mapError (stepFailure s!"Could not create {parent}"), w)

/-- Writes a file and makes the directories that it is to stand in. -/
def Workspace.writeOutput (w : Workspace) (path text : String) :
    Except Failure Unit × Workspace :=
  let (made, w) := w.makeParent path
  match made with
  | .error f => (.error f, w)
  | .ok () =>
    match w.writeText path text with
    | .error f => (.error (stepFailure s!"Could not write {path}" f), w)
    | .ok w => (.ok (), w)

/-- Writes files one after the other, up to the first that cannot be written. -/
def Workspace.writeOutputs : List (String × String) → Workspace → Writing
  | [], w => ⟨[], .ok (), w⟩
  | (path, text) :: rest, w =>
    match w.writeOutput path text with
    | (.error f, w) => ⟨[path], .error f, w⟩
    | (.ok (), w) =>
      let more := Workspace.writeOutputs rest w
      { more with begun := path :: more.begun }

namespace Site

/-- Builds a site into its destination for a year. What the moment is shows where the copyright line
asks for it. -/
def buildFor (s : Site) (year : Int) (now : Calendar.Moment) (w : Workspace) : Writing :=
  match s.outputs year now with
  | .error f => ⟨[], .error f, w⟩
  | .ok files => w.writeOutputs files

/-- Builds a site for the present year. -/
def build (s : Site) (now : Calendar.Moment) (w : Workspace) : Writing := s.buildFor now.year now w

end Site

end VersionedSite
