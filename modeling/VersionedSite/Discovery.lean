import VersionedSite.FileTree
import VersionedSite.Site.Reading

/-!
# Finding and loading a configuration

A configuration is read from a file, or from the nearest file of the usual name in a directory
and the directories above it. A relative path has no directories above its first component, so
the search ends there. A file of blanks is the default configuration.
-/

namespace VersionedSite

/-- The usual name of a configuration file. -/
def configFileName : String := "_site.yml"

namespace Config

/-- The directory that a file lies in, for paths to start from. -/
def rootOf (path : String) : String :=
  let dir := (Path.pop path).1
  if dir.isEmpty then "." else dir

/-- The configuration in a text. -/
def ofText (text : String) : Except Yaml.Fault Config :=
  if Text.allBlank text.toList then .ok .default else Config.reader.run text

/-- A failure to get a configuration from a file. -/
def fileFailure (title path : String) (cause : Reason) : Failure :=
  ⟨.report ⟨title, [("Path", path)]⟩, [cause]⟩

/-- The configuration in a file. -/
def ofFile (w : Workspace) (path : String) : Except Failure Config := do
  let text ← (w.readText path).mapError (fileFailure "Failed to read config" path <| .file ·)
  let config ← (ofText text).mapError (fileFailure "Failed to parse config" path <| .document ·)
  return { config with root := rootOf path }

/-- The nearest file of the usual name, searched upwards from the directory `dir`. -/
def find? (w : Workspace) : Nat → String → Option String
  | 0, _ => none
  | fuel + 1, dir =>
    let path := Path.join dir configFileName
    if w.isPresent path then some path
    else match Path.pop (Path.pop path).1 with
      | (_, false) => none
      | (up, true) => find? w fuel up

/-- The file that the search from a directory finds. Each step up shortens the path. -/
def search? (w : Workspace) (dir : String) : Option String := find? w (dir.length + 2) dir

/-- The configuration that a directory is in, or the default one. -/
def discover (w : Workspace) (dir : String) : Except Failure Config :=
  match search? w dir with
  | some path => ofFile w path
  | none => .ok { Config.default with root := dir }

end Config

end VersionedSite
