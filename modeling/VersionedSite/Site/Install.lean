import VersionedSite.Liquid.Library
import VersionedSite.Site.Catalog

/-!
# Install commands

The two commands that install a version: one by the package manager, one by the address of the
version's manifest. Both are templates in the plain dialect. They are tried out when they are
read, on a version that stands for all: a template that uses a value it is never given, or that
takes more than one line, is refused before any page shows it.
-/

namespace VersionedSite

/-! ## Manifests -/

/-- The address of the manifest that installs a version. The path prefix brings the slashes. -/
def installManifestUrl (url : SiteUrl) (base : BaseUrl) (path : VersionPath) : String :=
  url.text ++ base.text ++ "releases/" ++ path.text ++ "/install.yaml"

/-! ## Kinds -/

/-- The two ways to install a version. -/
inductive SnippetKind where
  /-- Knows the version. -/
  | packageManager
  /-- Knows the version and the address of its manifest. -/
  | directApply
  deriving DecidableEq, Repr

namespace SnippetKind

def all : List SnippetKind := [packageManager, directApply]

def name : SnippetKind → String
  | packageManager => "package-manager"
  | directApply => "direct-apply"

def ofName? (s : String) : Option SnippetKind := all.find? (·.name == s)

/-- The setting that holds the template. -/
def field : SnippetKind → String
  | packageManager => "snippets.package_manager"
  | directApply => "snippets.direct_apply"

/-- What a template is given: the path of the version and, if it is to be applied, the address of
its manifest. -/
def data (k : SnippetKind) (path manifest : String) : List (String × Liquid.Value) :=
  ("version", .text path) ::
    match k with
    | packageManager => []
    | directApply => [("full_url", .text manifest)]

end SnippetKind

/-! ## Faults -/

/-- Why there is no command. -/
inductive SnippetFault where
  | unreadable (k : SnippetKind) (f : Liquid.ReadFault)
  | unrenderable (k : SnippetKind) (f : Liquid.RenderFault)
  | manyLines (k : SnippetKind)
  deriving DecidableEq, Repr

/-- The report on a fault, with what caused it. -/
def SnippetFault.failure : SnippetFault → Failure
  | unreadable k f =>
    ⟨.report ⟨"Failed to parse snippet template", [("Field", k.field)]⟩, [.template f.message]⟩
  | unrenderable k f =>
    ⟨.report ⟨"Snippet referenced a value missing from the version context", [("Field", k.field)]⟩,
      [.template f.message]⟩
  | manyLines k => ⟨.report ⟨"Snippets must render to a single line", [("Field", k.field)]⟩, []⟩

/-- Why templates are refused. -/
inductive SnippetsFault where
  | unreadable (k : SnippetKind) (f : Liquid.ReadFault)
  /-- The trial fails. -/
  | invalid (f : SnippetFault)
  deriving DecidableEq, Repr

def SnippetsFault.failure : SnippetsFault → Failure
  | unreadable k f => (SnippetFault.unreadable k f).failure
  | invalid f => f.failure.because (.report ⟨"Invalid snippet template", []⟩)

/-! ## Templates -/

/-- The templates of the two commands. -/
structure InstallSnippets where
  packageManager : Liquid.Template
  directApply : Liquid.Template

namespace InstallSnippets

def template (s : InstallSnippets) : SnippetKind → Liquid.Template
  | .packageManager => s.packageManager
  | .directApply => s.directApply

/-- The template in a text, without the blanks around it. -/
def read (k : SnippetKind) (source : String) : Except SnippetsFault Liquid.Template :=
  (Liquid.Template.ofChars .plain (Text.trim source.toList)).mapError (.unreadable k)

/-- A rendered text as a command: without the blanks around it, and on one line. -/
def oneLine (k : SnippetKind) (text : String) : Except SnippetFault String :=
  let line := Text.trim text.toList
  if line.contains '\n' then .error (.manyLines k) else .ok (String.ofList line)

/-- The command for a version path and the address of its manifest. -/
def lineFor (s : InstallSnippets) (k : SnippetKind) (path manifest : String) :
    Except SnippetFault String := do
  let text ← (Liquid.Library.empty.render (s.template k) (k.data path manifest)).mapError
    (.unrenderable k)
  oneLine k text

/-- The version that templates are tried out on. -/
def probePath : String := "0.0.0"

def probeManifest : String := "https://example.invalid/releases/0.0.0/install.yaml"

/-- Tries out a template. -/
def probe (s : InstallSnippets) (k : SnippetKind) : Except SnippetsFault Unit := do
  let _ ← (s.lineFor k probePath probeManifest).mapError .invalid

/-- The templates, once both have been read and tried out. -/
def ofTemplates (t : SnippetTemplates) : Except SnippetsFault InstallSnippets := do
  let packageManager ← read .packageManager t.packageManager
  let directApply ← read .directApply t.directApply
  let s : InstallSnippets := ⟨packageManager, directApply⟩
  s.probe .packageManager
  s.probe .directApply
  return s

/-- The command that installs a version of a site. -/
def line (s : InstallSnippets) (k : SnippetKind) (site : Site) (v : Version) :
    Except SnippetFault String :=
  s.lineFor k v.path.text (installManifestUrl site.url site.baseUrl v.path)

end InstallSnippets

namespace Site

/-- The version that a request is about; without a request, the canonical one. -/
def requestedVersion (s : Site) : Option String → ActiveVersion
  | some request => s.activeVersion request
  | none => s.versions.select none

/-- The command that installs the version which a request is about. -/
def snippet (s : Site) (request : Option String) (k : SnippetKind) : Except Failure String := do
  let snippets ← (InstallSnippets.ofTemplates s.snippets).mapError SnippetsFault.failure
  (snippets.line k s (s.requestedVersion request).version).mapError SnippetFault.failure

end Site

end VersionedSite
