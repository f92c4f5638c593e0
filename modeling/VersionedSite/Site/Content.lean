import VersionedSite.Text.NameMap

/-!
# Content of a site

The parts of a site's description that no check depends on: its look, the words of its home page,
the templates of its install commands, and its plugins, of which search is one that can be turned
off.
-/

namespace VersionedSite

/-- How versions without content, and content without a version, are reported. -/
inductive OnBrokenLinks where
  | ignore
  | warn
  | throw
  deriving DecidableEq, Repr

/-- The languages of a site. -/
structure Locales where
  defaultLocale : String
  locales : NameSet
  deriving DecidableEq

def Locales.default : Locales := ⟨"en", NameSet.ofList ["en"]⟩

structure Theme where
  customCss : Option String
  image : Option String
  codeTheme : String
  darkCodeTheme : String
  deriving DecidableEq, Repr

def Theme.default : Theme := ⟨none, none, "github", "dracula"⟩

/-! ## Search -/

/-- Whether the site can be searched, and the plugin that does it. -/
structure Search where
  enabled : Bool
  plugin : String
  deriving DecidableEq, Repr

namespace Search

def default : Search := ⟨true, "docusaurus-lunr-search"⟩

/-- The plugins of the site: the search plugin last if search is enabled, and else not at all. -/
def apply (s : Search) (plugins : List String) : List String :=
  plugins.filter (· ≠ s.plugin) ++ if s.enabled then [s.plugin] else []

end Search

/-! ## Install commands -/

/-- Templates of the two commands that install a version. -/
structure SnippetTemplates where
  packageManager : String
  directApply : String
  deriving DecidableEq, Repr

/-- The chart is installed by version, the manifest by its address. -/
def SnippetTemplates.default : SnippetTemplates :=
  { packageManager := "helm install llm-operator "
      ++ "oci://ghcr.io/geeper-io/llm-operator/llm-operator --version \x7b\x7b version \x7d\x7d"
    directApply := "kubectl apply -f \x7b\x7b full_url \x7d\x7d" }

/-! ## Home page -/

/-- A button: its label and a path inside the site. -/
structure HomeAction where
  label : String
  page : String
  deriving DecidableEq, Repr

structure CallToAction where
  heading : String
  body : String
  action : HomeAction
  deriving DecidableEq, Repr

structure Home where
  description : String
  metaDescription : String
  primaryAction : HomeAction
  secondaryAction : HomeAction
  callToAction : Option CallToAction
  /-- The page shows the install commands. -/
  showInstall : Bool
  deriving DecidableEq, Repr

def Home.default : Home :=
  { description := ""
    metaDescription := ""
    primaryAction := ⟨"Get Started", "/docs/quickstart"⟩
    secondaryAction := ⟨"Learn More", "/docs/overview"⟩
    callToAction := none
    showInstall := true }

end VersionedSite
