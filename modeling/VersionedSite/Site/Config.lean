import VersionedSite.Site.Content
import VersionedSite.Site.Navigation
import VersionedSite.Site.Url
import VersionedSite.Site.Version

/-!
# Configurations

What a configuration file says: a base record, and profiles that override a few of its fields for
one deployment each. Where the record was found belongs to it, because paths in it are relative
to that directory.
-/

namespace VersionedSite

/-- The overrides of one deployment. -/
structure Profile where
  url : Option SiteUrl
  organizationName : Option String
  /-- Stands in for the canonical version. -/
  currentVersion : Option Version
  search : Option Bool
  deriving DecidableEq

def Profile.empty : Profile := ⟨none, none, none, none⟩

structure Config where
  /-- The directory of the file that was read. -/
  root : String
  destination : String
  title : Option String
  tagline : Option String
  favicon : Option String
  url : Option SiteUrl
  baseUrl : Option BaseUrl
  organizationName : Option String
  projectName : Option String
  onBrokenLinks : OnBrokenLinks
  locales : Locales
  docs : Docs
  theme : Theme
  search : Search
  navbar : Option Navbar
  footer : Option Footer
  plugins : List String
  snippets : SnippetTemplates
  home : Home
  profiles : NameMap Profile
  deriving DecidableEq

/-- The configuration of an empty file. -/
def Config.default : Config :=
  { root := ""
    destination := "./build"
    title := none
    tagline := none
    favicon := none
    url := none
    baseUrl := none
    organizationName := none
    projectName := none
    onBrokenLinks := .warn
    locales := .default
    docs := .default
    theme := .default
    search := .default
    navbar := none
    footer := none
    plugins := []
    snippets := .default
    home := .default
    profiles := .empty }

/-- The versions with `v` in place of the canonical one, or `v` alone. -/
def replaceFirst (v : Version) : List Version → List Version
  | [] => [v]
  | _ :: rest => v :: rest

/-- The record with the fields that the profile sets. -/
def Profile.apply (p : Profile) (c : Config) : Config :=
  { c with
    url := p.url.or c.url
    organizationName := p.organizationName.or c.organizationName
    docs := { c.docs with
      versions := match p.currentVersion with
        | some v => replaceFirst v c.docs.versions
        | none => c.docs.versions }
    search := { c.search with enabled := p.search.getD c.search.enabled } }

/-- The names of the profiles, in ascending order. -/
def Config.profileNames (c : Config) : List String := c.profiles.keys

end VersionedSite
