import VersionedSite.Proofs.Yaml.Chosen
import VersionedSite.Site.Reading

/-!
# The keys of a configuration

Which keys may stand where in a configuration, for every kind of record that it is made of, and that
no configuration is read from a document with other keys. Two places forgive: an item of the bar may
have keys that its type does not know, and a profile may be given twice.
-/

namespace VersionedSite

open Yaml

/-! ## Schemas of the records -/

def Version.schema : Schema := .record [("label", .scalar), ("path", .scalar)]

def Docs.schema : Schema :=
  .record [("route_base_path", .scalar), ("versions", .list Version.schema)]

def Locales.schema : Schema :=
  .record [("default_locale", .scalar), ("locales", .list .scalar)]

def Theme.schema : Schema :=
  .record [("custom_css", .scalar), ("image", .scalar), ("code_theme", .scalar),
    ("dark_code_theme", .scalar)]

def Search.schema : Schema := .record [("enabled", .scalar), ("plugin", .scalar)]

def SnippetTemplates.schema : Schema :=
  .record [("package_manager", .scalar), ("direct_apply", .scalar)]

def Logo.schema : Schema := .record [("alt", .scalar), ("src", .scalar)]

/-- Left or right. In an item this may also be the only key of a mapping. -/
def Position.schema : Schema := .word ["left", "right"]

/-- The records that the type of an item chooses. -/
def NavItem.records : List (String × List (String × Schema)) :=
  [("doc_sidebar", [("sidebar_id", .scalar), ("label", .scalar), ("position", Position.schema)]),
    ("link", [("label", .scalar), ("to", .scalar), ("href", .scalar),
      ("position", Position.schema), ("aria_label", .scalar), ("class_name", .scalar)]),
    ("docs_version_dropdown", [("position", Position.schema)]),
    ("search", [("position", Position.schema)])]

def NavItem.schema : Schema := .choice "type" NavItem.records

def Navbar.schema : Schema :=
  .record [("title", .scalar), ("logo", Logo.schema), ("items", .list NavItem.schema)]

def FooterLink.schema : Schema :=
  .record [("label", .scalar), ("to", .scalar), ("href", .scalar)]

def FooterGroup.schema : Schema :=
  .record [("title", .scalar), ("items", .list FooterLink.schema)]

def Footer.schema : Schema :=
  .record [("style", .scalar), ("links", .list FooterGroup.schema), ("copyright", .scalar)]

def HomeAction.schema : Schema := .record [("label", .scalar), ("to", .scalar)]

def CallToAction.schema : Schema :=
  .record [("heading", .scalar), ("body", .scalar), ("action", HomeAction.schema)]

def Home.schema : Schema :=
  .record [("description", .scalar), ("meta_description", .scalar),
    ("primary_action", HomeAction.schema), ("secondary_action", HomeAction.schema),
    ("call_to_action", CallToAction.schema), ("show_install", .scalar)]

def Profile.schema : Schema :=
  .record [("url", .scalar), ("organization_name", .scalar), ("current_version", Version.schema),
    ("search", .scalar)]

def Config.schema : Schema :=
  .record [("destination", .scalar), ("title", .scalar), ("tagline", .scalar),
    ("favicon", .scalar), ("url", .scalar), ("base_url", .scalar), ("organization_name", .scalar),
    ("project_name", .scalar), ("on_broken_links", .scalar), ("i18n", Locales.schema),
    ("docs", Docs.schema), ("theme", Theme.schema), ("search", Search.schema),
    ("navbar", Navbar.schema), ("footer", Footer.schema), ("plugins", .list .scalar),
    ("snippets", SnippetTemplates.schema), ("home", Home.schema),
    ("profiles", .names Profile.schema)]

/-! ## The readers enforce them -/

open Reader Field
open List (forall₂_cons)

theorem Version.enforces_reader : reader.Enforces schema := by
  refine enforces_record ?_
  simp only [forall₂_cons]
  exact ⟨enforces_set enforces_string, enforces_set enforces_checked, .nil⟩

theorem Docs.enforces_reader : reader.Enforces schema := by
  refine enforces_defaulted ?_
  simp only [forall₂_cons]
  exact ⟨enforces_set enforces_string, enforces_set (enforces_list Version.enforces_reader), .nil⟩

theorem Locales.enforces_reader : reader.Enforces schema := by
  refine enforces_defaulted ?_
  simp only [forall₂_cons]
  exact ⟨enforces_set enforces_string, enforces_set (enforces_list enforces_string), .nil⟩

theorem Theme.enforces_reader : reader.Enforces schema := by
  refine enforces_defaulted ?_
  simp only [forall₂_cons]
  exact ⟨enforces_set (enforces_optional enforces_string),
    enforces_set (enforces_optional enforces_string), enforces_set enforces_string,
    enforces_set enforces_string, .nil⟩

theorem Search.enforces_reader : reader.Enforces schema := by
  refine enforces_defaulted ?_
  simp only [forall₂_cons]
  exact ⟨enforces_set enforces_bool, enforces_set enforces_string, .nil⟩

theorem SnippetTemplates.enforces_reader : reader.Enforces schema := by
  refine enforces_defaulted ?_
  simp only [forall₂_cons]
  exact ⟨enforces_set enforces_string, enforces_set enforces_string, .nil⟩

theorem Logo.enforces_reader : reader.Enforces schema := by
  refine enforces_record ?_
  simp only [forall₂_cons]
  exact ⟨enforces_set enforces_string, enforces_set enforces_string, .nil⟩

namespace NavItem

theorem enforces_field {σ α : Type} {name : String} {required : Bool} {put : α → σ → σ}
    {r : Loose → Except Cause α} {s : Schema} (hr : Loose.Enforces r s) :
    (field name required r put).Enforces (name, s) := by
  refine ⟨rfl, fun d node x a hx ha ↦ ?_⟩
  obtain ⟨b, hb, -⟩ := Steps.map_eq_ok_iff.mp ha
  exact hr hx hb

/-- A label, an address or a class that need not be given. -/
theorem enforces_optionalText {σ : Type} {name : String} {put : Option String → σ → σ} :
    (field name false (Loose.optional Loose.string) put).Enforces (name, .scalar) :=
  enforces_field (Loose.enforces_optional Loose.enforces_string)

theorem enforces_position {σ : Type} {put : Position → σ → σ} :
    (field "position" false (Loose.oneOf Position.words) put).Enforces
      ("position", Position.schema) :=
  enforces_field Loose.enforces_oneOf

theorem enforces_positionVariant {title : String} {item : Position → NavItem} :
    Loose.EnforcesFields (positionVariant title item).ofLoose [("position", Position.schema)] :=
  Variant.enforces_ofLoose (.cons enforces_position .nil)

theorem enforces_sidebarVariant :
    Loose.EnforcesFields sidebarVariant.ofLoose
      [("sidebar_id", .scalar), ("label", .scalar), ("position", Position.schema)] := by
  refine Variant.enforces_ofLoose ?_
  simp only [sidebarVariant, forall₂_cons]
  exact ⟨enforces_field Loose.enforces_string, enforces_field Loose.enforces_string,
    enforces_position, .nil⟩

theorem enforces_linkVariant :
    Loose.EnforcesFields linkVariant.ofLoose
      [("label", .scalar), ("to", .scalar), ("href", .scalar), ("position", Position.schema),
        ("aria_label", .scalar), ("class_name", .scalar)] := by
  refine Variant.enforces_ofLoose ?_
  simp only [linkVariant, forall₂_cons]
  exact ⟨enforces_optionalText, enforces_optionalText, enforces_optionalText, enforces_position,
    enforces_optionalText, enforces_optionalText, .nil⟩

theorem enforces_reader : reader.Enforces schema :=
  enforces_choice (.cons ⟨rfl, enforces_sidebarVariant⟩ (.cons ⟨rfl, enforces_linkVariant⟩
    (.cons ⟨rfl, enforces_positionVariant⟩ (.cons ⟨rfl, enforces_positionVariant⟩ .nil))))

end NavItem

theorem Navbar.enforces_reader : reader.Enforces schema := by
  refine enforces_defaulted ?_
  simp only [forall₂_cons]
  exact ⟨enforces_set (enforces_optional enforces_string),
    enforces_set (enforces_optional Logo.enforces_reader),
    enforces_set (enforces_list NavItem.enforces_reader), .nil⟩

theorem FooterLink.enforces_reader : reader.Enforces schema := by
  refine enforces_record ?_
  simp only [forall₂_cons]
  exact ⟨enforces_set enforces_string, enforces_set (enforces_optional enforces_string),
    enforces_set (enforces_optional enforces_string), .nil⟩

theorem FooterGroup.enforces_reader : reader.Enforces schema := by
  refine enforces_record ?_
  simp only [forall₂_cons]
  exact ⟨enforces_set enforces_string,
    enforces_set (enforces_list FooterLink.enforces_reader), .nil⟩

theorem Footer.enforces_reader : reader.Enforces schema := by
  refine enforces_defaulted ?_
  simp only [forall₂_cons]
  exact ⟨enforces_set enforces_oneOf, enforces_set (enforces_list FooterGroup.enforces_reader),
    enforces_set (enforces_optional enforces_string), .nil⟩

theorem HomeAction.enforces_reader : reader.Enforces schema := by
  refine enforces_record ?_
  simp only [forall₂_cons]
  exact ⟨enforces_set enforces_string, enforces_set enforces_string, .nil⟩

theorem CallToAction.enforces_reader : reader.Enforces schema := by
  refine enforces_record ?_
  simp only [forall₂_cons]
  exact ⟨enforces_set enforces_string, enforces_set enforces_string,
    enforces_set HomeAction.enforces_reader, .nil⟩

theorem Home.enforces_reader : reader.Enforces schema := by
  refine enforces_defaulted ?_
  simp only [forall₂_cons]
  exact ⟨enforces_set enforces_string, enforces_set enforces_string,
    enforces_set HomeAction.enforces_reader, enforces_set HomeAction.enforces_reader,
    enforces_set (enforces_optional CallToAction.enforces_reader), enforces_set enforces_bool, .nil⟩

theorem Profile.enforces_reader : reader.Enforces schema := by
  refine enforces_defaulted ?_
  simp only [forall₂_cons]
  exact ⟨enforces_set (enforces_optional enforces_checked),
    enforces_set (enforces_optional enforces_string),
    enforces_set (enforces_optional Version.enforces_reader),
    enforces_set (enforces_optional enforces_bool), .nil⟩

namespace Config

theorem enforces_profilesReader : profilesReader.Enforces (.names Profile.schema) := by
  refine enforces_names fun name done p node n x h ↦ ?_
  obtain ⟨profile, k, hprofile, -⟩ := Read.bind_eq_ok_iff.mp h
  exact Profile.enforces_reader hprofile

theorem enforces_reader : reader.Enforces schema := by
  have htext {σ : Type} {name : String} {put : Option String → σ → σ} :
      (Field.set name (.optional .string) put).Enforces (name, .scalar) :=
    enforces_set (enforces_optional enforces_string)
  refine enforces_defaulted ?_
  simp only [forall₂_cons]
  exact ⟨enforces_set enforces_string, htext, htext, htext,
    enforces_set (enforces_optional enforces_checked),
    enforces_set (enforces_optional enforces_checked), htext, htext, enforces_set enforces_oneOf,
    enforces_set Locales.enforces_reader, enforces_set Docs.enforces_reader,
    enforces_set Theme.enforces_reader, enforces_set Search.enforces_reader,
    enforces_set (enforces_optional Navbar.enforces_reader),
    enforces_set (enforces_optional Footer.enforces_reader),
    enforces_set (enforces_list enforces_string), enforces_set SnippetTemplates.enforces_reader,
    enforces_set Home.enforces_reader, enforces_set enforces_profilesReader, .nil⟩

/-- A configuration is read from a document with the keys of the schema, and from no other. -/
theorem keyed_of_read {text : String} {c : Config} (h : reader.run text = .ok c) :
    (Document.ofText text).Keyed schema (Document.ofText text).root :=
  enforces_reader.keyed_of_run h

end Config

/-- A configuration with records below records, one of them behind an alias. -/
def Config.nestedText : String :=
  "docs:\n  versions:\n    - &head \x7blabel: HEAD, path: head\x7d\n" ++
  "navbar:\n  logo: \x7balt: Logo, src: logo.svg\x7d\n  items:\n" ++
  "    - \x7btype: link, label: Blog, to: blog, position: \x7bright: ~\x7d\x7d\n" ++
  "    - [search, left]\n" ++
  "profiles:\n  preview:\n    current_version: *head\n"

theorem Config.keyed_of_read_nested :
    ∃ c, reader.run nestedText = .ok c ∧
      (Document.ofText nestedText).Keyed schema (Document.ofText nestedText).root := by
  have hread : ((reader.run nestedText).toOption).isSome = true := by decide +kernel
  obtain ⟨c, hc⟩ := Option.isSome_iff_exists.mp hread
  have hrun := Steps.toOption_eq_some_iff.mp hc
  exact ⟨c, hrun, keyed_of_read hrun⟩

/-! ## Where keys get lost -/

/-- The keys of a mapping that are texts. -/
def Yaml.Document.keys (d : Document) (node : Node) : List String :=
  match d.meant node with
  | .mapping _ entries _ => entries.filterMap fun e ↦ d.textOf? e.1
  | _ => []

/-- The value of the first entry with the key. -/
def Yaml.Document.value? (d : Document) (key : String) (node : Node) : Option Node :=
  match d.meant node with
  | .mapping _ entries _ => (entries.find? fun e ↦ d.isKey key e.1).map (·.2)
  | _ => none

/-- The items of a sequence. -/
def Yaml.Document.items (d : Document) (node : Node) : List Node :=
  match d.meant node with
  | .sequence _ items _ => items
  | _ => []

/-- The keys of each item of the bar. -/
def Yaml.Document.keysOfBar (d : Document) : List (List String) :=
  (((d.value? "navbar" d.root).bind (d.value? "items")).toList.flatMap d.items).map d.keys

/-- The names of the profiles, as they are written. -/
def Yaml.Document.profileNames (d : Document) : List String :=
  (d.value? "profiles" d.root).toList.flatMap d.keys

/-- An item is read although it has a key that no type of item knows, and two profiles of one name
are read as the second alone. -/
theorem Config.read_drops_keys :
    (∃ text c, reader.run text = .ok c ∧
      (Document.ofText text).keysOfBar = [["type", "label", "clas_name"]] ∧
      (∀ r ∈ NavItem.records, "clas_name" ∉ r.2.map (·.1)) ∧
      c = { Config.default with
        navbar := some ⟨none, none, [.link ⟨some "Blog", none, none, .left, none, none⟩]⟩ }) ∧
    ∃ text c, reader.run text = .ok c ∧
      (Document.ofText text).profileNames = ["production", "production"] ∧
      c = { Config.default with
        profiles := NameMap.empty.insert "production"
          { Profile.empty with search := some true } } := by
  refine ⟨⟨"navbar:\n  items:\n    - type: link\n      label: Blog\n      clas_name: wide\n", _,
    ?_, ?_, ?_, rfl⟩, "profiles:\n  production:\n    organization_name: Example\n" ++
      "  production:\n    search: true\n", _, ?_, ?_, rfl⟩
  · rw [← Steps.toOption_eq_some_iff]
    decide +kernel
  · decide +kernel
  · decide
  · rw [← Steps.toOption_eq_some_iff]
    decide +kernel
  · decide +kernel

end VersionedSite
