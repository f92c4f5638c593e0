import VersionedSite.Proofs.Site.Characters
import VersionedSite.Proofs.Steps
import VersionedSite.Proofs.Text.Trimming
import VersionedSite.Proofs.Yaml.Ending
import VersionedSite.Site.Printing
import VersionedSite.Site.Reading

/-!
# What showing a configuration loses

A configuration is shown as the document that it is printed to, without the blanks at its end. The
document ends with the profiles, so the blanks can only be those of a text in the last of them, and
only where the text is written without quotes and nothing follows it. The name of an organization
is the one text that a profile may end with and that may hold blanks at all.
-/

namespace VersionedSite

open Yaml (lastWritten lastOfText)

/-! ## The last text -/

/-- The text is written without quotes and ends in a blank. -/
def endsBlank (s : String) : Bool :=
  !([.singleQuoted, .doubleQuoted].contains (Yaml.chosenStyle s false))
    && s.toList.getLast?.any Text.isBlank

/-- The printed profile ends with such a text: nothing of a profile stands behind the name of the
organization but the version and the search. -/
def Profile.endsBlank (p : Profile) : Bool :=
  p.currentVersion.isNone && p.search.isNone && p.organizationName.any VersionedSite.endsBlank

/-- The last profile of the configuration ends with such a text. -/
def Config.endsBlank (c : Config) : Bool := c.profiles.entries.getLast?.any (·.2.endsBlank)

theorem any_isBlank_lastOfText (s : String) :
    (lastOfText s).any Text.isBlank = endsBlank s := by
  rw [lastOfText, endsBlank]
  cases Yaml.chosenStyle s false <;> rfl

/-- A text without blanks does not end in one, however it is written. -/
theorem endsBlank_eq_false {s : String} (h : ∀ c ∈ s.toList, Text.isBlank c = false) :
    endsBlank s = false := by
  rw [endsBlank, Bool.and_eq_false_iff, Option.any_eq_false]
  right
  intro c hc
  rw [h c (List.mem_of_getLast? hc)]

theorem Version.any_isBlank_lastWritten (v : Version) :
    (lastWritten v.toValue).any Text.isBlank = false := by
  have hlast : lastWritten v.toValue = lastOfText v.path.text := by
    simp only [Version.toValue, lastWritten, Yaml.lastOfFields]
  rw [hlast, any_isBlank_lastOfText]
  exact endsBlank_eq_false fun c hc ↦ (v.path.allows_of_mem hc).notBlank

theorem Profile.any_isBlank_lastWritten (p : Profile) :
    (lastWritten p.toValue).any Text.isBlank = p.endsBlank := by
  obtain ⟨url, organizationName, currentVersion, search⟩ := p
  rw [toValue, endsBlank]
  -- what is set last decides, so the fields are taken from the end
  cases search with
  | some b =>
    rw [Value.fieldIfSome, Yaml.lastWritten_record_append, lastWritten, Option.isNone_some,
      Bool.and_false, Bool.false_and]
    rfl
  | none =>
    rw [Value.fieldIfSome, List.append_nil]
    cases currentVersion with
    | some v =>
      rw [Value.fieldIfSome, Yaml.lastWritten_record_append, v.any_isBlank_lastWritten]
      rfl
    | none =>
      rw [Value.fieldIfSome, List.append_nil]
      cases organizationName with
      | some s =>
        rw [Value.fieldIfSome, Yaml.lastWritten_record_append, lastWritten,
          any_isBlank_lastOfText]
        rfl
      | none =>
        cases url with
        | some u =>
          have hurl := endsBlank_eq_false fun c hc ↦ u.notBlank_of_mem hc
          rw [← any_isBlank_lastOfText] at hurl
          exact hurl
        | none => rfl

theorem Config.any_isBlank_lastWritten (c : Config) :
    (lastWritten c.toValue).any Text.isBlank = c.endsBlank := by
  have hlast : lastWritten c.toValue =
      lastWritten (.record (c.profiles.entries.map fun e ↦ (e.1, e.2.toValue))) := by
    rw [toValue, lastWritten]
    simp only [Yaml.lastOfFields]
  rw [hlast, endsBlank]
  rcases List.eq_nil_or_concat c.profiles.entries with hnil | ⟨front, ⟨name, p⟩, happend⟩
  · rw [hnil]
    rfl
  · rw [happend, List.concat_eq_append, List.map_append, List.map_singleton,
      Yaml.lastWritten_record_append, List.getLast?_concat, p.any_isBlank_lastWritten]
    rfl

/-! ## Showing -/

/-- Showing keeps the whole printed document exactly if the last profile does not end in a blank. -/
theorem Config.display_eq_print_iff (c : Config) :
    c.display.toList = Yaml.print c.toValue ↔ c.endsBlank = false := by
  rw [display, VersionedSite.display, String.toList_ofList, Text.trimEnd_eq_self_iff,
    Yaml.getLast?_print, c.any_isBlank_lastWritten]

/-- **What is shown of a configuration reads back** if what is printed of it does, and if the last
profile does not end in a blank. Showing keeps the printed document as it is exactly then. -/
theorem Config.display_reads_back (c : Config)
    (hyaml : reader.run (String.ofList (Yaml.print c.toValue)) = .ok { c with root := "" }) :
    (c.display.toList = Yaml.print c.toValue ↔ c.endsBlank = false) ∧
      (c.endsBlank = false → reader.run c.display = .ok { c with root := "" }) := by
  refine ⟨c.display_eq_print_iff, fun hend ↦ ?_⟩
  rw [← hyaml, ← c.display_eq_print_iff.mpr hend, String.ofList_toList]

/-! ## Two configurations with one profile -/

/-- A configuration whose only profile sets the name of the organization. -/
def Config.organized (organization : String) : Config :=
  { Config.default with
    snippets := ⟨"install", "apply"⟩
    profiles := NameMap.empty.insert "own"
      { Profile.empty with organizationName := some organization } }

/-- A name of two words is shown as it is. -/
theorem Config.display_of_two_words :
    reader.run (organized "Example Org").display = .ok (organized "Example Org") := by
  have hyaml : reader.run (String.ofList (Yaml.print (organized "Example Org").toValue)) =
      .ok (organized "Example Org") := by
    rw [← Steps.toOption_eq_some_iff, Yaml.Reader.run, Yaml.Document.ofText, String.toList_ofList]
    decide +kernel
  exact (display_reads_back (organized "Example Org") hyaml).2 (by decide +kernel)

/-- A name that ends with its line is written as a block, and showing takes the end of the line
away, without which the block is another text. -/
theorem Config.display_of_line_end :
    ∃ c text, reader.run text = .ok c ∧
      reader.run (String.ofList (Yaml.print c.toValue)) = .ok { c with root := "" } ∧
      reader.run c.display ≠ .ok { c with root := "" } := by
  have hfile : reader.run ("snippets:\n  package_manager: install\n  direct_apply: apply\n"
      ++ "profiles:\n  own:\n    organization_name: \"Example\\n\"\n") =
        .ok (organized "Example\n") := by
    rw [← Steps.toOption_eq_some_iff]
    decide +kernel
  have hshown : reader.run (String.ofList (Yaml.print (organized "Example\n").toValue)) =
        .ok (organized "Example\n") ∧
      reader.run (organized "Example\n").display ≠ .ok (organized "Example\n") := by
    rw [ne_eq, ← Steps.toOption_eq_some_iff, ← Steps.toOption_eq_some_iff, display,
      VersionedSite.display, Yaml.Reader.run, Yaml.Document.ofText, String.toList_ofList,
      Yaml.Reader.run, Yaml.Document.ofText, String.toList_ofList]
    decide +kernel
  exact ⟨organized "Example\n", _, hfile, hshown⟩

end VersionedSite
