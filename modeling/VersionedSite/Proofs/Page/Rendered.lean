import VersionedSite.Proofs.Page.Composed
import VersionedSite.Proofs.Page.Markup
import VersionedSite.Proofs.Site.Trial

/-!
# Every page is rendered

A template fails on a value that it is not given, and the templates of the page ask for many values
of which half may be absent. None of them asks for too much: every page is rendered, whichever of
its parts are there and however long its lists are. That a page is rendered beside another of its
shape is known already, and a page is of its own shape.

What is left to fail is composing the page, and there only the template of the copyright line, which
is free text of the site. The install commands cannot fail any more once they have been tried out.
-/

namespace VersionedSite

variable {s : Site} {v : Version} {year : Int} {snippets : InstallSnippets} {lib : Liquid.Library}
  {f : Failure}

/-! ## Rendering -/

theorem BarItem.SameShape.refl (i : BarItem) : i.SameShape i where
  kind := rfl
  external := rfl
  ariaLabel := rfl
  className := rfl
  versions := List.forall₂_same.mpr fun _ _ ↦ rfl

theorem Bar.SameShape.refl (b : Bar) : b.SameShape b where
  title := rfl
  logo := rfl
  left := List.forall₂_same.mpr fun i _ ↦ .refl i
  right := List.forall₂_same.mpr fun i _ ↦ .refl i

theorem HomePage.SameShape.refl (p : HomePage) : p.SameShape p where
  favicon := rfl
  bar := .refl p.bar
  description := Iff.rfl
  features := rfl
  install := rfl
  callToAction := rfl
  style := rfl
  groups := List.forall₂_same.mpr fun _ _ ↦ List.forall₂_same.mpr fun _ _ ↦ rfl
  copyright := rfl

/-- The templates of the page give markup for every page. -/
theorem Page.exists_render (p : HomePage) (now : Calendar.Moment) :
    ∃ html, render (bundled.atMoment now) p = .ok html := by
  obtain ⟨html, -, h, -, -⟩ := exists_render_of_sameShape (HomePage.SameShape.refl p) now
  exact ⟨html, h⟩

/-- The small configuration with a copyright line. -/
def Config.signed (copyright : String) : Config :=
  { minimal with footer := some { Footer.default with copyright := some copyright } }

namespace Site

/-! ## The copyright line -/

/-- The template of the copyright line, if there is one, can be read, and rendered where the year is
all that it is given. -/
def CopyrightRenders (s : Site) (lib : Liquid.Library) (year : Int) : Prop :=
  ∀ source, s.footer.copyright = some source → ∃ t text,
    Liquid.Template.ofString .standard source = .ok t ∧
      lib.render t [("year", .int year)] = .ok text

/-- The copyright line fails for one of two reasons, and the failure tells which. -/
def CopyrightFails (s : Site) (lib : Liquid.Library) (year : Int) (f : Failure) : Prop :=
  ∃ source, s.footer.copyright = some source ∧
    ((∃ e, Liquid.Template.ofString .standard source = .error e ∧ f = ⟨.template e.message, []⟩) ∨
      ∃ t e, Liquid.Template.ofString .standard source = .ok t ∧
        lib.render t [("year", .int year)] = .error e ∧ f = ⟨.template e.message, []⟩)

theorem exists_copyright_iff :
    (∃ line, s.copyright lib year = .ok line) ↔ s.CopyrightRenders lib year := by
  rw [copyright, CopyrightRenders]
  cases s.footer.copyright with
  | none => simp
  | some source =>
    dsimp only
    cases hread : Liquid.Template.ofString .standard source with
    | error e => simp [hread]
    | ok t =>
      dsimp only
      cases hrender : lib.render t [("year", .int year)] with
      | error e => simp [hread, hrender]
      | ok text => simp [hread, hrender]

theorem copyright_eq_error_iff :
    s.copyright lib year = .error f ↔ s.CopyrightFails lib year f := by
  rw [copyright, CopyrightFails]
  cases s.footer.copyright with
  | none => simp
  | some source =>
    dsimp only
    cases hread : Liquid.Template.ofString .standard source with
    | error e => simp [hread, eq_comm]
    | ok t =>
      dsimp only
      cases hrender : lib.render t [("year", .int year)] with
      | error e => simp [hread, hrender, eq_comm]
      | ok text => simp [hread, hrender]

/-! ## Composing -/

/-- Accepted templates fill the install block. -/
theorem exists_installBlock (h : InstallSnippets.ofTemplates s.snippets = .ok snippets)
    (v : Version) : ∃ install, s.installBlock snippets v = .ok install := by
  cases hshow : s.home.showInstall with
  | false => exact ⟨none, installBlock_eq_ok_iff.mpr (.inl ⟨hshow, rfl⟩)⟩
  | true =>
    obtain ⟨pm, hpm⟩ := InstallSnippets.exists_line_of_ofTemplates h .packageManager s v
    obtain ⟨da, hda⟩ := InstallSnippets.exists_line_of_ofTemplates h .directApply s v
    exact ⟨_, installBlock_eq_ok_iff.mpr (.inr ⟨hshow, pm, da, hpm, hda, rfl⟩)⟩

theorem homePage_eq_error_iff (h : InstallSnippets.ofTemplates s.snippets = .ok snippets) :
    s.homePage v year snippets lib = .error f ↔ s.CopyrightFails lib year f := by
  obtain ⟨install, hinstall⟩ := exists_installBlock h v
  rw [← copyright_eq_error_iff, homePage, hinstall, Steps.mapError_ok, Steps.bind_eq_error_iff]
  constructor
  · rintro (hf | ⟨_, -, hf⟩)
    · exact absurd hf (by simp)
    · rcases Steps.bind_eq_error_iff.mp hf with hf | ⟨_, -, hf⟩
      · exact hf
      · exact absurd hf (by simp [pure, Except.pure])
  · intro hf
    exact .inr ⟨install, rfl, Steps.bind_eq_error_iff.mpr (.inl hf)⟩

theorem exists_homePage_iff (h : InstallSnippets.ofTemplates s.snippets = .ok snippets) :
    (∃ page, s.homePage v year snippets lib = .ok page) ↔ s.CopyrightRenders lib year := by
  obtain ⟨install, hinstall⟩ := exists_installBlock h v
  rw [← exists_copyright_iff]
  constructor
  · rintro ⟨page, hpage⟩
    obtain ⟨-, line, -, hline, -⟩ := homePage_eq_ok_iff.mp hpage
    exact ⟨line, hline⟩
  · rintro ⟨line, hline⟩
    exact ⟨_, homePage_eq_ok_iff.mpr ⟨install, line, hinstall, hline, rfl⟩⟩

/-- **Nothing but the copyright line can fail.** For every site whose install commands have been
accepted, every version, every year and every moment, the home page is composed exactly if the
copyright line renders, and a failure is that of the copyright line. What has been composed is
rendered, and so is any other page, whichever parts it has. -/
theorem homePage_is_rendered (hsnippets : InstallSnippets.ofTemplates s.snippets = .ok snippets)
    (v : Version) (year : Int) (now : Calendar.Moment) :
    (s.CopyrightRenders (Page.bundled.atMoment now) year →
        ∃ page html, s.homePage v year snippets (Page.bundled.atMoment now) = .ok page ∧
          Page.render (Page.bundled.atMoment now) page = .ok html) ∧
      (∀ f, s.homePage v year snippets (Page.bundled.atMoment now) = .error f →
        s.CopyrightFails (Page.bundled.atMoment now) year f) ∧
      ∀ page, ∃ html, Page.render (Page.bundled.atMoment now) page = .ok html := by
  refine ⟨fun hcopyright ↦ ?_, fun f hf ↦ (homePage_eq_error_iff hsnippets).mp hf,
    fun page ↦ Page.exists_render page now⟩
  obtain ⟨page, hpage⟩ := (exists_homePage_iff (v := v) hsnippets).mpr hcopyright
  obtain ⟨html, hhtml⟩ := Page.exists_render page now
  exact ⟨page, html, hpage, hhtml⟩

/-- A site with a search box, a menu of versions and a copyright line, and without a logo, an icon
or a call to action. -/
theorem signed_page_is_rendered :
    ∃ s snippets page html,
      (Config.signed "Copyright \x7b\x7b year \x7d\x7d").resolve none = .ok s ∧
      InstallSnippets.ofTemplates s.snippets = .ok snippets ∧
      s.CopyrightRenders (Page.bundled.atMoment (.startOfYear 2026)) 2026 ∧
      s.homePage s.versions.canonical 2026 snippets
        (Page.bundled.atMoment (.startOfYear 2026)) = .ok page ∧
      Page.render (Page.bundled.atMoment (.startOfYear 2026)) page = .ok html := by
  have hrun : ((Config.signed "Copyright \x7b\x7b year \x7d\x7d").resolve none).toOption.any
      (fun s ↦ (InstallSnippets.ofTemplates s.snippets).toOption.any fun _ ↦
      (s.copyright (Page.bundled.atMoment (.startOfYear 2026)) 2026).toOption.isSome) = true := by
    decide +kernel
  simp only [Steps.any_toOption_iff, Option.isSome_iff_exists, Steps.toOption_eq_some_iff] at hrun
  obtain ⟨s, hs, snippets, hsnippets, hline⟩ := hrun
  have hcopyright := exists_copyright_iff.mp hline
  obtain ⟨page, html, hpage, hhtml⟩ :=
    (homePage_is_rendered hsnippets s.versions.canonical 2026 (.startOfYear 2026)).1 hcopyright
  exact ⟨s, snippets, page, html, hs, hsnippets, hcopyright, hpage, hhtml⟩

end Site

end VersionedSite
