import VersionedSite.Proofs.Page.Rendered

/-!
# The commands on the page

A reader copies the install commands from the page. The markup holds them escaped, each in a block
of its own, and what a browser makes of the block is the command that was put in, whatever its
characters are: a command that holds an entity is not shown with the character of that entity.

To see the two blocks, the page is read in three stretches: down to the section with the commands,
the section, and the rest. Of the outer two it is enough that they are printed and leave nothing
behind; the section is worked out in full.
-/

namespace VersionedSite

namespace Page

open Liquid

variable {embed inner : Embedding} {sc : Scope} {n : Node} {nodes rest : List Node} {e : Expr}
  {out outs : List Char}

/-! ## What nodes print -/

/-- The nodes print a text, and nothing is left in the state that a later node could see. -/
def Prints (embed : Embedding) (sc : Scope) (nodes : List Node) (out : List Char) : Prop :=
  renderAll embed nodes sc {} = .ok (out, {})

namespace Prints

theorem nil : Prints embed sc [] [] := rfl

theorem cons (hn : n.render embed sc {} = .ok (out, {})) (h : Prints embed sc rest outs) :
    Prints embed sc (n :: rest) (out ++ outs) := by
  rw [Prints, renderAll_cons hn rfl, h]
  rfl

theorem append (h : Prints embed sc nodes out) (hrest : Prints embed sc rest outs) :
    Prints embed sc (nodes ++ rest) (out ++ outs) := by
  rw [Prints, renderAll_append h rfl, hrest]
  rfl

theorem markup (s : String) (h : Prints embed sc rest outs) :
    Prints embed sc (Page.markup s :: rest) (s.toList ++ outs) :=
  cons rfl h

theorem escaped {s : String} (he : e.value (sc.find? {}) = .ok (.text s))
    (h : Prints embed sc rest outs) :
    Prints embed sc (Page.escaped e :: rest) (Text.escape s.toList ++ outs) :=
  cons (Parallel.render_escaped he) h

/-- Nodes for a value that is there. -/
theorem given {v : Liquid.Value} (he : e.value (sc.find? {}) = .ok v) (hv : v.isTruthy = true)
    (hnodes : Prints embed sc nodes out) (h : Prints embed sc rest outs) :
    Prints embed sc (Page.given e nodes :: rest) (out ++ outs) := by
  have htest := (Parallel.test_holds he).trans (congrArg Except.ok hv)
  exact cons ((Parallel.render_branch htest).trans hnodes) h

theorem part {name : String} {t : Template}
    (hname : embed name = .ok fun sc st ↦ renderAll inner t sc st) (ht : Prints inner sc t out)
    (h : Prints embed sc rest outs) : Prints embed sc (Page.part name :: rest) (out ++ outs) :=
  cons ((Parallel.render_part hname sc).trans ht) h

end Prints

theorem Parallel.exists_prints {sc' : Scope} {raw raw' : List String}
    (h : Parallel embed sc sc' nodes raw raw') : ∃ out, Prints embed sc nodes out := by
  obtain ⟨out, -, hout, -, -⟩ := h
  exact ⟨out, hout⟩

/-! ## The section with the commands -/

/-- A block of code, around what stands in it. -/
def codeBlock (code : List Char) : List Char :=
  "<pre><code class=\"language-bash\">".toList ++ code ++ "</code></pre>".toList

/-- The section down to the first command. -/
def installHeading (b : InstallBlock) : List Char :=
  "<section class=\"install container margin-vert--lg\">\n  <h2>Install ".toList
    ++ Text.escape b.version.toList ++ "</h2>\n  ".toList

/-- The section with the commands. -/
def installSection (b : InstallBlock) : List Char :=
  installHeading b ++ codeBlock (Text.escape b.packageManager.toList) ++ "\n  ".toList
    ++ codeBlock (Text.escape b.directApply.toList) ++ "\n</section>\n".toList

theorem prints_install {b : InstallBlock}
    (hb : sc.find? {} "install" = some (.ofPrinted b.toValue)) :
    Prints embed sc installTemplate (installSection b) := by
  have hversion : (field "install" "version").value (sc.find? {}) = .ok (.text b.version) :=
    value_reference hb rfl rfl
  have hpm : (field "install" "package_manager").value (sc.find? {}) =
      .ok (.text b.packageManager) := value_reference hb rfl rfl
  have hda : (field "install" "direct_apply").value (sc.find? {}) = .ok (.text b.directApply) :=
    value_reference hb rfl rfl
  have hall : Prints embed sc installTemplate _ :=
    .markup _ <| .escaped hversion <| .markup _ <| .escaped hpm <| .markup _ <|
    .escaped hda <| .markup _ .nil
  unfold installSection installHeading codeBlock
  simpa only [String.toList_append, List.append_assoc, List.append_nil] using hall

/-! ## The page -/

variable {p : HomePage} {b : InstallBlock} {now : Calendar.Moment}

theorem Prints.render_eq (h : Prints (bundledAt now 9999) (scopeOf now p) homeTemplate out) :
    render (bundled.atMoment now) p = .ok (String.ofList out) := by
  rw [Page.render_eq, h]
  rfl

/-- The page below the section with the install commands. -/
def belowInstall : List Node := [
  Page.given (value "call_to_action") callToActionTemplate,
  Page.markup "\n</main>\n", Page.part "footer.html", Page.markup "\n</body>\n</html>\n"]

theorem exists_prints_aboveInstall (p : HomePage) (now : Calendar.Moment) :
    ∃ out, Prints (bundledAt now 9999) (scopeOf now p) aboveInstall out := by
  obtain ⟨raw, raw', h, -, -⟩ : ∃ raw raw', Parallel (bundledAt now 9999) (scopeOf now p)
      (scopeOf now p) aboveInstall raw raw' ∧ _ ∧ _ :=
    parallel_aboveInstall (bundledAt_of_find rfl) (bundledAt_of_find rfl) (bundledAt_of_find rfl)
      (HomePage.SameShape.refl p)
  exact h.exists_prints

theorem exists_prints_belowInstall (p : HomePage) (now : Calendar.Moment) :
    ∃ out, Prints (bundledAt now 9999) (scopeOf now p) belowInstall out := by
  have hshape := HomePage.SameShape.refl p
  have h : Parallel (bundledAt now 9999) (scopeOf now p) (scopeOf now p) belowInstall _ _ :=
    .givenOption (fun _ ↦ rfl) hshape.callToAction rfl rfl
      (fun a c ha hc ↦ parallel_callToAction (value_value_eq_ok_iff.mp ha)
        (value_value_eq_ok_iff.mp hc)) <|
    .markup _ <| .part (bundledAt_of_find rfl)
      (parallel_footer rfl rfl hshape.groups hshape.copyright) <|
    .markup _ .nil
  exact h.exists_prints

/-- The code of a line of text: no character in it means anything to markup but the ampersands of
entities, and with the characters of these it reads as the line. -/
structure IsCodeOf (line : String) (code : List Char) : Prop where
  signless : ∀ c ∈ ['<', '>', '"', '\''], c ∉ code
  unescape : Text.unescape code = line.toList

theorem isCodeOf_escape (line : String) : IsCodeOf line (Text.escape line.toList) where
  signless c hc := by
    have hsigns : ∀ c ∈ ['<', '>', '"', '\''], (Text.entity? c).isSome = true ∧ c ≠ '&' := by
      simp [Text.entity?]
    exact Text.not_mem_escape (hsigns c hc).1 (hsigns c hc).2 _
  unescape := Text.unescape_escape line.toList

/-- **The page shows the commands as they are.** The markup of every page that has install commands
holds the two in blocks of code, the one below the other, and the code in either block reads as its
command. -/
theorem commands_are_shown (h : p.install = some b) (now : Calendar.Moment) :
    ∃ html front code code' back, render (bundled.atMoment now) p = .ok html ∧
      html.toList = front ++ codeBlock code ++ "\n  ".toList ++ codeBlock code' ++ back ∧
      IsCodeOf b.packageManager code ∧ IsCodeOf b.directApply code' := by
  obtain ⟨above, habove⟩ := exists_prints_aboveInstall p now
  obtain ⟨below, hbelow⟩ := exists_prints_belowInstall p now
  have hfind : (scopeOf now p).find? {} "install" = some (.ofPrinted b.toValue) := by
    have hvalue : (scopeOf now p).find? {} "install" =
        some (.ofPrinted (.optional InstallBlock.toValue p.install)) := rfl
    rw [hvalue, h]
    rfl
  have hsection : Prints (bundledAt now 9999) (scopeOf now p)
      [Page.given (value "install") [Page.markup "\n", Page.part "install.html"]] _ :=
    .given (value_value_eq_ok_iff.mpr hfind) rfl
      (.markup _ <| .part (bundledAt_of_find rfl) (prints_install hfind) .nil) .nil
  have hhome : Prints (bundledAt now 9999) (scopeOf now p) homeTemplate _ :=
    habove.append (hsection.append hbelow)
  refine ⟨_, above ++ "\n".toList ++ installHeading b, _, _, "\n</section>\n".toList ++ below,
    hhome.render_eq, ?_, isCodeOf_escape b.packageManager, isCodeOf_escape b.directApply⟩
  unfold installSection
  simp only [String.toList_ofList, List.append_assoc, List.append_nil]

end Page

/-- The small configuration with install commands of its own. -/
def Config.installedBy (packageManager directApply : String) : Config :=
  { minimal with snippets := ⟨packageManager, directApply⟩ }

/-- The first command has every character that is escaped, and something that looks escaped. -/
theorem Page.quoted_commands_are_shown :
    ∃ p b html front code code' back,
      (Config.installedBy "echo \"&lt;\" > 'é' && true"
        "apply <\x7b\x7b version \x7d\x7d>").homePage? 2026 = some p ∧
      p.install = some b ∧ b.packageManager = "echo \"&lt;\" > 'é' && true" ∧
      b.directApply = "apply <head>" ∧
      render (bundled.atMoment (.startOfYear 2026)) p = .ok html ∧
      html.toList = front ++ codeBlock code ++ "\n  ".toList ++ codeBlock code' ++ back ∧
      IsCodeOf b.packageManager code ∧ IsCodeOf b.directApply code' := by
  have hrun : ((Config.installedBy "echo \"&lt;\" > 'é' && true"
      "apply <\x7b\x7b version \x7d\x7d>").homePage? 2026).any (fun p ↦ p.install.any fun b ↦
        b.packageManager = "echo \"&lt;\" > 'é' && true" &&
          b.directApply = "apply <head>") = true := by
    decide +kernel
  simp only [Option.any_eq_true, Bool.and_eq_true, decide_eq_true_iff] at hrun
  obtain ⟨p, hp, b, hb, hpm, hda⟩ := hrun
  obtain ⟨html, front, code, code', back, hhtml, hparts, hcode, hcode'⟩ :=
    commands_are_shown hb (.startOfYear 2026)
  exact ⟨p, b, html, front, code, code', back, hp, hb, hpm, hda, hhtml, hparts, hcode, hcode'⟩

end VersionedSite
