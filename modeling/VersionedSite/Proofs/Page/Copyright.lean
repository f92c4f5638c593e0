import VersionedSite.Proofs.Liquid.Timeless
import VersionedSite.Proofs.Page.Rendered

/-!
# The copyright line of a page

The copyright line is the one free text of a page that is worked out when the page is composed. It
stands on the page once, escaped, and nothing else on the page asks for it: the page is the same
text around every line. So two copyright lines make two pages.

The templates of the page do not ask what time it is. If a page tells the time, it is its copyright
line that does.
-/

namespace VersionedSite

/-- The page with another copyright line, or without one. -/
def HomePage.signed (p : HomePage) (line : Option String) : HomePage :=
  { p with footer := { p.footer with copyright := line } }

namespace Liquid.Value

theorem field?_append (name : String) (fields fields' : List (String × Value)) :
    field? name (fields ++ fields') = (field? name fields).or (field? name fields') := by
  rw [field?, field?, field?, List.find?_append]
  cases fields.find? (·.1 == name) <;> rfl

theorem field?_append_of_ne {name name' : String} (h : name ≠ name')
    (fields : List (String × Value)) (v : Value) :
    field? name (fields ++ [(name', v)]) = field? name fields := by
  have hnone : field? name [(name', v)] = none := by simp [field?, Ne.symm h]
  rw [field?_append, hnone, Option.or_none]

end Liquid.Value

namespace Page

open Liquid

/-! ## Asking for something else -/

def isLiteral : Expr → Bool
  | .literal _ => true
  | .reference _ _ => false

/-- The path leads from the footer to something else than its copyright line. -/
def leadsElsewhere : List Expr → Bool
  | .literal (.text name) :: _ => name != "copyright"
  | _ => false

/-- What a template may ask for that is to be the same whatever the copyright line is. -/
def besideLine : Footprint where
  value
    | .literal _ => true
    | .reference name path => path.all isLiteral && (name != "footer" || leadsElsewhere path)
  filter _ := true
  template
    | .literal (.text name) => name != "footer.html" && name ++ ".liquid" != "footer.html"
    | _ => false

/-- The scopes are the same, or they are those of two pages that differ in their copyright lines. -/
inductive SameButLine : Scope → Scope → Prop where
  | refl (sc : Scope) : SameButLine sc sc
  | signed (p : HomePage) (line line' : Option String) (sc : Scope) :
    SameButLine { sc with data := data (p.signed line) } { sc with data := data (p.signed line') }

section

variable {p : HomePage} {line line' : Option String} {sc : Scope} {st : State}

theorem data_signed (p : HomePage) (line : Option String) : data (p.signed line) =
    (data p).dropLast ++ [("footer", .ofPrinted (p.signed line).footer.toValue)] :=
  rfl

theorem find?_signed_of_ne {name : String} (h : name ≠ "footer") :
    Scope.find? { sc with data := data (p.signed line) } st name =
      Scope.find? { sc with data := data (p.signed line') } st name := by
  simp only [Scope.find?, data_signed, Liquid.Value.field?_append_of_ne h]

/-- The footer is that of the page unless a loop or an assignment has taken its name. -/
theorem find?_signed_footer (p : HomePage) (sc : Scope) (st : State) :
    (∃ v, ∀ line, Scope.find? { sc with data := data (p.signed line) } st "footer" = some v) ∨
      ∀ line, Scope.find? { sc with data := data (p.signed line) } st "footer" =
        some (.ofPrinted (p.signed line).footer.toValue) := by
  simp only [Scope.find?]
  cases Liquid.Value.field? "footer" sc.locals with
  | some v => exact .inl ⟨v, fun _ ↦ rfl⟩
  | none =>
    cases Liquid.Value.field? "footer" st.assigned with
    | some v => exact .inl ⟨v, fun _ ↦ rfl⟩
    | none => exact .inr fun line ↦ rfl

theorem footer_toValue (p : HomePage) (line : Option String) :
    Liquid.Value.ofPrinted (p.signed line).footer.toValue = .object
      ([("style", .ofPrinted p.footer.style.toValue),
        ("groups", .ofPrinted (.list (p.footer.groups.map (·.toValue))))] ++
          [("copyright", .ofPrinted (.textOrNull line))]) :=
  rfl

/-- Indexes that lead elsewhere lead to the same whatever the copyright line is. -/
theorem memberOf_footer {name : String} (h : name ≠ "copyright") (owner : String)
    (indexes : List Liquid.Value) :
    memberOf owner (.ofPrinted (p.signed line).footer.toValue) (.text name :: indexes) =
      memberOf owner (.ofPrinted (p.signed line').footer.toValue) (.text name :: indexes) := by
  have hname : String.ofList (Liquid.Value.text name).chars = name := by
    rw [Liquid.Value.chars, String.ofList_toList]
  have hmember : (Liquid.Value.ofPrinted (p.signed line).footer.toValue).member? (.text name) =
      (Liquid.Value.ofPrinted (p.signed line').footer.toValue).member? (.text name) := by
    rw [footer_toValue, footer_toValue, Liquid.Value.member?, Liquid.Value.member?]
    simp only [hname, Liquid.Value.field?_append_of_ne h, List.length_append, List.length_singleton]
  rw [memberOf, memberOf, Liquid.Value.follow, Liquid.Value.follow, hmember]
  cases (Liquid.Value.ofPrinted (p.signed line').footer.toValue).member? (.text name) with
  | none => rfl
  | some v => rfl

theorem pathValues_of_isLiteral {path : List Expr} (h : path.all isLiteral = true)
    (look look' : String → Option Liquid.Value) : pathValues look path = pathValues look' path := by
  induction path with
  | nil => rw [pathValues, pathValues]
  | cons e path ih =>
    rw [List.all_cons, Bool.and_eq_true] at h
    cases e with
    | literal v =>
      rw [pathValues, pathValues, ih h.2, Expr.value, Expr.value]
    | reference name path' => exact absurd h.1 (by simp [isLiteral])

theorem pathValues_literal {look : String → Option Liquid.Value} {v : Liquid.Value}
    {path : List Expr} {indexes : List Liquid.Value}
    (h : pathValues look (.literal v :: path) = .ok indexes) : ∃ more, indexes = v :: more := by
  rw [pathValues, Expr.value] at h
  simp only [bind, Except.bind] at h
  split at h
  · obtain ⟨more, -, hmore⟩ := Steps.bind_eq_ok_iff.mp h
    exact ⟨more, (Except.ok.inj hmore).symm⟩
  · cases h

theorem value_footer {path : List Expr} (hliteral : path.all isLiteral = true)
    (hpath : leadsElsewhere path = true) :
    (Expr.reference "footer" path).value (Scope.find? { sc with data := data (p.signed line) } st) =
      (Expr.reference "footer" path).value
        (Scope.find? { sc with data := data (p.signed line') } st) := by
  rw [Expr.value, Expr.value, pathValues_of_isLiteral hliteral _
    (Scope.find? { sc with data := data (p.signed line') } st)]
  rcases find?_signed_footer p sc st with ⟨v, hv⟩ | hv
  · rw [hv line, hv line']
  rw [hv line, hv line']
  unfold leadsElsewhere at hpath
  split at hpath
  · next name rest =>
    cases hindexes : pathValues (Scope.find? { sc with data := data (p.signed line') } st)
        (.literal (.text name) :: rest) with
    | error f => rfl
    | ok indexes =>
      obtain ⟨more, rfl⟩ := pathValues_literal hindexes
      exact memberOf_footer (bne_iff_ne.mp hpath) "footer" more
  · exact absurd hpath (by decide)

end

theorem besideLine_hides : besideLine.Hides SameButLine where
  value := by
    rintro _ _ e st (_ | ⟨p, line, line', sc⟩) he
    · rfl
    cases e with
    | literal v => rfl
    | reference name path =>
      obtain ⟨hpath, hroot⟩ := Bool.and_eq_true_iff.mp he
      by_cases hname : name = "footer"
      · subst hname
        exact value_footer hpath (by simpa using hroot)
      · rw [Expr.value, Expr.value, pathValues_of_isLiteral hpath, find?_signed_of_ne hname]
  filter := by
    rintro _ _ g v arguments (_ | _) - <;> rfl
  outer := by
    rintro _ _ st (_ | ⟨p, line, line', sc⟩)
    · rfl
    · exact find?_signed_of_ne (by decide)
  push := by
    rintro _ _ names (_ | ⟨p, line, line', sc⟩)
    · exact .refl _
    · exact .signed p line line' (sc.push names)
  alone := by
    rintro _ _ names (_ | _)
    · exact .refl _
    · exact .refl _

/-! ## The templates of the page -/

theorem mem_parts_of_find {now : Calendar.Moment} {name : String} {t : Template}
    (h : (bundled.atMoment now).find name = .ok t) : (name, t) ∈ parts := by
  rw [Library.find] at h
  split at h
  · cases h
  · cases h
  · next found t' hfind =>
    obtain rfl := Except.ok.inj h
    have hname := List.find?_some hfind
    obtain ⟨⟨name', t⟩, hmem, heq⟩ := List.mem_map.mp (List.mem_of_find?_eq_some hfind)
    obtain ⟨rfl, ht⟩ := Prod.mk.inj heq
    rw [← Except.ok.inj ht, ← beq_iff_eq.mp hname]
    exact hmem

theorem bundled_within (now : Calendar.Moment) : (bundled.atMoment now).Within besideLine := by
  have hparts : (parts.all fun part ↦ part.1 == "footer.html" || allWithin besideLine part.2) =
      true := by decide +kernel
  have hother {name : String} {t : Template} (hname : name ≠ "footer.html")
      (hfind : (bundled.atMoment now).find name = .ok t) : allWithin besideLine t = true := by
    have hpart := List.all_eq_true.mp hparts _ (mem_parts_of_find hfind)
    simpa [hname] using hpart
  intro e look name t he hname hfind
  unfold besideLine at he
  dsimp only at he
  split at he
  · next name' =>
    rw [Parallel.templateName_literal] at hname
    obtain rfl := Except.ok.inj hname
    obtain ⟨hne, hne'⟩ := Bool.and_eq_true_iff.mp he
    rcases hfind with hfind | hfind
    · exact hother (bne_iff_ne.mp hne) hfind
    · exact hother (bne_iff_ne.mp hne') hfind
  · cases he

theorem allWithin_homeTop : allWithin besideLine homeTop = true := by decide +kernel

theorem allWithin_footerTop : allWithin besideLine footerTop = true := by decide +kernel

theorem bundled_isTimeless : bundled.IsTimeless := by
  have hparts : (parts.all fun part ↦ part.2.isTimeless) = true := by decide +kernel
  intro name t hfind
  have hfind : (bundled.atMoment bundled.now).find name = .ok t := hfind
  exact List.all_eq_true.mp hparts _ (mem_parts_of_find hfind)

theorem homeTemplate_isTimeless : homeTemplate.isTimeless = true := by decide +kernel

/-- A page is the same at any moment, as far as it does not depend on the copyright line. -/
theorem render_atMoment (p : HomePage) (now now' : Calendar.Moment) :
    render (bundled.atMoment now) p = render (bundled.atMoment now') p :=
  Library.render_atMoment bundled_isTimeless homeTemplate_isTimeless (data p) now now'

/-! ## The text around the line -/

section

variable {embed inner : Embedding} {scope : String → Scope} {nodes rest : List Node}

/-- The nodes print the same whatever the line is. -/
def Fixed (embed : Embedding) (scope : String → Scope) (nodes : List Node) : Prop :=
  ∃ out, ∀ line, renderAll embed nodes (scope line) {} = .ok (out, {})

/-- The nodes print the line once, escaped, and around it the same whatever the line is. -/
def Around (embed : Embedding) (scope : String → Scope) (nodes : List Node) : Prop :=
  ∃ front back, ∀ line : String, renderAll embed nodes (scope line) {} =
    .ok (front ++ Text.escape line.toList ++ back, {})

theorem fixed_markup (s : String) : Fixed embed scope [markup s] :=
  ⟨s.toList ++ [], fun _ ↦ rfl⟩

theorem Fixed.before (h : Fixed embed scope nodes) (hrest : Around embed scope rest) :
    Around embed scope (nodes ++ rest) := by
  obtain ⟨out, hout⟩ := h
  obtain ⟨front, back, haround⟩ := hrest
  refine ⟨out ++ front, back, fun line ↦ ?_⟩
  rw [renderAll_append (hout line) rfl, haround line]
  simp [Except.map]

theorem Around.before (h : Around embed scope nodes) (hrest : Fixed embed scope rest) :
    Around embed scope (nodes ++ rest) := by
  obtain ⟨front, back, haround⟩ := h
  obtain ⟨out, hout⟩ := hrest
  refine ⟨front, back ++ out, fun line ↦ ?_⟩
  rw [renderAll_append (haround line) rfl, hout line]
  simp [Except.map]

/-- A node that prints what other nodes do. -/
theorem Around.ofRender {n : Node} (h : Around inner scope nodes)
    (hn : ∀ line, n.render embed (scope line) {} = renderAll inner nodes (scope line) {}) :
    Around embed scope [n] := by
  obtain ⟨front, back, haround⟩ := h
  refine ⟨front, back, fun line ↦ ?_⟩
  rw [renderAll_cons ((hn line).trans (haround line)) rfl, renderAll]
  simp [Except.map]

theorem around_escaped {e : Expr}
    (he : ∀ line, e.value ((scope line).find? {}) = .ok (.text line)) :
    Around embed scope [escaped e] := by
  refine ⟨[], [], fun line ↦ ?_⟩
  rw [renderAll_cons (Parallel.render_escaped (he line)) rfl, renderAll]
  simp [Except.map]

theorem around_given {e : Expr}
    (he : ∀ line, e.value ((scope line).find? {}) = .ok (.text line))
    (h : Around embed scope nodes) : Around embed scope [given e nodes] :=
  h.ofRender fun line ↦ Parallel.render_branch (Parallel.test_holds (he line))

end

section

variable {now : Calendar.Moment} {p : HomePage}

/-- What the templates of the page see when the page is signed with a line. -/
def signedScope (now : Calendar.Moment) (p : HomePage) (line : String) : Scope :=
  scopeOf now (p.signed (some line))

/-- A template that asks for something else and prints on one page prints the same on all. -/
theorem fixed_of_allWithin {depth : Nat} {t : Template} (ht : allWithin besideLine t = true)
    {raw raw' : List String} (h : Parallel (bundledAt now depth) (signedScope now p "")
      (signedScope now p "") t raw raw') : Fixed (bundledAt now depth) (signedScope now p) t := by
  obtain ⟨out, -, hout, -, -⟩ := h
  refine ⟨out, fun line ↦ ?_⟩
  have hscopes : SameButLine (signedScope now p line) (signedScope now p "") :=
    .signed p line "" { data := [], now }
  have hsame := Library.same_renderAt besideLine_hides (bundled_within now) (depth + 1) ht
  exact (hsame _ _ {} hscopes).trans hout

theorem fixed_homeTop {depth : Nat} :
    Fixed (bundledAt now (depth + 2)) (signedScope now p) homeTop := by
  obtain ⟨raw, raw', h, -, -⟩ : ∃ raw raw', Parallel (bundledAt now (depth + 2))
      (signedScope now p "") (signedScope now p "") homeTop raw raw' ∧ _ ∧ _ :=
    parallel_homeTop (bundledAt_of_find rfl) (bundledAt_of_find rfl) (bundledAt_of_find rfl)
      (bundledAt_of_find rfl) (HomePage.SameShape.refl (p.signed (some "")))
  exact fixed_of_allWithin allWithin_homeTop h

theorem fixed_footerTop {depth : Nat} :
    Fixed (bundledAt now depth) (signedScope now p) footerTop :=
  fixed_of_allWithin allWithin_footerTop
    (parallel_footerTop rfl rfl (HomePage.SameShape.refl (p.signed (some ""))).groups)

/-- **A page is the same text around every copyright line.** -/
theorem exists_render_signed (p : HomePage) (now : Calendar.Moment) :
    ∃ front back, ∀ line : String, render (bundled.atMoment now) (p.signed (some line)) =
      .ok (String.ofList (front ++ Text.escape line.toList ++ back)) := by
  have hline (line : String) : (field "footer" "copyright").value
      ((signedScope now p line).find? {}) = .ok (.text line) := rfl
  have hfooter : Around (bundledAt now 9998) (signedScope now p) footerTemplate :=
    fixed_footerTop.before <|
      (around_given hline <| (fixed_markup _).before <| (around_escaped hline).before <|
        fixed_markup _).before <| fixed_markup _
  have hpart : Around (bundledAt now 9999) (signedScope now p) [part "footer.html"] :=
    hfooter.ofRender fun line ↦ Parallel.render_part (bundledAt_of_find rfl) _
  have hhome : Around (bundledAt now 9999) (signedScope now p) homeTemplate :=
    fixed_homeTop.before (hpart.before (fixed_markup _))
  obtain ⟨front, back, hhome⟩ := hhome
  refine ⟨front, back, fun line ↦ ?_⟩
  rw [render_eq]
  exact congrArg (Except.map _) (hhome line)

/-- Two copyright lines make two pages. -/
theorem render_signed_inj {line line' : String}
    (h : render (bundled.atMoment now) (p.signed (some line)) =
      render (bundled.atMoment now) (p.signed (some line'))) : line = line' := by
  obtain ⟨front, back, haround⟩ := exists_render_signed p now
  rw [haround line, haround line'] at h
  have hchars := String.ofList_injective (Except.ok.inj h)
  have hescaped := List.append_cancel_left (List.append_cancel_right hchars)
  exact String.toList_injective (Text.escape_inj hescaped)

end

end Page

end VersionedSite
