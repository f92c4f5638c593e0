import Mathlib.Tactic.MkIffOfInductiveProp
import VersionedSite.Page.Rendering
import VersionedSite.Proofs.Page.Parallel
import VersionedSite.Proofs.Site.Resolved

/-!
# What texts do to the markup of the page

Two pages have the same shape if they differ in their texts alone: the same parts are there, lists
are equally long, and links are marked in the same way. Most texts are escaped where they are
shown. Those that are not are listed by `HomePage.unescaped`, part by part, and they are all that
the markup of two pages of the same shape can differ in.
-/

namespace VersionedSite

/-! ## Texts that stand as they are -/

def PageLink.unescaped (l : PageLink) : List String := [l.href]

def VersionLink.unescaped (l : VersionLink) : List String := [l.href]

/-- The label of a search box stands in it twice. -/
def BarItem.unescaped (i : BarItem) : List String :=
  match i.kind with
  | .link => i.className.toList ++ [i.href]
  | .versionDropdown => i.href :: i.versions.flatMap (·.unescaped)
  | .search => [i.label, i.label]

def Bar.unescaped (b : Bar) : List String :=
  b.homeHref :: (b.logo.toList.flatMap ([·.src]) ++ b.left.flatMap (·.unescaped)
    ++ b.right.flatMap (·.unescaped))

def PageHeader.unescaped (h : PageHeader) : List String :=
  h.primary.unescaped ++ h.secondary.unescaped

def FeatureBlock.unescaped (f : FeatureBlock) : List String := [f.iconSrc]

def CallToActionBlock.unescaped (b : CallToActionBlock) : List String := b.action.unescaped

def LinkGroup.unescaped (g : LinkGroup) : List String := g.links.flatMap (·.unescaped)

/-- The texts of a page that its templates take over as they stand, in the order of the page. -/
def HomePage.unescaped (p : HomePage) : List String :=
  p.lang :: (p.favicon.toList ++ p.bar.unescaped ++ p.header.unescaped
    ++ p.features.flatMap (·.unescaped) ++ p.callToAction.toList.flatMap (·.unescaped)
    ++ p.footer.groups.flatMap (·.unescaped))

/-! ## Shapes -/

/-- The two items differ in their texts alone. -/
@[mk_iff] structure BarItem.SameShape (i j : BarItem) : Prop where
  kind : i.kind = j.kind
  external : i.external = j.external
  ariaLabel : i.ariaLabel.isSome = j.ariaLabel.isSome
  className : i.className.isSome = j.className.isSome
  versions : List.Forall₂ (fun l m ↦ l.active = m.active) i.versions j.versions

@[mk_iff] structure Bar.SameShape (b c : Bar) : Prop where
  title : b.title.isSome = c.title.isSome
  logo : b.logo.isSome = c.logo.isSome
  left : List.Forall₂ BarItem.SameShape b.left c.left
  right : List.Forall₂ BarItem.SameShape b.right c.right

def LinkGroup.SameShape (g h : LinkGroup) : Prop :=
  List.Forall₂ (fun l m ↦ l.external = m.external) g.links h.links

/-- The two pages differ in their texts alone. A description of the header that is empty is not
shown, so it counts as one that is not there. -/
@[mk_iff] structure HomePage.SameShape (p q : HomePage) : Prop where
  favicon : p.favicon.isSome = q.favicon.isSome
  bar : p.bar.SameShape q.bar
  description : p.header.description = "" ↔ q.header.description = ""
  features : p.features.length = q.features.length
  install : p.install.isSome = q.install.isSome
  callToAction : p.callToAction.isSome = q.callToAction.isSome
  style : p.footer.style = q.footer.style
  groups : List.Forall₂ LinkGroup.SameShape p.footer.groups q.footer.groups
  copyright : p.footer.copyright.isSome = q.footer.copyright.isSome

instance : DecidableRel BarItem.SameShape := fun i j ↦
  decidable_of_iff' _ (BarItem.sameShape_iff i j)

instance : DecidableRel Bar.SameShape := fun b c ↦ decidable_of_iff' _ (Bar.sameShape_iff b c)

instance : DecidableRel LinkGroup.SameShape := fun g h ↦
  inferInstanceAs (Decidable (List.Forall₂ _ g.links h.links))

instance : DecidableRel HomePage.SameShape := fun p q ↦
  decidable_of_iff' _ (HomePage.sameShape_iff p q)

theorem BarItemKind.text_inj {k l : BarItemKind} (h : k.text = l.text) : k = l := by
  cases k <;> cases l <;> first | rfl | exact absurd h (by decide)

namespace Page

open Liquid

variable {embed inner : Embedding} {sc sc' : Scope}

/-! ## The bar -/

theorem parallel_outside : Parallel embed sc sc' outside [] [] := .markup _ .nil

section

variable {i j : BarItem}

theorem parallel_versionDropdown (hi : sc.find? {} "item" = some (.ofPrinted i.toValue))
    (hj : sc'.find? {} "item" = some (.ofPrinted j.toValue)) (h : i.SameShape j) :
    Parallel embed sc sc' versionDropdown (i.href :: i.versions.flatMap (·.unescaped))
      (j.href :: j.versions.flatMap (·.unescaped)) := by
  rw [← List.append_nil (i.versions.flatMap _), ← List.append_nil (j.versions.flatMap _)]
  refine .markup _ <| .plain (value_reference hi rfl rfl) (value_reference hj rfl rfl) <|
    .markup _ <| .escaped (value_reference hi rfl rfl) (value_reference hj rfl rfl) <|
    .markup _ <| .forEach h.versions (value_reference hi rfl rfl) (value_reference hj rfl rfl)
      (fun l m hlm facts facts' ↦ ?_) (.markup _ .nil)
  -- an entry of the menu, which is marked on both sides or on neither
  exact .markup _ <| .givenFlag hlm (value_reference rfl rfl rfl) (value_reference rfl rfl rfl)
      (.markup _ .nil) <|
    .markup _ <| .plain (value_reference rfl rfl rfl) (value_reference rfl rfl rfl) <|
    .markup _ <| .escaped (value_reference rfl rfl rfl) (value_reference rfl rfl rfl) <|
    .markup _ .nil

theorem parallel_searchBox (hi : sc.find? {} "item" = some (.ofPrinted i.toValue))
    (hj : sc'.find? {} "item" = some (.ofPrinted j.toValue)) :
    Parallel embed sc sc' searchBox [i.label, i.label] [j.label, j.label] :=
  .markup _ <| .plain (value_reference hi rfl rfl) (value_reference hj rfl rfl) <|
  .markup _ <| .plain (value_reference hi rfl rfl) (value_reference hj rfl rfl) <|
  .markup _ .nil

theorem parallel_barLink (hi : sc.find? {} "item" = some (.ofPrinted i.toValue))
    (hj : sc'.find? {} "item" = some (.ofPrinted j.toValue)) (h : i.SameShape j) :
    Parallel embed sc sc' barLink (i.className.toList.flatMap (fun s ↦ [s]) ++ [i.href])
      (j.className.toList.flatMap (fun s ↦ [s]) ++ [j.href]) := by
  refine .markup _ <| .givenOption (fun _ ↦ rfl) h.className (value_reference hi rfl rfl)
    (value_reference hj rfl rfl) ?className <|
    .markup _ <| .plain (value_reference hi rfl rfl) (value_reference hj rfl rfl) <|
    .markup _ <| .givenFlag h.external (value_reference hi rfl rfl) (value_reference hj rfl rfl)
      parallel_outside <|
    .givenEscaped (fun _ ↦ rfl) h.ariaLabel (value_reference hi rfl rfl)
      (value_reference hj rfl rfl) ?ariaLabel <|
    .markup _ <| .escaped (value_reference hi rfl rfl) (value_reference hj rfl rfl) <|
    .markup _ .nil
  case className =>
    exact fun s s' hs hs' ↦ .markup _ <| .plain hs hs' .nil
  case ariaLabel =>
    exact fun s s' hs hs' ↦ .markup _ <| .escaped hs hs' <| .markup _ .nil

theorem parallel_barItem (hi : sc.find? {} "item" = some (.ofPrinted i.toValue))
    (hj : sc'.find? {} "item" = some (.ofPrinted j.toValue)) (h : i.SameShape j) :
    Parallel embed sc sc' barItemTemplate i.unescaped j.unescaped := by
  have hkind : (field "item" "kind").value (sc.find? {}) = .ok (.text i.kind.text) :=
    value_reference hi rfl rfl
  have hkind' : (field "item" "kind").value (sc'.find? {}) = .ok (.text i.kind.text) :=
    h.kind ▸ value_reference hj rfl rfl
  -- the kind is the one text that the template asks for, and no free text stands in its place
  refine .ifText hkind hkind' (fun hdropdown ↦ ?_) fun hother ↦
    .ifText hkind hkind' (fun hsearch ↦ ?_) fun hlink ↦ ?_
  · have hk : i.kind = .versionDropdown := BarItemKind.text_inj hdropdown
    simpa [BarItem.unescaped, ← h.kind, hk] using parallel_versionDropdown hi hj h
  · have hk : i.kind = .search := BarItemKind.text_inj hsearch
    simpa [BarItem.unescaped, ← h.kind, hk] using parallel_searchBox hi hj
  · have hk : i.kind = .link := by
      cases hk : i.kind with
      | link => rfl
      | versionDropdown => exact absurd (congrArg BarItemKind.text hk) hother
      | search => exact absurd (congrArg BarItemKind.text hk) hlink
    simpa [BarItem.unescaped, ← h.kind, hk] using parallel_barLink hi hj h

/-- One side of the bar. -/
theorem parallel_barSide {is js : List BarItem} {e : Expr} {rest : List Node}
    {raw raw' : List String}
    (hitem : embed "navbar_item.html" = .ok fun sc st ↦ renderAll inner barItemTemplate sc st)
    (hp : e.value (sc.find? {}) = .ok (.ofPrinted (.list (is.map (·.toValue)))))
    (hq : e.value (sc'.find? {}) = .ok (.ofPrinted (.list (js.map (·.toValue)))))
    (h : List.Forall₂ BarItem.SameShape is js) (hrest : Parallel embed sc sc' rest raw raw') :
    Parallel embed sc sc' (forEach "item" e [markup "\n      ", part "navbar_item.html"] :: rest)
      (is.flatMap (·.unescaped) ++ raw) (js.flatMap (·.unescaped) ++ raw') := by
  refine .forEach h hp hq (fun i j hij facts facts' ↦ ?_) hrest
  rw [← List.append_nil i.unescaped, ← List.append_nil j.unescaped]
  exact .markup _ <| .part hitem (parallel_barItem rfl rfl hij) .nil

end

theorem parallel_bar {b c : Bar}
    (hitem : embed "navbar_item.html" = .ok fun sc st ↦ renderAll inner barItemTemplate sc st)
    (hp : sc.find? {} "navbar" = some (.ofPrinted b.toValue))
    (hq : sc'.find? {} "navbar" = some (.ofPrinted c.toValue)) (h : b.SameShape c) :
    Parallel embed sc sc' barTemplate b.unescaped c.unescaped := by
  have hall : Parallel embed sc sc' barTemplate
      (b.homeHref :: (b.logo.toList.flatMap ([·.src]) ++ (b.left.flatMap (·.unescaped)
        ++ (b.right.flatMap (·.unescaped) ++ []))))
      (c.homeHref :: (c.logo.toList.flatMap ([·.src]) ++ (c.left.flatMap (·.unescaped)
        ++ (c.right.flatMap (·.unescaped) ++ [])))) := by
    refine .markup _ <| .plain (value_reference hp rfl rfl) (value_reference hq rfl rfl) <|
      .markup _ <| .givenOption (fun _ ↦ rfl) h.logo (value_reference hp rfl rfl)
        (value_reference hq rfl rfl) ?logo <|
      .givenEscaped (fun _ ↦ rfl) h.title (value_reference hp rfl rfl)
        (value_reference hq rfl rfl) ?title <|
      .markup _ <|
      parallel_barSide hitem (value_reference hp rfl rfl) (value_reference hq rfl rfl) h.left <|
      .markup _ <|
      parallel_barSide hitem (value_reference hp rfl rfl) (value_reference hq rfl rfl) h.right <|
      .markup _ .nil
    case logo =>
      exact fun l m hl hm ↦ .markup _ <| .plain (value_member hl rfl) (value_member hm rfl) <|
        .markup _ <| .escaped (value_member hl rfl) (value_member hm rfl) <| .markup _ .nil
    case title =>
      exact fun s s' hs hs' ↦ .markup _ <| .escaped hs hs' <| .markup _ .nil
  simpa [Bar.unescaped] using hall

/-! ## Sections -/

theorem count_chars_number {c : Char} (hc : c ∈ Text.signs) (n : Nat) :
    (Liquid.Value.int n).chars.count c = 0 := by
  refine List.count_eq_zero.mpr fun hmem ↦ ?_
  have hdigit : ∀ c ∈ Text.signs, c.isDigit ≠ true := Text.forall_mem_signs.mpr (by decide)
  exact hdigit c hc (Value.isDigit_of_mem_chars_size hmem)

theorem parallel_features {fs gs : List FeatureBlock}
    (hp : sc.find? {} "features" = some (.ofPrinted (.list (fs.map (·.toValue)))))
    (hq : sc'.find? {} "features" = some (.ofPrinted (.list (gs.map (·.toValue)))))
    (h : fs.length = gs.length) :
    Parallel embed sc sc' featuresTemplate (fs.flatMap (·.unescaped))
      (gs.flatMap (·.unescaped)) := by
  rw [← List.append_nil (fs.flatMap _), ← List.append_nil (gs.flatMap _)]
  have hboth : List.Forall₂ (fun _ _ ↦ True) fs gs :=
    List.forall₂_iff_get.mpr ⟨h, fun _ _ _ ↦ trivial⟩
  refine .markup _ <| .forEach hboth (value_reference hp rfl rfl) (value_reference hq rfl rfl)
    (fun f g _ facts facts' ↦ ?_) (.markup _ .nil)
  -- the place in the grid may differ, but its numbers are digits alone
  exact .markup _ <| .plainSignless (value_reference rfl rfl rfl) (value_reference rfl rfl rfl)
      (fun _ hc ↦ count_chars_number hc f.row) (fun _ hc ↦ count_chars_number hc g.row) <|
    .markup _ <| .plainSignless (value_reference rfl rfl rfl) (value_reference rfl rfl rfl)
      (fun _ hc ↦ count_chars_number hc f.column) (fun _ hc ↦ count_chars_number hc g.column) <|
    .markup _ <| .plain (value_reference rfl rfl rfl) (value_reference rfl rfl rfl) <|
    .markup _ <| .escaped (value_reference rfl rfl rfl) (value_reference rfl rfl rfl) <|
    .markup _ <| .escaped (value_reference rfl rfl rfl) (value_reference rfl rfl rfl) <|
    .markup _ .nil

theorem parallel_install {b c : InstallBlock}
    (hp : sc.find? {} "install" = some (.ofPrinted b.toValue))
    (hq : sc'.find? {} "install" = some (.ofPrinted c.toValue)) :
    Parallel embed sc sc' installTemplate [] [] :=
  .markup _ <| .escaped (value_reference hp rfl rfl) (value_reference hq rfl rfl) <|
  .markup _ <| .escaped (value_reference hp rfl rfl) (value_reference hq rfl rfl) <|
  .markup _ <| .escaped (value_reference hp rfl rfl) (value_reference hq rfl rfl) <|
  .markup _ .nil

/-- The footer down to its links. -/
def footerTop : List Node := footerTemplate.take 5

theorem parallel_footerTop {f g : PageFooter}
    (hp : sc.find? {} "footer" = some (.ofPrinted f.toValue))
    (hq : sc'.find? {} "footer" = some (.ofPrinted g.toValue))
    (hgroups : List.Forall₂ LinkGroup.SameShape f.groups g.groups) :
    Parallel embed sc sc' footerTop (f.groups.flatMap (·.unescaped))
      (g.groups.flatMap (·.unescaped)) := by
  rw [← List.append_nil (f.groups.flatMap _), ← List.append_nil (g.groups.flatMap _)]
  have hsignless (style : FooterStyle) :
      ∀ c ∈ Text.signs, (Value.ofPrinted style.toValue).chars.count c = 0 := by
    rw [Text.forall_mem_signs]
    cases style <;> decide
  refine .markup _ <| .plainSignless (value_reference hp rfl rfl) (value_reference hq rfl rfl)
      (hsignless f.style) (hsignless g.style) <|
    .markup _ <| .forEach hgroups (value_reference hp rfl rfl) (value_reference hq rfl rfl)
      (fun a b hab facts facts' ↦ ?group) <|
    .markup _ .nil
  case group =>
    rw [← List.append_nil a.unescaped, ← List.append_nil b.unescaped]
    refine .markup _ <| .escaped (value_reference rfl rfl rfl) (value_reference rfl rfl rfl) <|
      .markup _ <| .forEach hab (value_reference rfl rfl rfl) (value_reference rfl rfl rfl)
        (fun l m hlm facts facts' ↦ ?_) (.markup _ .nil)
    exact .markup _ <| .plain (value_reference rfl rfl rfl) (value_reference rfl rfl rfl) <|
      .markup _ <| .givenFlag hlm (value_reference rfl rfl rfl) (value_reference rfl rfl rfl)
        parallel_outside <|
      .markup _ <| .escaped (value_reference rfl rfl rfl) (value_reference rfl rfl rfl) <|
      .markup _ .nil

theorem parallel_footer {f g : PageFooter}
    (hp : sc.find? {} "footer" = some (.ofPrinted f.toValue))
    (hq : sc'.find? {} "footer" = some (.ofPrinted g.toValue))
    (hgroups : List.Forall₂ LinkGroup.SameShape f.groups g.groups)
    (hcopyright : f.copyright.isSome = g.copyright.isSome) :
    Parallel embed sc sc' footerTemplate (f.groups.flatMap (·.unescaped))
      (g.groups.flatMap (·.unescaped)) := by
  rw [← List.append_nil (f.groups.flatMap _), ← List.append_nil (g.groups.flatMap _)]
  refine (parallel_footerTop hp hq hgroups).append <|
    .givenEscaped (fun _ ↦ rfl) hcopyright (value_reference hp rfl rfl)
      (value_reference hq rfl rfl) ?_ (.markup _ .nil)
  exact fun s s' hs hs' ↦ .markup _ <| .escaped hs hs' <| .markup _ .nil

/-! ## The page -/

section

variable {p q : HomePage}

theorem parallel_header {h h' : PageHeader}
    (hp : sc.find? {} "header" = some (.ofPrinted h.toValue))
    (hq : sc'.find? {} "header" = some (.ofPrinted h'.toValue))
    (hdescription : h.description = "" ↔ h'.description = "") :
    Parallel embed sc sc' headerTemplate h.unescaped h'.unescaped := by
  refine .markup _ <| .escaped (value_reference hp rfl rfl) (value_reference hq rfl rfl) <|
    .markup _ <| .escaped (value_reference hp rfl rfl) (value_reference hq rfl rfl) <|
    .markup _ <| .ifNotEmpty hdescription (value_reference hp rfl rfl)
      (value_reference hq rfl rfl) ?description <|
    .markup _ <| .plain (value_reference hp rfl rfl) (value_reference hq rfl rfl) <|
    .markup _ <| .escaped (value_reference hp rfl rfl) (value_reference hq rfl rfl) <|
    .markup _ <| .plain (value_reference hp rfl rfl) (value_reference hq rfl rfl) <|
    .markup _ <| .escaped (value_reference hp rfl rfl) (value_reference hq rfl rfl) <|
    .markup _ .nil
  exact .markup _ <| .escaped (value_reference hp rfl rfl) (value_reference hq rfl rfl) <|
    .markup _ .nil

theorem parallel_callToAction {a b : CallToActionBlock}
    (hp : sc.find? {} "call_to_action" = some (.ofPrinted a.toValue))
    (hq : sc'.find? {} "call_to_action" = some (.ofPrinted b.toValue)) :
    Parallel embed sc sc' callToActionTemplate a.unescaped b.unescaped :=
  .markup _ <| .escaped (value_reference hp rfl rfl) (value_reference hq rfl rfl) <|
  .markup _ <| .escaped (value_reference hp rfl rfl) (value_reference hq rfl rfl) <|
  .markup _ <| .plain (value_reference hp rfl rfl) (value_reference hq rfl rfl) <|
  .markup _ <| .escaped (value_reference hp rfl rfl) (value_reference hq rfl rfl) <|
  .markup _ .nil

/-- What the templates of a page see. -/
def scopeOf (now : Calendar.Moment) (p : HomePage) : Scope := { data := data p, now }

variable {now : Calendar.Moment}

theorem parallel_head (h : p.favicon.isSome = q.favicon.isSome) :
    Parallel embed (scopeOf now p) (scopeOf now q) headTemplate
      (p.lang :: (p.favicon.toList.flatMap (fun s ↦ [s]) ++ []))
      (q.lang :: (q.favicon.toList.flatMap (fun s ↦ [s]) ++ [])) := by
  refine .markup _ <| .plain rfl rfl <| .markup _ <| .escaped rfl rfl <| .markup _ <|
    .escaped rfl rfl <| .markup _ <| .givenOption (fun _ ↦ rfl) h rfl rfl ?_ <| .markup _ .nil
  exact fun s s' hs hs' ↦ .markup _ <| .plain hs hs' <| .markup _ .nil

/-- The page down to the section with the install commands. -/
def aboveInstall : List Node :=
  headTemplate ++ [part "navbar.html"] ++ headerTemplate ++ [part "features.html"]

theorem parallel_aboveInstall {inner innermost : Embedding}
    (hbar : embed "navbar.html" = .ok fun sc st ↦ renderAll inner barTemplate sc st)
    (hitem : inner "navbar_item.html" =
      .ok fun sc st ↦ renderAll innermost barItemTemplate sc st)
    (hfeatures : embed "features.html" = .ok fun sc st ↦ renderAll inner featuresTemplate sc st)
    (h : p.SameShape q) :
    ∃ raw raw', Parallel embed (scopeOf now p) (scopeOf now q) aboveInstall raw raw' ∧
      raw ++ p.callToAction.toList.flatMap (·.unescaped) ++
        p.footer.groups.flatMap (·.unescaped) = p.unescaped ∧
      raw' ++ q.callToAction.toList.flatMap (·.unescaped) ++
        q.footer.groups.flatMap (·.unescaped) = q.unescaped := by
  -- the four stretches that the template is put together from, in its order
  have hhead : Parallel embed (scopeOf now p) (scopeOf now q) headTemplate _ _ :=
    parallel_head h.favicon
  have hnavbar : Parallel embed (scopeOf now p) (scopeOf now q) [part "navbar.html"] _ _ :=
    .part hbar (parallel_bar hitem rfl rfl h.bar) .nil
  have hheader : Parallel embed (scopeOf now p) (scopeOf now q) headerTemplate _ _ :=
    parallel_header rfl rfl h.description
  have hmain : Parallel embed (scopeOf now p) (scopeOf now q) [part "features.html"] _ _ :=
    .part hfeatures (parallel_features rfl rfl h.features) .nil
  have hall : Parallel embed (scopeOf now p) (scopeOf now q) aboveInstall _ _ :=
    ((hhead.append hnavbar).append hheader).append hmain
  exact ⟨_, _, hall, by simp [HomePage.unescaped], by simp [HomePage.unescaped]⟩

/-- The page down to its footer. -/
def homeTop : List Node :=
  headTemplate ++ [part "navbar.html"] ++ headerTemplate
    ++ [part "features.html",
      given (value "install") [markup "\n", part "install.html"],
      given (value "call_to_action") callToActionTemplate, markup "\n</main>\n"]

/-- The page down to its footer, where templates that it embeds are rendered by `inner`, and those
that these embed by `innermost`. -/
theorem parallel_homeTop {inner innermost : Embedding}
    (hbar : embed "navbar.html" = .ok fun sc st ↦ renderAll inner barTemplate sc st)
    (hitem : inner "navbar_item.html" =
      .ok fun sc st ↦ renderAll innermost barItemTemplate sc st)
    (hfeatures : embed "features.html" = .ok fun sc st ↦ renderAll inner featuresTemplate sc st)
    (hinstall : embed "install.html" = .ok fun sc st ↦ renderAll inner installTemplate sc st)
    (h : p.SameShape q) :
    ∃ raw raw', Parallel embed (scopeOf now p) (scopeOf now q) homeTop raw raw' ∧
      raw ++ p.footer.groups.flatMap (·.unescaped) = p.unescaped ∧
      raw' ++ q.footer.groups.flatMap (·.unescaped) = q.unescaped := by
  obtain ⟨raw, raw', habove, hraw, hraw'⟩ :
      ∃ raw raw', Parallel embed (scopeOf now p) (scopeOf now q) aboveInstall raw raw' ∧ _ ∧ _ :=
    parallel_aboveInstall hbar hitem hfeatures h
  have hsections : Parallel embed (scopeOf now p) (scopeOf now q)
      [given (value "install") [markup "\n", part "install.html"],
        given (value "call_to_action") callToActionTemplate, markup "\n</main>\n"]
      (p.callToAction.toList.flatMap (·.unescaped) ++ [])
      (q.callToAction.toList.flatMap (·.unescaped) ++ []) := by
    refine .givenEscaped (fun _ ↦ rfl) h.install rfl rfl ?install <|
      .givenOption (fun _ ↦ rfl) h.callToAction rfl rfl ?callToAction <| .markup _ .nil
    case install =>
      intro b c hb hc
      exact .markup _ <| .part hinstall (parallel_install (value_value_eq_ok_iff.mp hb)
        (value_value_eq_ok_iff.mp hc)) .nil
    case callToAction =>
      exact fun a b ha hb ↦ parallel_callToAction (value_value_eq_ok_iff.mp ha)
        (value_value_eq_ok_iff.mp hb)
  rw [List.append_nil, List.append_nil] at hsections
  exact ⟨_, _, habove.append hsections, hraw, hraw'⟩

/-- The page, where templates that it embeds are rendered by `inner`, and those that these embed by
`innermost`. -/
theorem parallel_home {inner innermost : Embedding}
    (hbar : embed "navbar.html" = .ok fun sc st ↦ renderAll inner barTemplate sc st)
    (hitem : inner "navbar_item.html" =
      .ok fun sc st ↦ renderAll innermost barItemTemplate sc st)
    (hfeatures : embed "features.html" = .ok fun sc st ↦ renderAll inner featuresTemplate sc st)
    (hinstall : embed "install.html" = .ok fun sc st ↦ renderAll inner installTemplate sc st)
    (hfooter : embed "footer.html" = .ok fun sc st ↦ renderAll inner footerTemplate sc st)
    (h : p.SameShape q) :
    Parallel embed (scopeOf now p) (scopeOf now q) homeTemplate p.unescaped q.unescaped := by
  obtain ⟨raw, raw', htop, hraw, hraw'⟩ :
      ∃ raw raw', Parallel embed (scopeOf now p) (scopeOf now q) homeTop raw raw' ∧ _ ∧ _ :=
    parallel_homeTop hbar hitem hfeatures hinstall h
  have hbottom : Parallel embed (scopeOf now p) (scopeOf now q)
      [part "footer.html", markup "\n</body>\n</html>\n"]
      (p.footer.groups.flatMap (·.unescaped) ++ []) (q.footer.groups.flatMap (·.unescaped) ++ []) :=
    .part hfooter (parallel_footer rfl rfl h.groups h.copyright) (.markup _ .nil)
  rw [List.append_nil, List.append_nil] at hbottom
  rw [← hraw, ← hraw']
  exact htop.append hbottom

/-- How the templates that come with the program embed each other. -/
def bundledAt (now : Calendar.Moment) (depth : Nat) : Embedding := fun name ↦
  ((bundled.atMoment now).find name).map fun t ↦ (bundled.atMoment now).renderAt depth t

theorem bundledAt_of_find {depth : Nat} {name : String} {t : Template}
    (h : (bundled.atMoment now).find name = .ok t) :
    bundledAt now (depth + 1) name =
      .ok fun sc st ↦ renderAll (bundledAt now depth) t sc st := by
  rw [bundledAt, h]
  rfl

theorem render_eq (p : HomePage) : render (bundled.atMoment now) p =
    (renderAll (bundledAt now 9999) homeTemplate (scopeOf now p) {}).map
      fun r ↦ String.ofList r.1 := by
  rw [render, Library.render, Library.maxDepth, Library.renderAt]
  rfl

/-- Two pages of the same shape are both rendered, and their markup differs in signs by what stands
in it unescaped. -/
theorem exists_render_of_sameShape (h : p.SameShape q) (now : Calendar.Moment) :
    ∃ html html', render (bundled.atMoment now) p = .ok html ∧
      render (bundled.atMoment now) q = .ok html' ∧
      Balanced html.toList html'.toList p.unescaped q.unescaped := by
  have hhome : Parallel (bundledAt now 9999) (scopeOf now p) (scopeOf now q) homeTemplate
      p.unescaped q.unescaped :=
    parallel_home (bundledAt_of_find rfl) (bundledAt_of_find rfl) (bundledAt_of_find rfl)
      (bundledAt_of_find rfl) (bundledAt_of_find rfl) h
  obtain ⟨out, out', hout, hout', hb⟩ := hhome
  refine ⟨String.ofList out, String.ofList out', ?_, ?_, ?_⟩
  · rw [render_eq, hout]
    rfl
  · rw [render_eq, hout']
    rfl
  · rwa [String.toList_ofList, String.toList_ofList]

/-- **The markup of two pages of the same shape** differs in signs by what stands in it unescaped,
and by nothing else: whatever the other texts are, the two hold a sign equally often exactly if the
unescaped texts of the two do. -/
theorem markup_differs_by_unescaped (h : p.SameShape q) (now : Calendar.Moment) :
    ∃ html html', render (bundled.atMoment now) p = .ok html ∧
      render (bundled.atMoment now) q = .ok html' ∧
      ∀ c ∈ Text.signs,
        html.toList.count c + occurrences c q.unescaped =
            html'.toList.count c + occurrences c p.unescaped ∧
          (html.toList.count c = html'.toList.count c ↔
            occurrences c p.unescaped = occurrences c q.unescaped) := by
  obtain ⟨html, html', hp, hq, hb⟩ := exists_render_of_sameShape h now
  refine ⟨html, html', hp, hq, fun c hc ↦ ⟨hb c hc, ?_⟩⟩
  have hsum := hb c hc
  omega

end

end Page

/-! ## Two sites with one link -/

/-- A configuration of the given title with one link in the bar, which is of the given class. -/
def Config.linking (title className : String) : Config :=
  { minimal with
    title := some title
    navbar := some ⟨none, none,
      [.link ⟨some "Help", some "help", none, .left, none, some className⟩]⟩
    snippets := ⟨"install", "apply"⟩ }

/-- The home page that the canonical version of a configuration gets. -/
def Config.homePage? (c : Config) (year : Int) : Option HomePage :=
  (c.resolve none).toOption.bind fun s ↦
    (InstallSnippets.ofTemplates s.snippets).toOption.bind fun snippets ↦
      (s.homePage s.versions.canonical year snippets .empty).toOption

namespace Page

/-- A title is escaped, so that a title full of signs leaves the number of signs as it is. -/
theorem markup_of_marked_title :
    ∃ p q html html', (Config.linking "Example" "help").homePage? 2026 = some p ∧
      (Config.linking "<a href=\"/\">" "help").homePage? 2026 = some q ∧ p.SameShape q ∧
      render (bundled.atMoment (.startOfYear 2026)) p = .ok html ∧
      render (bundled.atMoment (.startOfYear 2026)) q = .ok html' ∧
      ∀ c ∈ Text.signs, html.toList.count c = html'.toList.count c := by
  have hrun : (((Config.linking "Example" "help").homePage? 2026).any fun p ↦
      ((Config.linking "<a href=\"/\">" "help").homePage? 2026).any fun q ↦
        decide (p.SameShape q) &&
          Text.signs.all fun c ↦ occurrences c p.unescaped == occurrences c q.unescaped) =
      true := by
    decide +kernel
  simp only [Option.any_eq_true, Bool.and_eq_true, decide_eq_true_iff, List.all_eq_true,
    beq_iff_eq] at hrun
  obtain ⟨p, hp, q, hq, hshape, hcount⟩ := hrun
  obtain ⟨html, html', hhtml, hhtml', hsigns⟩ :=
    markup_differs_by_unescaped hshape (.startOfYear 2026)
  exact ⟨p, q, html, html', hp, hq, hshape, hhtml, hhtml',
    fun c hc ↦ (hsigns c hc).2.mpr (hcount c hc)⟩

/-- A class is not escaped, so that a quotation mark in a class is one more in the markup. -/
theorem markup_of_quoted_class :
    ∃ p q html html', (Config.linking "Example" "help").homePage? 2026 = some p ∧
      (Config.linking "Example" "help\"").homePage? 2026 = some q ∧ p.SameShape q ∧
      render (bundled.atMoment (.startOfYear 2026)) p = .ok html ∧
      render (bundled.atMoment (.startOfYear 2026)) q = .ok html' ∧
      html.toList.count '"' < html'.toList.count '"' := by
  have hrun : (((Config.linking "Example" "help").homePage? 2026).any fun p ↦
      ((Config.linking "Example" "help\"").homePage? 2026).any fun q ↦
        decide (p.SameShape q) &&
          decide (occurrences '"' p.unescaped < occurrences '"' q.unescaped)) = true := by
    decide +kernel
  simp only [Option.any_eq_true, Bool.and_eq_true, decide_eq_true_iff] at hrun
  obtain ⟨p, hp, q, hq, hshape, hless⟩ := hrun
  obtain ⟨html, html', hhtml, hhtml', hbalanced⟩ :=
    exists_render_of_sameShape hshape (.startOfYear 2026)
  refine ⟨p, q, html, html', hp, hq, hshape, hhtml, hhtml', ?_⟩
  have hsum := hbalanced '"' (by decide)
  omega

end Page

end VersionedSite
