import VersionedSite.Page.Rendering
import VersionedSite.Page.Sources
import VersionedSite.Proofs.Steps
import VersionedSite.Proofs.Text.NameMap

/-!
# Reading the sources of the page

The templates of the home page are written down as nodes, and these are what their sources are read
as, node by node. So the library that comes with the program is the one that its sources make, also
where a site puts sources of its own in the place of some.
-/

namespace VersionedSite

namespace Liquid

/-! ## Comparing templates

Fractions have no equality that can be computed, so neither have templates. The comparison is one of
the nodes that the page is made of, where no fraction stands; all others pass for different. -/

/-- The same text, or the same whole number. -/
def Value.alike : Value → Value → Bool
  | .text s, .text t => s == t
  | .int i, .int j => i == j
  | _, _ => false

theorem Value.eq_of_alike {v w : Value} (h : v.alike w = true) : v = w := by
  unfold Value.alike at h
  split at h
  · rw [eq_of_beq h]
  · rw [eq_of_beq h]
  · cases h

mutual

def Expr.alike : Expr → Expr → Bool
  | .literal v, .literal w => v.alike w
  | .reference name path, .reference name' path' => name == name' && pathsAlike path path'
  | _, _ => false

def pathsAlike : List Expr → List Expr → Bool
  | [], [] => true
  | e :: es, e' :: es' => e.alike e' && pathsAlike es es'
  | _, _ => false

end

mutual

theorem Expr.eq_of_alike {e e' : Expr} (h : e.alike e' = true) : e = e' := by
  unfold Expr.alike at h
  split at h
  · rw [Value.eq_of_alike h]
  · rw [Bool.and_eq_true] at h
    rw [eq_of_beq h.1, eq_of_pathsAlike h.2]
  · cases h

theorem eq_of_pathsAlike {es es' : List Expr} (h : pathsAlike es es' = true) : es = es' := by
  unfold pathsAlike at h
  split at h
  · rfl
  · rw [Bool.and_eq_true] at h
    rw [Expr.eq_of_alike h.1, eq_of_pathsAlike h.2]
  · cases h

end

def Condition.alike : Condition → Condition → Bool
  | .holds e, .holds e' => e.alike e'
  | .compare c l r, .compare c' l' r' => c == c' && l.alike l' && r.alike r'
  | _, _ => false

theorem Condition.eq_of_alike {c c' : Condition} (h : c.alike c' = true) : c = c' := by
  unfold Condition.alike at h
  split at h
  · rw [Expr.eq_of_alike h]
  · rw [Bool.and_eq_true, Bool.and_eq_true] at h
    rw [eq_of_beq h.1.1, Expr.eq_of_alike h.1.2, Expr.eq_of_alike h.2]
  · cases h

mutual

/-- The same markup, output, condition, loop or part. -/
def Node.alike : Node → Node → Bool
  | .text s, .text t => s == t
  | .output ⟨e, []⟩, .output ⟨e', []⟩ => e.alike e'
  | .output ⟨e, [⟨g, []⟩]⟩, .output ⟨e', [⟨g', []⟩]⟩ => e.alike e' && g == g'
  | .branch c true yes no, .branch c' true yes' no' =>
    c.alike c' && allAlike yes yes' && allAlike no no'
  | .loop ⟨x, .items e, none, none⟩ false body [],
      .loop ⟨x', .items e', none, none⟩ false body' [] =>
    x == x' && e.alike e' && allAlike body body'
  | .include e [], .include e' [] => e.alike e'
  | _, _ => false

def allAlike : List Node → List Node → Bool
  | [], [] => true
  | n :: ns, n' :: ns' => n.alike n' && allAlike ns ns'
  | _, _ => false

end

mutual

theorem Node.eq_of_alike {n n' : Node} (h : n.alike n' = true) : n = n' := by
  unfold Node.alike at h
  split at h
  · rw [eq_of_beq h]
  · rw [Expr.eq_of_alike h]
  · rw [Bool.and_eq_true] at h
    rw [Expr.eq_of_alike h.1, eq_of_beq h.2]
  · rw [Bool.and_eq_true, Bool.and_eq_true] at h
    rw [Condition.eq_of_alike h.1.1, eq_of_allAlike h.1.2, eq_of_allAlike h.2]
  · rw [Bool.and_eq_true, Bool.and_eq_true] at h
    rw [eq_of_beq h.1.1, Expr.eq_of_alike h.1.2, eq_of_allAlike h.2]
  · rw [Expr.eq_of_alike h]
  · cases h

theorem eq_of_allAlike {ns ns' : List Node} (h : allAlike ns ns' = true) : ns = ns' := by
  unfold allAlike at h
  split at h
  · rfl
  · rw [Bool.and_eq_true] at h
    rw [Node.eq_of_alike h.1, eq_of_allAlike h.2]
  · cases h

end

theorem ofString_join_eq_ok {d : Dialect} {pieces : List String} {t : Template}
    (h : (Template.ofChars d (pieces.flatMap String.toList)).toOption.any (allAlike · t) = true) :
    Template.ofString d (String.join pieces) = .ok t := by
  obtain ⟨t', hread, halike⟩ := Steps.any_toOption_iff.mp h
  rw [Template.ofString, String.toList_join, hread, eq_of_allAlike halike]

end Liquid

namespace Page

open Liquid

/-! ## The templates of the page

A literal is made of its characters by definition, but taking it apart again goes through its bytes
and is slow. So the characters of all literals are written out before a source is read. -/

theorem ofString_barSource : Template.ofString .standard barSource = .ok barTemplate := by
  refine ofString_join_eq_ok ?_
  simp only [barTemplate, markup, List.flatMap_cons, String.toList_append]
  repeat rw [String.toList_ofList]
  decide +kernel

theorem ofString_barItemSource :
    Template.ofString .standard barItemSource = .ok barItemTemplate := by
  refine ofString_join_eq_ok ?_
  simp only [barItemTemplate, versionDropdown, searchBox, barLink, outside, markup,
    List.flatMap_cons]
  repeat rw [String.toList_ofList]
  decide +kernel

theorem ofString_featuresSource :
    Template.ofString .standard featuresSource = .ok featuresTemplate := by
  refine ofString_join_eq_ok ?_
  simp only [featuresTemplate, markup, List.flatMap_cons, String.toList_append]
  repeat rw [String.toList_ofList]
  decide +kernel

theorem ofString_installSource :
    Template.ofString .standard installSource = .ok installTemplate := by
  refine ofString_join_eq_ok ?_
  simp only [installTemplate, markup, List.flatMap_cons, String.toList_append]
  repeat rw [String.toList_ofList]
  decide +kernel

theorem ofString_footerSource : Template.ofString .standard footerSource = .ok footerTemplate := by
  refine ofString_join_eq_ok ?_
  simp only [footerTemplate, outside, markup, List.flatMap_cons]
  repeat rw [String.toList_ofList]
  decide +kernel

/-- **The page** is read from its source. -/
theorem ofString_homeSource : Template.ofString .standard homeSource = .ok homeTemplate := by
  refine ofString_join_eq_ok ?_
  simp only [homeTemplate, headTemplate, headerTemplate, callToActionTemplate, markup,
    List.flatMap_cons, String.toList_append]
  repeat rw [String.toList_ofList]
  decide +kernel

theorem map_ofString_sources :
    sources.map (fun (name, s) ↦ (name, Template.ofString .standard s)) = bundled.templates := by
  simp only [sources, List.map_cons, List.map_nil, ofString_barSource, ofString_barItemSource,
    ofString_featuresSource, ofString_installSource, ofString_footerSource]
  rfl

/-- **The parts of the page** are read from their sources, and the sources of a site come before
them. -/
theorem find_withSources (own : List (String × String)) (name : String) :
    (Library.empty.withSources (sources ++ own)).find name =
      (bundled.withSources own).find name := by
  -- the sources of the parts are reversed on one side only, but no two have the same name
  have hnames : (bundled.templates.map (·.1)).Nodup := by decide
  have hnames' : (bundled.templates.reverse.map (·.1)).Nodup := by decide
  have hparts : bundled.templates.reverse.find? (·.1 == name) =
      bundled.templates.find? (·.1 == name) := by
    refine Option.ext fun entry ↦ ?_
    rw [find?_key_eq_some_iff Prod.fst hnames, find?_key_eq_some_iff Prod.fst hnames',
      List.mem_reverse]
  simp only [Library.find, Library.withSources, Library.empty, List.reverse_append, List.map_append,
    List.append_nil, List.find?_append, List.map_reverse, hparts, map_ofString_sources]

end Page

end VersionedSite
