import Mathlib.Data.List.Forall2
import VersionedSite.Page.Templates
import VersionedSite.Proofs.Liquid.Twin
import VersionedSite.Proofs.Text.Escape

/-!
# One template on two sets of data

What a template prints on two sets of data that lead it along the same way. `Parallel` says that
nodes print on both, and by how much the two texts differ in the characters that mean something to
markup: by what the values contribute that the template takes over as they stand. It has one rule
for each building block of the templates of the page, and every rule goes on to the nodes behind its
block, so that a proof about a template reads like the template. What the markup of a template
contributes is the same on both sides, and no rule and no proof writes it down.
-/

namespace VersionedSite

/-! ## Rendering node by node -/

namespace Liquid

section

variable {embed : Embedding} {sc : Scope} {st : State} {n : Node} {rest : List Node}
  {look : String → Option Value} {v w : Value} {indexes indexes' : List Value}

theorem renderAll_cons {out : List Char} (h : n.render embed sc st = .ok (out, st))
    (hst : st.jump = none) :
    renderAll embed (n :: rest) sc st =
      (renderAll embed rest sc st).map fun r ↦ (out ++ r.1, r.2) := by
  rw [renderAll, h]
  simp only [bind, Except.bind, hst, Option.isSome_none]
  cases renderAll embed rest sc st with
  | error f => rfl
  | ok r => rfl

theorem renderAll_append {nodes : List Node} {out : List Char} {st' : State}
    (h : renderAll embed nodes sc st = .ok (out, st')) (hst : st'.jump = none) :
    renderAll embed (nodes ++ rest) sc st =
      (renderAll embed rest sc st').map fun r ↦ (out ++ r.1, r.2) := by
  induction nodes generalizing st out with
  | nil =>
    obtain ⟨rfl, rfl⟩ := Prod.mk.inj (Except.ok.inj h)
    rw [List.nil_append]
    cases renderAll embed rest sc st with
    | error f => rfl
    | ok r => rfl
  | cons n nodes ih =>
    rw [renderAll] at h
    obtain ⟨⟨first, mid⟩, hn, h⟩ := Steps.bind_eq_ok_iff.mp h
    dsimp only at h
    -- a node that jumps would have ended the rendering in a state that jumps
    split at h
    · next hjump =>
      obtain ⟨-, rfl⟩ := Prod.mk.inj (Except.ok.inj h)
      rw [hst] at hjump
      exact absurd hjump (by decide)
    · next hjump =>
      obtain ⟨⟨more, last⟩, hmore, h⟩ := Steps.bind_eq_ok_iff.mp h
      obtain ⟨rfl, rfl⟩ := Prod.mk.inj (Except.ok.inj h)
      rw [List.cons_append, renderAll, hn]
      simp only [bind, Except.bind, hjump, ih hmore]
      cases renderAll embed rest sc last with
      | error f => rfl
      | ok r => simp [Except.map, pure, Except.pure]

/-- The value of a name that is followed by indexes. -/
theorem value_reference {root : String} {path : List Expr} (h : look root = some v)
    (hpath : pathValues look path = .ok indexes) (hw : v.follow indexes = .ok w) :
    (Expr.reference root path).value look = .ok w := by
  rw [Expr.value, hpath]
  simp only [bind, Except.bind, h, memberOf, hw]

theorem pathValues_append {path path' : List Expr} (h : pathValues look path = .ok indexes)
    (h' : pathValues look path' = .ok indexes') :
    pathValues look (path ++ path') = .ok (indexes ++ indexes') := by
  induction path generalizing indexes with
  | nil =>
    obtain rfl := Except.ok.inj h
    exact h'
  | cons e path ih =>
    rw [pathValues] at h
    obtain ⟨index, he, h⟩ := Steps.bind_eq_ok_iff.mp h
    split at h
    · next hscalar =>
      obtain ⟨rest, hrest, h⟩ := Steps.bind_eq_ok_iff.mp h
      obtain rfl := Except.ok.inj h
      rw [List.cons_append, pathValues, he, ih hrest]
      simp only [bind, Except.bind, hscalar]
      rfl
    · exact absurd h (by simp)

theorem Value.follow_append (h : v.follow indexes = .ok w) :
    v.follow (indexes ++ indexes') = w.follow indexes' := by
  induction indexes generalizing v with
  | nil =>
    obtain rfl := Except.ok.inj h
    rfl
  | cons index indexes ih =>
    rw [Value.follow] at h
    split at h
    · next u hu =>
      rw [List.cons_append, Value.follow, hu]
      exact ih h
    · exact absurd h (by simp)

theorem ofPrintedItems_eq_map (vs : List VersionedSite.Value) :
    Value.ofPrintedItems vs = vs.map Value.ofPrinted := by
  induction vs with
  | nil => rfl
  | cons v vs ih => rw [Value.ofPrintedItems, ih, List.map_cons]

end

end Liquid

namespace Page

open Liquid

/-! ## Counting -/

/-- How often a character stands in texts. -/
def occurrences (c : Char) (texts : List String) : Nat := (texts.flatMap (·.toList)).count c

@[simp] theorem occurrences_nil (c : Char) : occurrences c [] = 0 := rfl

@[simp] theorem occurrences_cons (c : Char) (s : String) (texts : List String) :
    occurrences c (s :: texts) = s.toList.count c + occurrences c texts := by
  rw [occurrences, List.flatMap_cons, List.count_append, occurrences]

@[simp] theorem occurrences_append (c : Char) (texts texts' : List String) :
    occurrences c (texts ++ texts') = occurrences c texts + occurrences c texts' := by
  rw [occurrences, List.flatMap_append, List.count_append, occurrences, occurrences]

/-- Two printed texts differ in signs by what the texts contribute that each took over. -/
def Balanced (out out' : List Char) (raw raw' : List String) : Prop :=
  ∀ c ∈ Text.signs, out.count c + occurrences c raw' = out'.count c + occurrences c raw

namespace Balanced

theorem refl (out : List Char) : Balanced out out [] [] := fun _ _ ↦ rfl

theorem raw (s s' : String) : Balanced s.toList s'.toList [s] [s'] := fun c _ ↦ by
  rw [occurrences_cons, occurrences_cons, occurrences_nil]
  omega

theorem ofSignless {out out' : List Char} (h : ∀ c ∈ Text.signs, out.count c = 0)
    (h' : ∀ c ∈ Text.signs, out'.count c = 0) : Balanced out out' [] [] := fun c hc ↦ by
  rw [h c hc, h' c hc]

theorem append {out₁ out₂ out₁' out₂' : List Char} {raw₁ raw₂ raw₁' raw₂' : List String}
    (h₁ : Balanced out₁ out₁' raw₁ raw₁') (h₂ : Balanced out₂ out₂' raw₂ raw₂') :
    Balanced (out₁ ++ out₂) (out₁' ++ out₂') (raw₁ ++ raw₂) (raw₁' ++ raw₂') := by
  intro c hc
  have h₁ := h₁ c hc
  have h₂ := h₂ c hc
  rw [List.count_append, List.count_append, occurrences_append, occurrences_append]
  omega

end Balanced

/-! ## Names and members -/

section

variable {look : String → Option Liquid.Value} {name : String} {v w : Liquid.Value}

theorem value_value_eq_ok_iff : (value name).value look = .ok v ↔ look name = some v := by
  rw [value, Expr.value]
  cases look name with
  | none => simp [pathValues, bind, Except.bind]
  | some u => simp [pathValues, bind, Except.bind, memberOf, Value.follow]

/-- A member of what a reference leads to. -/
theorem value_member {root : String} {path : List Expr}
    (h : (Expr.reference root path).value look = .ok v) (hw : v.member? (.text name) = some w) :
    (member name (.reference root path)).value look = .ok w := by
  rw [Expr.value] at h
  obtain ⟨indexes, hpath, h⟩ := Steps.bind_eq_ok_iff.mp h
  cases hroot : look root with
  | none =>
    rw [hroot] at h
    exact absurd h (by simp)
  | some u =>
    rw [hroot] at h
    have hindexes : pathValues look [.literal (.text name)] = .ok [.text name] := rfl
    refine value_reference hroot (pathValues_append hpath hindexes) ?_
    rw [Value.follow_append (memberOf_eq_ok_iff.mp h), Value.follow, hw]
    rfl

end

/-! ## The judgement -/

variable {embed inner : Embedding} {sc sc' : Scope} {nodes rest : List Node} {e : Expr}
  {raw raw' more more' : List String}

/-- Nodes print in both scopes, and `raw` and `raw'` are the texts that they take over there as they
stand. Nothing is left in the state that a later node could see. -/
def Parallel (embed : Embedding) (sc sc' : Scope) (nodes : List Node) (raw raw' : List String) :
    Prop :=
  ∃ out out', renderAll embed nodes sc {} = .ok (out, {}) ∧
    renderAll embed nodes sc' {} = .ok (out', {}) ∧ Balanced out out' raw raw'

namespace Parallel

theorem nil : Parallel embed sc sc' [] [] [] := ⟨[], [], rfl, rfl, .refl []⟩

/-- The first node and then the others. -/
theorem cons {n : Node} {out out' : List Char} (hn : n.render embed sc {} = .ok (out, {}))
    (hn' : n.render embed sc' {} = .ok (out', {})) (hout : Balanced out out' raw raw')
    (h : Parallel embed sc sc' rest more more') :
    Parallel embed sc sc' (n :: rest) (raw ++ more) (raw' ++ more') := by
  obtain ⟨outs, outs', hr, hr', hb⟩ := h
  refine ⟨out ++ outs, out' ++ outs', ?_, ?_, hout.append hb⟩
  · rw [renderAll_cons hn rfl, hr]
    rfl
  · rw [renderAll_cons hn' rfl, hr']
    rfl

/-- Nodes and then others. -/
theorem append (h : Parallel embed sc sc' nodes raw raw')
    (hrest : Parallel embed sc sc' rest more more') :
    Parallel embed sc sc' (nodes ++ rest) (raw ++ more) (raw' ++ more') := by
  obtain ⟨out, out', hr, hr', hb⟩ := h
  obtain ⟨outs, outs', hs, hs', hbs⟩ := hrest
  refine ⟨out ++ outs, out' ++ outs', ?_, ?_, hb.append hbs⟩
  · rw [renderAll_append hr rfl, hs]
    rfl
  · rw [renderAll_append hr' rfl, hs']
    rfl

/-! ### Texts and values -/

theorem markup (s : String) (h : Parallel embed sc sc' rest raw raw') :
    Parallel embed sc sc' (Page.markup s :: rest) raw raw' :=
  cons rfl rfl (.refl s.toList) h

theorem render_plain {v : Liquid.Value} (he : e.value (sc.find? {}) = .ok v) :
    (Page.plain e).render embed sc {} = .ok (v.chars, {}) := by
  rw [Page.plain, Node.render, Chain.value, he]
  rfl

theorem render_escaped {s : String} (he : e.value (sc.find? {}) = .ok (.text s)) :
    (Page.escaped e).render embed sc {} = .ok (Text.escape s.toList, {}) := by
  have happly : FilterCall.apply sc.now (sc.find? {}) (.text s) ⟨.escape, []⟩ =
      .ok (.ofChars (Text.escape s.toList)) := rfl
  rw [Page.escaped, Node.render, Chain.value, he]
  simp only [bind, Except.bind, List.foldlM_cons, List.foldlM_nil, happly, pure, Except.pure,
    Value.ofChars, Value.chars, String.toList_ofList]

/-- A text as it stands. -/
theorem plain {s s' : String} (he : e.value (sc.find? {}) = .ok (.text s))
    (he' : e.value (sc'.find? {}) = .ok (.text s')) (h : Parallel embed sc sc' rest raw raw') :
    Parallel embed sc sc' (Page.plain e :: rest) (s :: raw) (s' :: raw') :=
  cons (render_plain he) (render_plain he') (.raw s s') h

/-- A value as it stands that prints no sign in either scope. -/
theorem plainSignless {v v' : Liquid.Value} (he : e.value (sc.find? {}) = .ok v)
    (he' : e.value (sc'.find? {}) = .ok v') (hv : ∀ c ∈ Text.signs, v.chars.count c = 0)
    (hv' : ∀ c ∈ Text.signs, v'.chars.count c = 0) (h : Parallel embed sc sc' rest raw raw') :
    Parallel embed sc sc' (Page.plain e :: rest) raw raw' :=
  cons (render_plain he) (render_plain he') (.ofSignless hv hv') h

/-- An escaped text contributes nothing, whatever it is. -/
theorem escaped {s s' : String} (he : e.value (sc.find? {}) = .ok (.text s))
    (he' : e.value (sc'.find? {}) = .ok (.text s')) (h : Parallel embed sc sc' rest raw raw') :
    Parallel embed sc sc' (Page.escaped e :: rest) raw raw' :=
  cons (render_escaped he) (render_escaped he')
    (.ofSignless (fun _ hc ↦ Text.count_escape_eq_zero hc _)
      fun _ hc ↦ Text.count_escape_eq_zero hc _) h

/-! ### Conditions -/

theorem render_branch {c : Condition} {yes no : List Node} {b : Bool}
    (hc : c.test (sc.find? {}) = .ok b) :
    (Node.branch c true yes no).render embed sc {} =
      renderAll embed (if b then yes else no) sc {} := by
  rw [Node.render, hc]
  cases b <;> rfl

/-- A condition that comes out the same in both scopes. -/
theorem branch {c : Condition} {yes no : List Node} (b : Bool)
    (hc : c.test (sc.find? {}) = .ok b) (hc' : c.test (sc'.find? {}) = .ok b)
    (hbody : Parallel embed sc sc' (if b then yes else no) raw raw')
    (h : Parallel embed sc sc' rest more more') :
    Parallel embed sc sc' (.branch c true yes no :: rest) (raw ++ more) (raw' ++ more') := by
  obtain ⟨out, out', hr, hr', hb⟩ := hbody
  exact cons ((render_branch hc).trans hr) ((render_branch hc').trans hr') hb h

theorem test_holds {v : Liquid.Value} (he : e.value (sc.find? {}) = .ok v) :
    (Condition.holds e).test (sc.find? {}) = .ok v.isTruthy := by
  rw [Condition.test, he]
  rfl

/-- Nodes behind a flag that is the same in both scopes. -/
theorem givenFlag {b b' : Bool} (same : b = b') (he : e.value (sc.find? {}) = .ok (.bool b))
    (he' : e.value (sc'.find? {}) = .ok (.bool b')) (hbody : Parallel embed sc sc' nodes [] [])
    (h : Parallel embed sc sc' rest raw raw') :
    Parallel embed sc sc' (given e nodes :: rest) raw raw' := by
  subst same
  cases b with
  | false =>
    have hno : Parallel embed sc sc' (if false then nodes else []) [] [] := nil
    exact branch false (test_holds he) (test_holds he') hno h
  | true => exact branch true (test_holds he) (test_holds he') hbody h

/-- Nodes for a component that is there in both scopes or in neither. -/
theorem givenOption {α : Type} {f : α → VersionedSite.Value} {o o' : Option α}
    {texts : α → List String} (hf : ∀ a, (Value.ofPrinted (f a)).isTruthy = true)
    (same : o.isSome = o'.isSome)
    (he : e.value (sc.find? {}) = .ok (.ofPrinted (.optional f o)))
    (he' : e.value (sc'.find? {}) = .ok (.ofPrinted (.optional f o')))
    (hbody : ∀ a a', e.value (sc.find? {}) = .ok (.ofPrinted (f a)) →
      e.value (sc'.find? {}) = .ok (.ofPrinted (f a')) →
      Parallel embed sc sc' nodes (texts a) (texts a'))
    (h : Parallel embed sc sc' rest raw raw') :
    Parallel embed sc sc' (given e nodes :: rest) (o.toList.flatMap texts ++ raw)
      (o'.toList.flatMap texts ++ raw') := by
  cases o with
  | none =>
    obtain rfl : o' = none := by simpa using same.symm
    exact branch false (test_holds he) (test_holds he') nil h
  | some a =>
    obtain ⟨a', rfl⟩ := Option.isSome_iff_exists.mp same.symm
    have htest := (test_holds he).trans (congrArg Except.ok (hf a))
    have htest' := (test_holds he').trans (congrArg Except.ok (hf a'))
    rw [Option.toList_some, Option.toList_some, List.flatMap_singleton, List.flatMap_singleton]
    exact branch true htest htest' (hbody a a' he he') h

/-- The same where the nodes take nothing over as it stands. -/
theorem givenEscaped {α : Type} {f : α → VersionedSite.Value} {o o' : Option α}
    (hf : ∀ a, (Value.ofPrinted (f a)).isTruthy = true) (same : o.isSome = o'.isSome)
    (he : e.value (sc.find? {}) = .ok (.ofPrinted (.optional f o)))
    (he' : e.value (sc'.find? {}) = .ok (.ofPrinted (.optional f o')))
    (hbody : ∀ a a', e.value (sc.find? {}) = .ok (.ofPrinted (f a)) →
      e.value (sc'.find? {}) = .ok (.ofPrinted (f a')) → Parallel embed sc sc' nodes [] [])
    (h : Parallel embed sc sc' rest raw raw') :
    Parallel embed sc sc' (given e nodes :: rest) raw raw' := by
  have hnone (o : Option α) : o.toList.flatMap (fun _ ↦ ([] : List String)) = [] := by simp
  have hall : Parallel embed sc sc' (given e nodes :: rest)
      (o.toList.flatMap (fun _ ↦ []) ++ raw) (o'.toList.flatMap (fun _ ↦ []) ++ raw') :=
    givenOption hf same he he' hbody h
  rwa [hnone, hnone] at hall

/-- Nodes for a value that is a given text, where the value is the same in both scopes. -/
theorem ifText {text s : String} {yes no : List Node}
    (he : e.value (sc.find? {}) = .ok (.text s)) (he' : e.value (sc'.find? {}) = .ok (.text s))
    (hyes : s = text → Parallel embed sc sc' yes raw raw')
    (hno : s ≠ text → Parallel embed sc sc' no raw raw') :
    Parallel embed sc sc' [Page.ifText e text yes no] raw raw' := by
  have htest {sc : Scope} (he : e.value (sc.find? {}) = .ok (.text s)) :
      (Condition.compare .equal e (.literal (.text text))).test (sc.find? {}) =
        .ok (decide (s = text)) := by
    rw [Condition.test, he]
    rfl
  have h : Parallel embed sc sc' (if decide (s = text) then yes else no) raw raw' := by
    by_cases hs : s = text
    · simpa [hs] using hyes hs
    · simpa [hs] using hno hs
  have hall := branch _ (htest he) (htest he') h nil
  rwa [List.append_nil, List.append_nil] at hall

/-- Nodes for a text that is empty in both scopes or in neither. -/
theorem ifNotEmpty {s s' : String} (same : s = "" ↔ s' = "")
    (he : e.value (sc.find? {}) = .ok (.text s)) (he' : e.value (sc'.find? {}) = .ok (.text s'))
    (hbody : Parallel embed sc sc' nodes [] []) (h : Parallel embed sc sc' rest raw raw') :
    Parallel embed sc sc'
      (.branch (.compare .notEqual e (.literal (.text ""))) true nodes [] :: rest) raw raw' := by
  have htest {sc : Scope} {s : String} (he : e.value (sc.find? {}) = .ok (.text s)) :
      (Condition.compare .notEqual e (.literal (.text ""))).test (sc.find? {}) =
        .ok (!decide (s = "")) := by
    rw [Condition.test, he]
    rfl
  have hsame : (!decide (s' = "")) = !decide (s = "") := by simp [same]
  have hshown : Parallel embed sc sc' (if !decide (s = "") then nodes else []) [] [] := by
    split
    · exact hbody
    · exact nil
  exact branch _ (htest he) ((htest he').trans (congrArg _ hsame)) hshown h

/-! ### Loops and parts -/

/-- The body of a loop for each two items that stand in the same place. -/
theorem eachItem {α : Type} {R : α → α → Prop} {xs ys : List α} {f : α → Liquid.Value}
    {texts : α → List String} {item : String} {outer outer' : Liquid.Value} {length length' : Nat}
    (hxy : List.Forall₂ R xs ys)
    (hbody : ∀ x y, R x y → ∀ facts facts',
      Parallel embed (sc.push [(item, f x), ("forloop", facts)])
        (sc'.push [(item, f y), ("forloop", facts')]) nodes (texts x) (texts y))
    (place place' : Nat) :
    ∃ out out',
      Liquid.eachItem (fun sc st ↦ renderAll embed nodes sc st) sc item outer length place
        (xs.map f) {} = .ok (out, {}) ∧
      Liquid.eachItem (fun sc st ↦ renderAll embed nodes sc st) sc' item outer' length' place'
        (ys.map f) {} = .ok (out', {}) ∧
      Balanced out out' (xs.flatMap texts) (ys.flatMap texts) := by
  induction hxy generalizing place place' with
  | nil => exact ⟨[], [], rfl, rfl, .refl []⟩
  | @cons x y xs ys hR _ ih =>
    obtain ⟨out, out', hr, hr', hb⟩ := hbody x y hR _ _
    obtain ⟨outs, outs', hs, hs', hbs⟩ := ih (place + 1) (place' + 1)
    refine ⟨out ++ outs, out' ++ outs', ?_, ?_, ?_⟩
    · rw [List.map_cons, Liquid.eachItem, hr]
      simp only [bind, Except.bind, hs]
      rfl
    · rw [List.map_cons, Liquid.eachItem, hr']
      simp only [bind, Except.bind, hs']
      rfl
    · rw [List.flatMap_cons, List.flatMap_cons]
      exact hb.append hbs

theorem forEach {α : Type} {R : α → α → Prop} {xs ys : List α} {f : α → VersionedSite.Value}
    {texts : α → List String} {item : String} (hxy : List.Forall₂ R xs ys)
    (he : e.value (sc.find? {}) = .ok (.ofPrinted (.list (xs.map f))))
    (he' : e.value (sc'.find? {}) = .ok (.ofPrinted (.list (ys.map f))))
    (hbody : ∀ x y, R x y → ∀ facts facts',
      Parallel embed (sc.push [(item, .ofPrinted (f x)), ("forloop", facts)])
        (sc'.push [(item, .ofPrinted (f y)), ("forloop", facts')]) nodes (texts x) (texts y))
    (h : Parallel embed sc sc' rest raw raw') :
    Parallel embed sc sc' (Page.forEach item e nodes :: rest) (xs.flatMap texts ++ raw)
      (ys.flatMap texts ++ raw') := by
  have hrender {sc : Scope} {zs : List α} {outs : List Char}
      (he : e.value (sc.find? {}) = .ok (.ofPrinted (.list (zs.map f))))
      (hs : Liquid.eachItem (fun sc st ↦ renderAll embed nodes sc st) sc item
        ((sc.find? {} "forloop").getD .nil) zs.length 0 (zs.map (Value.ofPrinted ∘ f)) {} =
          .ok (outs, {})) :
      (Page.forEach item e nodes).render embed sc {} = .ok (outs, {}) := by
    have hvalues : LoopHead.values (sc.find? {}) ⟨item, .items e, none, none⟩ =
        .ok (zs.map (Value.ofPrinted ∘ f)) := by
      rw [LoopHead.values, LoopSource.values, he, Value.ofPrinted, ofPrintedItems_eq_map,
        List.map_map]
      rfl
    rw [Page.forEach, Node.render, hvalues]
    cases zs with
    | nil => exact hs
    | cons z zs => simpa [bind, Except.bind] using hs
  -- the facts that a loop tells its body may differ, and the rule for the body leaves them open
  obtain ⟨outs, outs', hs, hs', hb⟩ := eachItem hxy hbody 0 0
  exact cons (hrender he hs) (hrender he' hs') hb h

theorem templateName_literal (look : String → Option Liquid.Value) (name : String) :
    templateName look (.literal (.text name)) = .ok name := by
  simp [templateName, Expr.value, bind, Except.bind, Value.isScalar, Value.chars, pure,
    Except.pure]

theorem render_part {name : String} {t : Template}
    (hname : embed name = .ok fun sc st ↦ renderAll inner t sc st) (sc : Scope) :
    (Page.part name).render embed sc {} = renderAll inner t sc {} := by
  rw [Page.part, Node.render, templateName_literal]
  simp only [bind, Except.bind, hname]
  rfl

/-- A part of the page in the scope of the page. -/
theorem part {name : String} {t : Template}
    (hname : embed name = .ok fun sc st ↦ renderAll inner t sc st)
    (ht : Parallel inner sc sc' t raw raw') (h : Parallel embed sc sc' rest more more') :
    Parallel embed sc sc' (Page.part name :: rest) (raw ++ more) (raw' ++ more') := by
  obtain ⟨out, out', hr, hr', hb⟩ := ht
  exact cons ((render_part hname sc).trans hr) ((render_part hname sc').trans hr') hb h

end Parallel

end Page

end VersionedSite
