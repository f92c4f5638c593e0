import VersionedSite.Liquid.Library
import VersionedSite.Proofs.Steps

/-!
# What a template asks for

A template that asks for little prints the same in many scopes. What it may ask for is its
footprint: values, filters and other templates. Two scopes may differ in whatever the footprint
leaves out, and a template within the footprint is rendered the same in both.
-/

namespace VersionedSite.Liquid

/-- What a template may ask for. -/
structure Footprint where
  value : Expr → Bool
  filter : Filter → Bool
  template : Expr → Bool

/-! ## Within a footprint -/

section

variable (f : Footprint)

def FilterCall.within (c : FilterCall) : Bool := f.filter c.filter && c.arguments.all f.value

def Chain.within (c : Chain) : Bool := f.value c.entry && c.calls.all (·.within f)

def Condition.within : Condition → Bool
  | .holds e => f.value e
  | .compare _ left right => f.value left && f.value right
  | .both left right => left.within && right.within
  | .either left right => left.within && right.within

def LoopSource.within : LoopSource → Bool
  | .items e => f.value e
  | .range first last => f.value first && f.value last

def LoopHead.within (h : LoopHead) : Bool :=
  h.source.within f && h.limit.all f.value && h.offset.all f.value

def parametersWithin (ps : List (String × Expr)) : Bool := ps.all fun p ↦ f.value p.2

mutual

/-- Everything that the node asks for is in the footprint. -/
def Node.within : Node → Bool
  | .text _ | .increment _ | .decrement _ | .leave | .next => true
  | .output c => c.within f
  | .assign _ c => c.within f
  | .capture _ body => allWithin body
  | .cycle _ values => values.all f.value
  | .branch c _ yes no => c.within f && allWithin yes && allWithin no
  | .choose target cases otherwise =>
    f.value target && casesWithin cases && allWithin otherwise
  | .loop head _ body otherwise => head.within f && allWithin body && allWithin otherwise
  | .tableRows head columns body => head.within f && columns.all f.value && allWithin body
  | .ifChanged body => allWithin body
  | .include name ps => f.template name && f.value name && parametersWithin f ps
  | .isolate name ps none => f.template name && f.value name && parametersWithin f ps
  | .isolate name ps (some (_, source)) =>
    f.template name && f.value name && parametersWithin f ps && source.within f

def allWithin : List Node → Bool
  | [] => true
  | n :: rest => n.within && allWithin rest

def casesWithin : List (List Expr × List Node) → Bool
  | [] => true
  | (values, body) :: rest => values.all f.value && allWithin body && casesWithin rest

end

/-- Scopes that `R` relates look the same to whoever keeps to the footprint, and so do the scopes
that are made of them on the way. -/
structure Footprint.Hides (R : Scope → Scope → Prop) : Prop where
  value : ∀ {sc sc' : Scope} {e : Expr} (st : State), R sc sc' → f.value e = true →
    e.value (sc.find? st) = e.value (sc'.find? st)
  filter : ∀ {sc sc' : Scope} {g : Filter} (v : Value) (arguments : List Value), R sc sc' →
    f.filter g = true → g.apply sc.now v arguments = g.apply sc'.now v arguments
  outer : ∀ {sc sc' : Scope} (st : State), R sc sc' →
    sc.find? st "forloop" = sc'.find? st "forloop"
  push : ∀ {sc sc' : Scope} (names : List (String × Value)), R sc sc' →
    R (sc.push names) (sc'.push names)
  alone : ∀ {sc sc' : Scope} (names : List (String × Value)), R sc sc' →
    R { data := names, counters := false, now := sc.now }
      { data := names, counters := false, now := sc'.now }

end

/-- What is rendered is the same in related scopes. -/
def Same (R : Scope → Scope → Prop) (body : Scope → State → Rendered) : Prop :=
  ∀ (sc sc' : Scope) (st : State), R sc sc' → body sc st = body sc' st

/-- The templates that may be embedded are rendered the same in related scopes. -/
def Embedding.Same (embed : Embedding) (f : Footprint) (R : Scope → Scope → Prop) : Prop :=
  ∀ ⦃e : Expr⦄ ⦃look : String → Option Value⦄ ⦃name : String⦄ ⦃body : Scope → State → Rendered⦄,
    f.template e = true → templateName look e = .ok name → withEnding embed name = .ok body →
      Liquid.Same R body

/-! ## Expressions -/

section

variable {f : Footprint} {R : Scope → Scope → Prop} {sc sc' : Scope}

namespace Footprint.Hides

variable (hf : f.Hides R) (h : R sc sc') (st : State)

include hf h

theorem mapM_value {es : List Expr} (hes : es.all f.value = true) :
    es.mapM (·.value (sc.find? st)) = es.mapM (·.value (sc'.find? st)) := by
  induction es with
  | nil => rw [List.mapM_nil, List.mapM_nil]
  | cons e es ih =>
    rw [List.all_cons, Bool.and_eq_true] at hes
    rw [List.mapM_cons, List.mapM_cons, hf.value st h hes.1, ih hes.2]

theorem apply_call {c : FilterCall} (hc : c.within f = true) (v : Value) :
    c.apply sc.now (sc.find? st) v = c.apply sc'.now (sc'.find? st) v := by
  rw [FilterCall.within, Bool.and_eq_true] at hc
  rw [FilterCall.apply, FilterCall.apply, hf.mapM_value h st hc.2]
  simp only [hf.filter _ _ h hc.1]

theorem foldlM_apply {calls : List FilterCall} (hcalls : calls.all (·.within f) = true)
    (v : Value) :
    calls.foldlM (FilterCall.apply sc.now (sc.find? st)) v =
      calls.foldlM (FilterCall.apply sc'.now (sc'.find? st)) v := by
  induction calls generalizing v with
  | nil => rw [List.foldlM_nil, List.foldlM_nil]
  | cons c calls ih =>
    rw [List.all_cons, Bool.and_eq_true] at hcalls
    have hcall : c.apply sc.now (sc.find? st) v = c.apply sc'.now (sc'.find? st) v :=
      hf.apply_call h st hcalls.1 v
    simp only [List.foldlM_cons, hcall, ih hcalls.2]

theorem chain_value {c : Chain} (hc : c.within f = true) :
    c.value sc.now (sc.find? st) = c.value sc'.now (sc'.find? st) := by
  rw [Chain.within, Bool.and_eq_true] at hc
  rw [Chain.value, Chain.value, hf.value st h hc.1]
  simp only [hf.foldlM_apply h st hc.2]

theorem test {c : Condition} (hc : c.within f = true) :
    c.test (sc.find? st) = c.test (sc'.find? st) := by
  induction c with
  | holds e => rw [Condition.test, Condition.test, hf.value st h hc]
  | compare c left right =>
    rw [Condition.within, Bool.and_eq_true] at hc
    rw [Condition.test, Condition.test, hf.value st h hc.1, hf.value st h hc.2]
  | both left right ihl ihr =>
    rw [Condition.within, Bool.and_eq_true] at hc
    rw [Condition.test, Condition.test, ihl hc.1, ihr hc.2]
  | either left right ihl ihr =>
    rw [Condition.within, Bool.and_eq_true] at hc
    rw [Condition.test, Condition.test, ihl hc.1, ihr hc.2]

theorem count_eq (usual : Nat) {e? : Option Expr} (he : e?.all f.value = true) :
    count (sc.find? st) usual e? = count (sc'.find? st) usual e? := by
  cases e? with
  | none => rw [count, count]
  | some e => rw [count, count, hf.value st h he]

theorem source_values {s : LoopSource} (hs : s.within f = true) :
    s.values (sc.find? st) = s.values (sc'.find? st) := by
  cases s with
  | items e => rw [LoopSource.values, LoopSource.values, hf.value st h hs]
  | range first last =>
    rw [LoopSource.within, Bool.and_eq_true] at hs
    rw [LoopSource.values, LoopSource.values, hf.value st h hs.1, hf.value st h hs.2]

theorem head_values {head : LoopHead} (hhead : head.within f = true) :
    head.values (sc.find? st) = head.values (sc'.find? st) := by
  rw [LoopHead.within, Bool.and_eq_true, Bool.and_eq_true] at hhead
  obtain ⟨⟨hsource, hlimit⟩, hoffset⟩ := hhead
  obtain ⟨item, source, limit, offset⟩ := head
  have hcount {e? : Option Expr} (he : e?.all f.value = true) (usual : Nat) :=
    hf.count_eq h st usual he
  rw [LoopHead.values, LoopHead.values, hf.source_values h st hsource]
  cases limit <;> cases offset <;> simp only [hcount hlimit, hcount hoffset]

theorem anyEqual_eq (v : Value) {es : List Expr} (hes : es.all f.value = true) :
    anyEqual (sc.find? st) v es = anyEqual (sc'.find? st) v es := by
  induction es with
  | nil => rw [anyEqual, anyEqual]
  | cons e es ih =>
    rw [List.all_cons, Bool.and_eq_true] at hes
    rw [anyEqual, anyEqual, hf.value st h hes.1, ih hes.2]

theorem parameterValues_eq {ps : List (String × Expr)} (hps : parametersWithin f ps = true) :
    parameterValues (sc.find? st) ps = parameterValues (sc'.find? st) ps := by
  rw [parameterValues, parameterValues]
  induction ps with
  | nil => rw [List.mapM_nil, List.mapM_nil]
  | cons p ps ih =>
    rw [parametersWithin, List.all_cons, Bool.and_eq_true] at hps
    obtain ⟨name, e⟩ := p
    have hvalue : e.value (sc.find? st) = e.value (sc'.find? st) := hf.value st h hps.1
    simp only [List.mapM_cons, hvalue, ih hps.2]

theorem templateName_eq {e : Expr} (he : f.value e = true) :
    templateName (sc.find? st) e = templateName (sc'.find? st) e := by
  rw [templateName, templateName, hf.value st h he]

end Footprint.Hides

/-! ## Loops and embedded templates -/

variable {body : Scope → State → Rendered}

theorem Same.eachItem (hf : f.Hides R) (hbody : Same R body) (h : R sc sc') (item : String)
    (outer : Value) (length place : Nat) (vs : List Value) (st : State) :
    eachItem body sc item outer length place vs st =
      eachItem body sc' item outer length place vs st := by
  induction vs generalizing place st with
  | nil => rw [Liquid.eachItem, Liquid.eachItem]
  | cons v vs ih =>
    rw [Liquid.eachItem, Liquid.eachItem]
    simp only [hbody _ _ st (hf.push _ h), ih]

theorem Same.eachCell (hf : f.Hides R) (hbody : Same R body) (h : R sc sc') (item : String)
    (columns length place : Nat) (vs : List Value) (st : State) :
    eachCell body sc item columns length place vs st =
      eachCell body sc' item columns length place vs st := by
  induction vs generalizing place st with
  | nil => rw [Liquid.eachCell, Liquid.eachCell]
  | cons v vs ih =>
    rw [Liquid.eachCell, Liquid.eachCell]
    simp only [hbody _ _ st (hf.push _ h), ih]

theorem Same.isolated (hf : f.Hides R) (hbody : Same R body) (h : R sc sc')
    (names : List (String × Value)) (st : State) :
    isolated body names sc.now st = isolated body names sc'.now st := by
  rw [Liquid.isolated, Liquid.isolated, hbody _ _ _ (hf.alone names h)]

/-- Embedding by a name without the ending of a file gives the same as by the name itself. -/
theorem withEnding_of_embed {embed : Embedding} {name : String} (h : embed name = .ok body) :
    withEnding embed name = .ok body := by
  rw [withEnding, h]

section

variable {embed : Embedding} {e : Expr} {name : String} {look : String → Option Value}
  {ps : List (String × Expr)}

namespace Footprint.Hides

/-- An included template sees its parameters before the scope that it is embedded in. -/
theorem included (hf : f.Hides R) (he : embed.Same f R) (htemplate : f.template e = true)
    (hname : templateName look e = .ok name) (h : R sc sc')
    (hps : parametersWithin f ps = true) (st : State) :
    (do
      let body ← embed name
      let ps ← parameterValues (sc.find? st) ps
      body (sc.push ps.reverse) st) =
    (do
      let body ← embed name
      let ps ← parameterValues (sc'.find? st) ps
      body (sc'.push ps.reverse) st) := by
  rw [hf.parameterValues_eq h st hps]
  cases hbody : embed name with
  | error f => rfl
  | ok body =>
    have hsame : Same R body := he htemplate hname (withEnding_of_embed hbody)
    cases parameterValues (sc'.find? st) ps with
    | error f => rfl
    | ok ps => exact hsame _ _ st (hf.push ps.reverse h)

/-- An isolated template gets names, and the parameters are read where it is embedded. -/
theorem isolated_withEnding (hf : f.Hides R) (he : embed.Same f R)
    (htemplate : f.template e = true) (hname : templateName look e = .ok name) (h : R sc sc')
    (hps : parametersWithin f ps = true) (names : List (String × Value)) (st : State) :
    (do
      let body ← withEnding embed name
      let ps ← parameterValues (sc.find? st) ps
      isolated body (names ++ ps.reverse) sc.now st) =
    (do
      let body ← withEnding embed name
      let ps ← parameterValues (sc'.find? st) ps
      isolated body (names ++ ps.reverse) sc'.now st) := by
  rw [hf.parameterValues_eq h st hps]
  cases hbody : withEnding embed name with
  | error f => rfl
  | ok body =>
    cases parameterValues (sc'.find? st) ps with
    | error f => rfl
    | ok ps => exact (he htemplate hname hbody).isolated hf h (names ++ ps.reverse) st

/-- An isolated template outside a loop gets no names, and its jump is dropped. -/
theorem isolated_once (hf : f.Hides R) (he : embed.Same f R)
    (htemplate : f.template e = true) (hname : templateName look e = .ok name) (h : R sc sc')
    (hps : parametersWithin f ps = true) (st : State) :
    (do
      let body ← withEnding embed name
      let ps ← parameterValues (sc.find? st) ps
      let (out, st, _) ← isolated body ps.reverse sc.now st
      return (out, st)) =
    (do
      let body ← withEnding embed name
      let ps ← parameterValues (sc'.find? st) ps
      let (out, st, _) ← isolated body ps.reverse sc'.now st
      return (out, st)) := by
  have hall := hf.isolated_withEnding he htemplate hname h hps [] st
  have hkept := congrArg (· >>= fun r ↦ pure (r.1, r.2.1)) hall
  simpa only [bind_assoc, List.nil_append] using hkept

end Footprint.Hides

end

end

/-! ## Nodes -/

section

variable {f : Footprint} {R : Scope → Scope → Prop} {embed : Embedding}

mutual

/-- A node within the footprint is rendered the same in related scopes. -/
theorem Node.same_render (hf : f.Hides R) (he : embed.Same f R) :
    ∀ (n : Node), n.within f = true → Same R (n.render embed)
  | .text s, _ => fun sc sc' st h ↦ by rw [Node.render, Node.render]
  | .output c, hn => fun sc sc' st h ↦ by
    rw [Node.within] at hn
    rw [Node.render, Node.render, hf.chain_value h st hn]
  | .assign name c, hn => fun sc sc' st h ↦ by
    rw [Node.within] at hn
    rw [Node.render, Node.render, hf.chain_value h st hn]
  | .capture name body, hn => fun sc sc' st h ↦ by
    rw [Node.within] at hn
    rw [Node.render, Node.render, same_renderAll hf he body hn sc sc' st h]
  | .increment name, _ => fun sc sc' st h ↦ by rw [Node.render, Node.render]
  | .decrement name, _ => fun sc sc' st h ↦ by rw [Node.render, Node.render]
  | .cycle group values, hn => fun sc sc' st h ↦ by
    rw [Node.within] at hn
    rw [Node.render, Node.render]
    dsimp only
    cases hplace : values[(st.turn group values.length).1]? with
    | none => rfl
    | some e =>
      have hmem : f.value e = true := List.all_eq_true.mp hn e (List.mem_of_getElem? hplace)
      simp only [orUnsuitable, bind, Except.bind, hf.value st h hmem]
  | .branch c expected yes no, hn => fun sc sc' st h ↦ by
    rw [Node.within, Bool.and_eq_true, Bool.and_eq_true] at hn
    rw [Node.render, Node.render, hf.test h st hn.1.1, same_renderAll hf he yes hn.1.2 sc sc' st h,
      same_renderAll hf he no hn.2 sc sc' st h]
  | .choose target cases otherwise, hn => fun sc sc' st h ↦ by
    rw [Node.within, Bool.and_eq_true, Bool.and_eq_true] at hn
    rw [Node.render, Node.render, hf.value st h hn.1.1,
      same_renderAll hf he otherwise hn.2 sc sc' st h]
    simp only [renderCase_eq hf he _ cases hn.1.2 sc sc' st h]
  | .loop head reversed body otherwise, hn => fun sc sc' st h ↦ by
    rw [Node.within, Bool.and_eq_true, Bool.and_eq_true] at hn
    have hbody : Same R fun sc st ↦ renderAll embed body sc st :=
      same_renderAll hf he body hn.1.2
    rw [Node.render, Node.render, hf.head_values h st hn.1.1,
      same_renderAll hf he otherwise hn.2 sc sc' st h, hf.outer st h]
    simp only [hbody.eachItem hf h]
  | .tableRows head columns body, hn => fun sc sc' st h ↦ by
    rw [Node.within, Bool.and_eq_true, Bool.and_eq_true] at hn
    have hbody : Same R fun sc st ↦ renderAll embed body sc st := same_renderAll hf he body hn.2
    rw [Node.render, Node.render, hf.head_values h st hn.1.1]
    simp only [hf.count_eq h st _ hn.1.2, hbody.eachCell hf h]
  | .ifChanged body, hn => fun sc sc' st h ↦ by
    rw [Node.within] at hn
    rw [Node.render, Node.render, same_renderAll hf he body hn sc sc' st h]
  | .include name ps, hn => fun sc sc' st h ↦ by
    rw [Node.within, Bool.and_eq_true, Bool.and_eq_true] at hn
    rw [Node.render, Node.render, hf.templateName_eq h st hn.1.2]
    cases hname : templateName (sc'.find? st) name with
    | error f => rfl
    | ok file => exact hf.included he hn.1.1 hname h hn.2 st
  | .isolate name ps none, hn => fun sc sc' st h ↦ by
    rw [Node.within, Bool.and_eq_true, Bool.and_eq_true] at hn
    rw [Node.render, Node.render, hf.templateName_eq h st hn.1.2]
    cases hname : templateName (sc'.find? st) name with
    | error f => rfl
    | ok file => exact hf.isolated_once he hn.1.1 hname h hn.2 st
  | .isolate name ps (some (item, source)), hn => fun sc sc' st h ↦ by
    rw [Node.within, Bool.and_eq_true, Bool.and_eq_true, Bool.and_eq_true] at hn
    obtain ⟨⟨⟨htemplate, hvalue⟩, hps⟩, hsource⟩ := hn
    rw [Node.render, Node.render, hf.templateName_eq h st hvalue, hf.source_values h st hsource]
    cases hname : templateName (sc'.find? st) name with
    | error f => rfl
    | ok file =>
      have hembedded := funext fun names ↦ funext fun inner ↦
        hf.isolated_withEnding he htemplate hname h hps names inner
      cases source.values (sc'.find? st) with
      | error f => rfl
      | ok vs => exact congrArg (isolatedEach · item vs.length 0 vs st) hembedded
  | .leave, _ => fun sc sc' st h ↦ by rw [Node.render, Node.render]
  | .next, _ => fun sc sc' st h ↦ by rw [Node.render, Node.render]

theorem same_renderAll (hf : f.Hides R) (he : embed.Same f R) :
    ∀ (t : List Node), allWithin f t = true → Same R (renderAll embed t)
  | [], _ => fun sc sc' st h ↦ by rw [renderAll, renderAll]
  | n :: rest, ht => fun sc sc' st h ↦ by
    rw [allWithin, Bool.and_eq_true] at ht
    have hrest := same_renderAll hf he rest ht.2
    rw [renderAll, renderAll, Node.same_render hf he n ht.1 sc sc' st h]
    simp only [hrest sc sc' _ h]

theorem renderCase_eq (hf : f.Hides R) (he : embed.Same f R) (v : Value) :
    ∀ (cases : List (List Expr × List Node)), casesWithin f cases = true →
      ∀ (sc sc' : Scope) (st : State), R sc sc' →
        renderCase embed v cases sc st = renderCase embed v cases sc' st
  | [], _ => fun sc sc' st h ↦ by rw [renderCase, renderCase]
  | (values, body) :: rest, hcases => fun sc sc' st h ↦ by
    rw [casesWithin, Bool.and_eq_true, Bool.and_eq_true] at hcases
    rw [renderCase, renderCase, hf.anyEqual_eq h st v hcases.1.1,
      same_renderAll hf he body hcases.1.2 sc sc' st h,
      renderCase_eq hf he v rest hcases.2 sc sc' st h]

end

end

/-! ## Libraries -/

namespace Library

variable {f : Footprint} {R : Scope → Scope → Prop} {l : Library}

/-- Whatever a template within the footprint may embed from the library is within it, too. -/
def Within (l : Library) (f : Footprint) : Prop :=
  ∀ ⦃e : Expr⦄ ⦃look : String → Option Value⦄ ⦃name : String⦄ ⦃t : Template⦄,
    f.template e = true → templateName look e = .ok name →
      l.find name = .ok t ∨ l.find (name ++ ".liquid") = .ok t → allWithin f t = true

theorem eq_renderAt_of_withEnding {depth : Nat} {name : String}
    {body : Scope → State → Rendered}
    (h : withEnding (fun name ↦ (l.find name).map fun t ↦ l.renderAt depth t) name = .ok body) :
    ∃ t, (l.find name = .ok t ∨ l.find (name ++ ".liquid") = .ok t) ∧
      body = l.renderAt depth t := by
  rw [withEnding] at h
  cases hname : l.find name with
  | ok t =>
    simp only [hname, Except.map] at h
    exact ⟨t, .inl rfl, (Except.ok.inj h).symm⟩
  | error e =>
    cases hfile : l.find (name ++ ".liquid") with
    | ok t =>
      simp only [hname, hfile, Except.map] at h
      exact ⟨t, .inr rfl, (Except.ok.inj h).symm⟩
    | error e' =>
      simp only [hname, hfile, Except.map] at h
      cases h

/-- **A template within the footprint** is rendered the same in related scopes, with all that it
embeds. -/
theorem same_renderAt (hf : f.Hides R) (hl : l.Within f) (depth : Nat) {t : Template}
    (ht : allWithin f t = true) : Same R (l.renderAt depth t) := by
  induction depth generalizing t with
  | zero => exact fun sc sc' st h ↦ rfl
  | succ depth ih =>
    have hembed : Embedding.Same (fun name ↦ (l.find name).map fun t ↦ l.renderAt depth t) f R := by
      intro e look name body he hname hbody
      obtain ⟨t', hfind, rfl⟩ := eq_renderAt_of_withEnding hbody
      exact ih (hl he hname hfind)
    exact same_renderAll hf hembed t ht

end Library

end VersionedSite.Liquid
