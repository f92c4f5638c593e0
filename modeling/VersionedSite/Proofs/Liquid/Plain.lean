import VersionedSite.Liquid.Library
import VersionedSite.Proofs.Steps

/-!
# Plain templates

The templates that the plain dialect reads: texts and outputs without filters, and nothing else.
Such a template has no state and no scope of its own, so what it prints is a function of the
values that its names have, `Template.printed`. Reading never makes another node, and rendering a
plain template by the library comes to that function.
-/

namespace VersionedSite.Liquid

/-! ## Nodes -/

/-- A text, or an output without filters. -/
inductive Node.IsPlain : Node → Prop where
  | text (s : List Char) : IsPlain (.text s)
  | output (e : Expr) : IsPlain (.output ⟨e, []⟩)

/-- What a plain template prints where names have the given values. -/
def Template.printed (look : String → Option Value) : Template → Except RenderFault (List Char)
  | [] => .ok []
  | .text s :: rest => do return s ++ (← printed look rest)
  | .output c :: rest => do
    let v ← c.entry.value look
    return v.chars ++ (← printed look rest)
  | _ :: rest => printed look rest

/-! ## Reading -/

/-- The node of one element. The plain dialect has no tags, and a filter is never known. -/
def ElementKind.plainNode : ElementKind → Except ReadFault Node
  | .stray => .error .stray
  | .text s => .ok (.text s)
  | .output c => do return .output (← c.resolve .plain)
  | .tag name _ => .error (.unknownTag name)

/-- The plain dialect has no filter to resolve. -/
theorem WrittenChain.eq_of_resolve_plain {c : WrittenChain} {chain : Chain}
    (h : c.resolve .plain = .ok chain) : chain = ⟨c.entry, []⟩ := by
  rw [resolve] at h
  obtain ⟨calls, hcalls, h⟩ := Steps.bind_eq_ok_iff.mp h
  obtain rfl := Except.ok.inj h
  cases hc : c.calls with
  | nil =>
    rw [hc, List.mapM_nil] at hcalls
    rw [← Except.ok.inj hcalls]
  | cons call rest =>
    rw [hc, List.mapM_cons] at hcalls
    obtain ⟨resolved, hcall, -⟩ := Steps.bind_eq_ok_iff.mp hcalls
    exact absurd hcall (by simp [WrittenCall.resolve])

theorem ElementKind.isPlain_of_plainNode {k : ElementKind} {n : Node} (h : k.plainNode = .ok n) :
    n.IsPlain := by
  cases k with
  | stray => exact absurd h (by simp [plainNode])
  | text s =>
    obtain rfl := Except.ok.inj h
    exact .text s
  | output c =>
    obtain ⟨chain, hchain, h⟩ := Steps.bind_eq_ok_iff.mp h
    obtain rfl := Except.ok.inj h
    rw [WrittenChain.eq_of_resolve_plain hchain]
    exact .output c.entry
  | tag name ts => exact absurd h (by simp [plainNode])

theorem readNodes_plain_nil {fuel : Nat} :
    readNodes .plain (fuel + 1) none [] = .ok ([], .close) [] := by
  rw [readNodes]
  rfl

/-- One step of reading: the element in front becomes a node before the others. -/
theorem readNodes_plain_cons {fuel : Nat} {e : Element} {es : List Element} :
    readNodes .plain (fuel + 1) none (e :: es) =
      match e.kind.plainNode with
      | .error f => .error f es
      | .ok n =>
        match readNodes .plain fuel none es with
        | .ok (nodes, ending) rest => .ok (n :: nodes, ending) rest
        | .error f rest => .error f rest := by
  rw [readNodes]
  cases hk : e.kind with
  | stray =>
    simp only [nextElement, bind, EStateM.bind, hk, pure, EStateM.pure]
    rfl
  | text s =>
    simp only [nextElement, bind, EStateM.bind, hk, pure, EStateM.pure]
    cases readNodes .plain fuel none es with
    | ok a rest => rfl
    | error f rest => rfl
  | output c =>
    simp only [nextElement, bind, EStateM.bind, hk, pure, EStateM.pure, ElementKind.plainNode]
    cases c.resolve .plain with
    | error f => rfl
    | ok chain =>
      cases hn : readNodes .plain fuel none es with
      | ok a rest => simp [ofExcept, pure, EStateM.pure, hn, Except.bind, Except.pure]
      | error f rest => simp [ofExcept, pure, EStateM.pure, hn, Except.bind, Except.pure]
  | tag name ts =>
    simp only [nextElement, bind, EStateM.bind, hk, pure, EStateM.pure]
    rfl

/-- With fuel for every element, reading is one node for each of them. -/
theorem readNodes_plain {fuel : Nat} {es : List Element} (h : es.length < fuel) :
    (∃ nodes, es.mapM (·.kind.plainNode) = .ok nodes ∧
        readNodes .plain fuel none es = .ok (nodes, .close) []) ∨
      ∃ f rest, es.mapM (·.kind.plainNode) = .error f ∧
        readNodes .plain fuel none es = .error f rest := by
  induction es generalizing fuel with
  | nil =>
    obtain ⟨fuel, rfl⟩ := Nat.exists_eq_succ_of_ne_zero (Nat.ne_of_gt h)
    exact .inl ⟨[], rfl, readNodes_plain_nil⟩
  | cons e es ih =>
    obtain ⟨fuel, rfl⟩ := Nat.exists_eq_succ_of_ne_zero (Nat.ne_of_gt (Nat.zero_lt_of_lt h))
    rw [readNodes_plain_cons, List.mapM_cons]
    cases e.kind.plainNode with
    | error f => exact .inr ⟨f, es, rfl, rfl⟩
    | ok n =>
      rcases ih (Nat.lt_of_succ_lt_succ h) with ⟨nodes, hm, hr⟩ | ⟨f, rest, hm, hr⟩
      · rw [hm, hr]
        exact .inl ⟨n :: nodes, rfl, rfl⟩
      · rw [hm, hr]
        exact .inr ⟨f, rest, rfl, rfl⟩

/-- **Reading in the plain dialect** takes the elements of the text one by one. -/
theorem Template.ofChars_plain (s : List Char) :
    Template.ofChars .plain s = (elements s).mapM (·.kind.plainNode) := by
  rw [ofChars]
  -- the fuel allows for blocks, which the plain dialect does not have
  have hfuel : (elements s).length < 3 * (elements s).length + 1 := by omega
  rcases readNodes_plain hfuel with ⟨nodes, hm, hr⟩ | ⟨f, rest, hm, hr⟩
  · rw [hm]
    simp only [hr]
  · rw [hm]
    simp only [hr]

theorem Template.isPlain_of_ofChars {s : List Char} {t : Template}
    (h : Template.ofChars .plain s = .ok t) : ∀ n ∈ t, n.IsPlain := by
  intro n hn
  rw [ofChars_plain] at h
  obtain ⟨e, -, he⟩ := Steps.exists_of_mem_mapM h hn
  exact ElementKind.isPlain_of_plainNode he

/-! ## Rendering -/

/-- A plain template leaves the state as it is, and never jumps. -/
theorem renderAll_plain {embed : Embedding} {t : Template} (ht : ∀ n ∈ t, n.IsPlain) {sc : Scope}
    {st : State} (hst : st.jump = none) :
    renderAll embed t sc st = (Template.printed (sc.find? st) t).map (·, st) := by
  induction t with
  | nil => rfl
  | cons n t ih =>
    have ih := ih fun m hm ↦ ht m (List.mem_cons_of_mem _ hm)
    rw [renderAll]
    cases ht n List.mem_cons_self with
    | text s =>
      rw [Node.render, Template.printed]
      simp only [bind, Except.bind, hst, Option.isSome_none, ih]
      cases Template.printed (sc.find? st) t with
      | ok out => rfl
      | error f => rfl
    | output e =>
      rw [Node.render, Template.printed, Chain.value]
      cases e.value (sc.find? st) with
      | error f => rfl
      | ok v =>
        simp only [bind, Except.bind, pure, Except.pure, List.foldlM_nil, hst, Option.isSome_none,
          ih]
        cases Template.printed (sc.find? st) t with
        | ok out => rfl
        | error f => rfl

/-- **What a plain template prints** depends on the data alone. -/
theorem Library.render_plain {l : Library} {t : Template} (ht : ∀ n ∈ t, n.IsPlain)
    (data : List (String × Value)) :
    l.render t data = (t.printed fun name ↦ Value.field? name data).map String.ofList := by
  have hlook : (Scope.find? { data, now := l.now } {}) = fun name ↦ Value.field? name data := by
    funext name
    simp [Scope.find?, Value.field?]
  have hjump : ({} : State).jump = none := rfl
  rw [render, maxDepth, renderAt, renderAll_plain ht hjump, hlook]
  cases Template.printed (fun name ↦ Value.field? name data) t with
  | ok out => rfl
  | error f => rfl

end VersionedSite.Liquid
