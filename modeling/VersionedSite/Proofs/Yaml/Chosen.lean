import VersionedSite.Proofs.Yaml.Keys
import VersionedSite.Yaml.Choice

/-!
# The keys of chosen records

A record that a key chooses is read twice: first into values without a type, then from these. The
second reading sees no node any more, so what it accepts is brought back to the document through
`Document.ReadsAs`. Keys that name no field are passed over by it; all others obey the schema.
-/

namespace VersionedSite.Yaml

/-! ## Values without a type -/

/-- The node has been read as the value without a type. -/
def Document.ReadsAs (d : Document) (node : Node) (x : Loose) : Prop :=
  ∃ (depth : Nat) (expected : String) (p : Place) (n n' : Nat),
    p.document = d ∧ Loose.read depth expected p node n = .ok (x, n')

/-- The key and the value of an entry have been read as those without a type. -/
def Document.ReadsEntryAs (d : Document) (e : Node × Node) (x : Loose × Loose) : Prop :=
  d.ReadsAs e.1 x.1 ∧ d.ReadsAs e.2 x.2

section

variable {p : Place} {node : Node} {n n' : Nat} {x : Loose} {depth : Nat} {expected : String}

theorem Document.readsAs_of_read (h : Loose.read depth expected p node n = .ok (x, n')) :
    p.document.ReadsAs node x := ⟨depth, expected, p, n, n', rfl, h⟩

theorem Document.readsAs_value {key : Node} {depth : Nat}
    (h : Loose.read depth expected (p.value key) node n = .ok (x, n')) :
    p.document.ReadsAs node x := p.document_value key ▸ readsAs_of_read h

namespace Loose

theorem lift_eq_ok_iff {α : Type} {e : Except Cause α} {r : α × Nat} :
    lift e n = .ok r ↔ e = .ok r.1 ∧ n = r.2 := by
  cases e with
  | error c => exact ⟨fun h ↦ absurd h (fail_ne_ok (n := n)), fun h ↦ nomatch h.1⟩
  | ok a =>
    rw [lift, Read.pure_eq_ok_iff, Except.ok.injEq]
    exact Prod.ext_iff

theorem eq_scalar_of_ofDatum {dm : Datum} (h : ofDatum expected dm = .ok x) : x = .scalar dm := by
  unfold ofDatum at h
  split at h
  · cases h
  · cases h
  · exact (Except.ok.inj h).symm

/-- A value without a type is a scalar, or a collection that has been read by `inside`. -/
theorem cases_of_readWith {inside : Option (Reader Loose)}
    (h : readWith inside expected p node n = .ok (x, n')) :
    (∃ dm, x = .scalar dm ∧ p.document.datumOf? node = some dm) ∨
      (∃ tag items closed xs, p.document.meant node = .sequence tag items closed ∧
        x = .sequence xs) ∨
      ∃ tag es closed xs r k k', p.document.meant node = .mapping tag es closed ∧
        x = .mapping xs ∧ inside = some r ∧
        readEntries p (fun _ ↦ r) (addWith r) es [] k = .ok (xs, k') := by
  rw [readWith, Place.blame_eq_ok_iff] at h
  obtain ⟨m, k, hm, h⟩ := Read.bind_eq_ok_iff.mp h
  obtain rfl := follow_eq_meant hm
  cases hmeant : p.document.meant node <;> rw [hmeant] at h
  case void =>
    obtain ⟨rfl, -⟩ := Prod.mk.inj (Read.pure_eq_ok_iff.mp h)
    exact .inl ⟨.null, rfl, by rw [Document.datumOf?, hmeant]⟩
  case scalar tag text style =>
    obtain ⟨htag, h⟩ := fail_or_eq_ok h
    obtain ⟨dm, hdm, hx⟩ := Steps.bind_eq_ok_iff.mp (lift_eq_ok_iff.mp h).1
    refine .inl ⟨dm, eq_scalar_of_ofDatum hx, ?_⟩
    rw [Document.datumOf?, hmeant]
    simp [htag, hdm, Except.toOption]
  case sequence tag items closed =>
    obtain ⟨htag, h⟩ := fail_or_eq_ok h
    cases inside with
    | none => exact absurd h fail_ne_ok
    | some r =>
      obtain ⟨xs, k', -, h⟩ := Read.bind_eq_ok_iff.mp h
      obtain ⟨u, k'', -, h⟩ := Read.bind_eq_ok_iff.mp h
      obtain ⟨rfl, -⟩ := Prod.mk.inj (Read.pure_eq_ok_iff.mp h)
      exact .inr (.inl ⟨tag, items, closed, xs, rfl, rfl⟩)
  case mapping tag es closed =>
    obtain ⟨htag, h⟩ := fail_or_eq_ok h
    cases inside with
    | none => exact absurd h fail_ne_ok
    | some r =>
      obtain ⟨xs, k', hxs, h⟩ := Read.bind_eq_ok_iff.mp h
      obtain ⟨u, k'', -, h⟩ := Read.bind_eq_ok_iff.mp h
      obtain ⟨rfl, -⟩ := Prod.mk.inj (Read.pure_eq_ok_iff.mp h)
      exact .inr (.inr ⟨tag, es, closed, xs, r, k, k', rfl, rfl, rfl, hxs⟩)
  all_goals exact absurd h fail_ne_ok

/-- What has been read of a mapping's entries follows what was there before. -/
theorem readsEntriesAs_of_readEntries {exp exp' : String} {es : List (Node × Node)}
    {start : List (Loose × Loose)} {y : List (Loose × Loose) × Nat}
    (h : readEntries p (fun _ ↦ read depth exp) (addWith (read depth exp')) es start n = .ok y) :
    ∃ xs, y.1 = start ++ xs ∧ List.Forall₂ p.document.ReadsEntryAs es xs := by
  induction es generalizing start n with
  | nil =>
    obtain rfl := Read.pure_eq_ok_iff.mp h
    exact ⟨[], (List.append_nil start).symm, .nil⟩
  | cons e es ih =>
    rw [readEntries] at h
    obtain ⟨key, k, hkey, h⟩ := Read.bind_eq_ok_iff.mp h
    obtain ⟨done, k', hdone, h⟩ := Read.bind_eq_ok_iff.mp h
    obtain ⟨value, k'', hvalue, hdone⟩ := Read.bind_eq_ok_iff.mp hdone
    obtain ⟨rfl, -⟩ := Prod.mk.inj (Read.pure_eq_ok_iff.mp hdone)
    obtain ⟨xs, hxs, hes⟩ := ih h
    refine ⟨(key, value) :: xs, by rw [hxs, List.append_assoc]; rfl, .cons ⟨?_, ?_⟩ hes⟩
    · exact Document.readsAs_of_read hkey
    · exact Document.readsAs_value hvalue

end Loose

/-- A value without a type is that of a scalar, or a collection like the one it was read from. -/
theorem Document.ReadsAs.cases {d : Document} (h : d.ReadsAs node x) :
    (∃ dm, x = .scalar dm ∧ d.datumOf? node = some dm) ∨
      (∃ tag items closed xs, d.meant node = .sequence tag items closed ∧ x = .sequence xs) ∨
      ∃ tag es closed xs, d.meant node = .mapping tag es closed ∧ x = .mapping xs ∧
        List.Forall₂ d.ReadsEntryAs es xs := by
  obtain ⟨depth, expected, p, n, n', rfl, h⟩ := h
  have hinside : ∃ inside, Loose.readWith inside expected p node n = .ok (x, n') ∧
      ∀ r ∈ inside, ∃ depth, r = Loose.read depth "any value" := by
    cases depth with
    | zero => exact ⟨none, h, nofun⟩
    | succ depth => exact ⟨_, h, fun r hr ↦ ⟨depth, (Option.some.inj hr).symm⟩⟩
  obtain ⟨inside, h, hinside⟩ := hinside
  rcases Loose.cases_of_readWith h with hscalar | hsequence |
    ⟨tag, es, closed, xs, r, k, k', hmeant, hx, hr, hes⟩
  · exact .inl hscalar
  · exact .inr (.inl hsequence)
  · obtain ⟨depth, rfl⟩ := hinside r hr
    obtain ⟨ys, hys, hes⟩ := Loose.readsEntriesAs_of_readEntries hes
    obtain rfl : xs = ys := hys
    exact .inr (.inr ⟨tag, es, closed, xs, hmeant, hx, hes⟩)

/-- A node means a scalar exactly if a scalar has been read from it. -/
theorem Document.ReadsAs.datumOf?_eq {d : Document} (h : d.ReadsAs node x) :
    d.datumOf? node = match x with
      | .scalar dm => some dm
      | _ => none := by
  rcases h.cases with ⟨dm, rfl, hdm⟩ | ⟨tag, items, closed, xs, hmeant, rfl⟩ |
    ⟨tag, es, closed, xs, hmeant, rfl, -⟩
  · exact hdm
  · rw [datumOf?, hmeant]
  · rw [datumOf?, hmeant]

theorem Document.ReadsAs.isKey_eq {d : Document} (h : d.ReadsAs node x) (key : String) :
    d.isKey key node = x.isText key := by
  rw [isKey, h.datumOf?_eq]
  rcases x with ⟨dm⟩ | _ | _
  · cases dm <;> rfl
  · rfl
  · rfl

theorem Document.ReadsAs.entries {d : Document} {xs : List (Loose × Loose)}
    (h : d.ReadsAs node (.mapping xs)) :
    ∃ tag es closed, d.meant node = .mapping tag es closed ∧
      List.Forall₂ d.ReadsEntryAs es xs := by
  rcases h.cases with ⟨_, hx, _⟩ | ⟨_, _, _, _, _, hx⟩ | ⟨tag, es, closed, ys, hmeant, hx, hes⟩
  · cases hx
  · cases hx
  · exact ⟨tag, es, closed, hmeant, Loose.mapping.inj hx ▸ hes⟩

end

/-! ## Fields of a chosen record -/

section

variable {α σ β : Type} {s : Schema} {d : Document} {node : Node}

/-- Whatever node the accepted value has been read from is keyed like the schema. -/
def Loose.Enforces (r : Loose → Except Cause α) (s : Schema) : Prop :=
  ∀ ⦃d : Document⦄ ⦃node : Node⦄ ⦃x : Loose⦄ ⦃a : α⦄,
    d.ReadsAs node x → r x = .ok a → d.Keyed s node

theorem Document.ReadsAs.keyed {dm : Datum} (h : d.ReadsAs node (.scalar dm)) : d.Keyed s node :=
  .of_datumOf? h.datumOf?_eq

namespace Loose

theorem enforces_string : Enforces string s := by
  intro d node x a hx ha
  rcases x with ⟨dm⟩ | _ | _
  · exact hx.keyed
  · cases ha
  · cases ha

theorem enforces_optional {r : Loose → Except Cause α} (hr : Enforces r s) :
    Enforces (optional r) s := by
  intro d node x a hx ha
  have hsome (ha : some <$> r x = .ok a) : d.Keyed s node := by
    obtain ⟨b, hb, -⟩ := Steps.map_eq_ok_iff.mp ha
    exact hr hx hb
  rcases x with ⟨dm⟩ | _ | _
  · exact hx.keyed
  · exact hsome ha
  · exact hsome ha

/-- A variant is found for a scalar that is its name or its number. -/
theorem isSome_among?_of_variant {variants : List (String × α)} {x : Loose} {a : α}
    (h : variant variants x = .ok a) :
    ∃ dm, x = .scalar dm ∧ (dm.among? id (variants.map (·.1))).isSome = true := by
  unfold variant at h
  split at h
  · next name =>
    refine ⟨.text name, rfl, ?_⟩
    unfold named at h
    split at h
    · next v b hfind =>
      rw [Datum.among?, List.find?_map]
      exact (congrArg Option.isSome (congrArg (Option.map _) hfind)).trans rfl
    · cases h
  · next i w =>
    refine ⟨.natural i w, rfl, ?_⟩
    split at h
    · next v b hget => rw [Datum.among?, List.getElem?_map, hget]; rfl
    · cases h
  · cases h

theorem enforces_oneOf {variants : List (String × α)} :
    Enforces (oneOf variants) (.word (variants.map (·.1))) := by
  intro d node x a hx ha
  unfold oneOf at ha
  split at ha
  · exact hx.keyed
  · next key value =>
    obtain ⟨b, hkey, hvalue⟩ := Steps.bind_eq_ok_iff.mp ha
    obtain ⟨tag, es, closed, hmeant, hes⟩ := hx.entries
    obtain ⟨⟨k, v⟩, _, ⟨hk, hv⟩, hrest, rfl⟩ := List.forall₂_cons_right_iff.mp hes
    obtain rfl := List.forall₂_nil_right_iff.mp hrest
    refine .of_meant (hmeant ▸ .word ?_ ?_)
    · obtain ⟨dm, rfl, hdm⟩ := isSome_among?_of_variant hkey
      rw [Document.wordOf?, hk.datumOf?_eq]
      exact hdm
    · split at hvalue
      · exact .inl hv.datumOf?_eq
      · obtain ⟨tag, es, closed, hmeant, hes⟩ := hv.entries
        obtain rfl := List.forall₂_nil_right_iff.mp hes
        exact .inr ⟨tag, closed, hmeant⟩
      · cases hvalue
  · cases ha
  · cases ha

end Loose

/-! ## Chosen records -/

/-- The field goes by the name, and its reader enforces the schema. -/
def LooseField.Enforces (f : LooseField σ) (x : String × Schema) : Prop :=
  f.name = x.1 ∧ Loose.Enforces f.read x.2

/-- Whatever the accepted record has been read from has the fields and no field twice. -/
structure Loose.EnforcesFields (r : Loose → Except Cause β) (fields : List (String × Schema)) :
    Prop where
  mapping : ∀ ⦃d : Document⦄ ⦃es : List (Node × Node)⦄ ⦃xs : List (Loose × Loose)⦄ ⦃b : β⦄,
    List.Forall₂ d.ReadsEntryAs es xs → r (.mapping xs) = .ok b →
      ((es.filterMap fun e ↦ d.fieldOf? fields e.1).map (·.1)).Nodup ∧
        ∀ e ∈ es, ∀ f, d.fieldOf? fields e.1 = some f → d.Keyed f.2 e.2
  sequence : ∀ ⦃d : Document⦄ ⦃items : List Node⦄ ⦃xs : List Loose⦄ ⦃b : β⦄,
    List.Forall₂ d.ReadsAs items xs → r (.sequence xs) = .ok b →
      items.length ≤ fields.length ∧ ∀ x ∈ items.zip fields, d.Keyed x.2.2 x.1

namespace Variant

variable {v : Variant σ β} {fields : List (String × Schema)}

/-- A key finds the field of the record that it finds in the schema. -/
theorem rel_field? (hv : List.Forall₂ LooseField.Enforces v.fields fields) {x : Loose}
    {f? : Option (LooseField σ)} (hx : d.ReadsAs node x) (h : v.field? x = .ok f?) :
    Option.Rel LooseField.Enforces f? (d.fieldOf? fields node) := by
  rw [Document.fieldOf?, hx.datumOf?_eq]
  unfold field? at h
  split at h
  · next name =>
    obtain rfl := Except.ok.inj h
    exact rel_find? (fun _ _ hf ↦ hf.1) hv name
  · next i w =>
    obtain rfl := Except.ok.inj h
    exact rel_getElem? hv i
  · cases h

theorem keyed_of_ofEntries (hv : List.Forall₂ LooseField.Enforces v.fields fields)
    {es : List (Node × Node)} {xs : List (Loose × Loose)}
    (hes : List.Forall₂ d.ReadsEntryAs es xs) {seen : List String} {draft : σ} {b : β}
    (h : v.ofEntries seen draft xs = .ok b) :
    ((es.filterMap fun e ↦ d.fieldOf? fields e.1).map (·.1)).Nodup ∧
      (∀ f ∈ es.filterMap fun e ↦ d.fieldOf? fields e.1, f.1 ∉ seen) ∧
      ∀ e ∈ es, ∀ f, d.fieldOf? fields e.1 = some f → d.Keyed f.2 e.2 := by
  induction hes generalizing seen draft with
  | nil => exact ⟨.nil, by simp, by simp⟩
  | @cons e x es xs he _ ih =>
    rw [ofEntries] at h
    obtain ⟨f?, hf, h⟩ := Steps.bind_eq_ok_iff.mp h
    have hrel := rel_field? hv he.1 hf
    rw [List.filterMap_cons]
    cases hfield : d.fieldOf? fields e.1 <;> rw [hfield] at hrel
    case none =>
      obtain rfl : f? = none := by cases hrel; rfl
      obtain ⟨honce, hfresh, hvalues⟩ := ih h
      refine ⟨honce, hfresh, fun e' he' f hf' ↦ ?_⟩
      rcases List.mem_cons.mp he' with rfl | he'
      · exact absurd (hfield.symm.trans hf') (by simp)
      · exact hvalues e' he' f hf'
    case some g =>
      obtain ⟨f, rfl, hname, henforces⟩ : ∃ f, f? = some f ∧ f.Enforces g := by
        cases hrel with
        | some hrel => exact ⟨_, rfl, hrel⟩
      by_cases hseen : seen.contains f.name = true
      · simp only [hseen] at h
        cases h
      · simp only [hseen] at h
        obtain ⟨put, hput, h⟩ := Steps.bind_eq_ok_iff.mp h
        obtain ⟨honce, hfresh, hvalues⟩ := ih h
        refine ⟨?_, fun f' hf' ↦ ?_, fun e' he' f' hf' ↦ ?_⟩
        · refine List.nodup_cons.mpr ⟨fun hmem ↦ ?_, honce⟩
          obtain ⟨f', hf', hname'⟩ := List.mem_map.mp hmem
          exact hfresh f' hf' (hname' ▸ hname ▸ List.mem_cons_self)
        · rcases List.mem_cons.mp hf' with rfl | hf'
          · rw [← hname]
            simpa using hseen
          · exact fun h ↦ hfresh f' hf' (List.mem_cons_of_mem _ h)
        · rcases List.mem_cons.mp he' with rfl | he'
          · obtain rfl := Option.some.inj (hfield.symm.trans hf')
            exact henforces he.2 hput
          · exact hvalues e' he' f' hf'

theorem keyed_of_ofItems {fs : List (LooseField σ)}
    (hfs : List.Forall₂ LooseField.Enforces fs fields) {items : List Node} {xs : List Loose}
    (hitems : List.Forall₂ d.ReadsAs items xs) {i : Nat} {draft : σ} {b : β}
    (h : v.ofItems i draft fs xs = .ok b) :
    items.length ≤ fields.length ∧ ∀ x ∈ items.zip fields, d.Keyed x.2.2 x.1 := by
  induction hfs generalizing items xs i draft with
  | nil =>
    cases hitems with
    | nil => exact ⟨Nat.le_refl _, by simp⟩
    | cons => cases h
  | @cons f g fs fields hf _ ih =>
    cases hitems with
    | nil => exact ⟨Nat.zero_le _, by simp⟩
    | @cons item x items xs hitem hitems =>
      rw [ofItems] at h
      obtain ⟨put, hput, h⟩ := Steps.bind_eq_ok_iff.mp h
      obtain ⟨hfits, hvalues⟩ := ih hitems h
      refine ⟨Nat.succ_le_succ hfits, fun y hy ↦ ?_⟩
      rcases List.mem_cons.mp hy with rfl | hy
      · exact hf.2 hitem hput
      · exact hvalues y hy

theorem enforces_ofLoose (hv : List.Forall₂ LooseField.Enforces v.fields fields) :
    Loose.EnforcesFields v.ofLoose fields where
  mapping _ _ _ _ hes h :=
    have hkeyed := keyed_of_ofEntries hv hes h
    ⟨hkeyed.1, hkeyed.2.2⟩
  sequence _ _ _ _ hitems h := keyed_of_ofItems hv hitems h

end Variant

end

/-! ## The choice -/

section

variable {γ β : Type} {p : Place} {node : Node} {n : Nat} {key title : String}

theorem textOf?_of_pick {choices : List (String × γ)} {x : γ × Nat}
    (h : Reader.pick choices p node n = .ok x) :
    ∃ type, p.document.textOf? node = some type ∧ choices.lookup type = some x.1 := by
  rw [Reader.pick, Place.blame_eq_ok_iff] at h
  obtain ⟨type, k, htype, h⟩ := Read.bind_eq_ok_iff.mp h
  exact ⟨type, textOf?_of_read htype, lookup_of_variantNamed h⟩

theorem Loose.readsAs_of_readItems {depth i : Nat} {expected : String} {items : List Node}
    {x : List Loose × Nat} (h : readItems p (Loose.read depth expected) i items n = .ok x) :
    List.Forall₂ p.document.ReadsAs items x.1 := by
  induction items generalizing i n x with
  | nil =>
    obtain rfl := Read.pure_eq_ok_iff.mp h
    exact .nil
  | cons item items ih =>
    rw [readItems] at h
    obtain ⟨a, k, ha, h⟩ := Read.bind_eq_ok_iff.mp h
    obtain ⟨as, k', has, h⟩ := Read.bind_eq_ok_iff.mp h
    obtain rfl := Read.pure_eq_ok_iff.mp h
    have hitem := Document.readsAs_of_read ha
    exact .cons hitem (ih has)

/-- The key that chooses comes at most once, and all other entries are kept as they are read. -/
theorem entries_of_readEntries_add {choices : List (String × γ)} {depth : Nat} {expected : String}
    {es : List (Node × Node)} {done : Chosen γ} {x : Chosen γ × Nat}
    (h : readEntries p (fun _ ↦ Loose.read depth expected) (Chosen.add choices key depth) es done n
      = .ok x) :
    ∃ (picks : List (String × γ)) (xs : List (Loose × Loose)),
      (es.filter fun e ↦ p.document.isKey key e.1).map (fun e ↦ p.document.textOf? e.2)
        = picks.map (some ·.1) ∧
      (∀ y ∈ picks, choices.lookup y.1 = some y.2) ∧
      x.1.choice.toList = done.choice.toList ++ picks.map (·.2) ∧
      x.1.others = done.others ++ xs ∧
      List.Forall₂ p.document.ReadsEntryAs (es.filter fun e ↦ !p.document.isKey key e.1) xs := by
  induction es generalizing done n with
  | nil =>
    obtain rfl := Read.pure_eq_ok_iff.mp h
    exact ⟨[], [], rfl, by simp, (List.append_nil _).symm, (List.append_nil _).symm, .nil⟩
  | cons e es ih =>
    rw [readEntries] at h
    obtain ⟨k, n₁, hk, h⟩ := Read.bind_eq_ok_iff.mp h
    obtain ⟨next, n₂, hnext, h⟩ := Read.bind_eq_ok_iff.mp h
    obtain ⟨picks, xs, htexts, hpicks, hchoice, hothers, hentries⟩ := ih h
    have hkey := (Document.readsAs_of_read hk).isKey_eq key
    rw [Chosen.add] at hnext
    rw [List.filter_cons, List.filter_cons, hkey]
    cases hbool : k.isText key <;> rw [hbool] at hnext
    case true =>
      obtain ⟨hfirst, hnext⟩ := fail_or_eq_ok hnext
      have hnone : done.choice = none := by simpa using hfirst
      obtain ⟨choice, n₃, hpick, hnext⟩ := Read.bind_eq_ok_iff.mp hnext
      obtain ⟨rfl, -⟩ := Prod.mk.inj (Read.pure_eq_ok_iff.mp hnext)
      obtain ⟨type, htype, hlookup⟩ := textOf?_of_pick hpick
      rw [p.document_value] at htype
      refine ⟨(type, choice) :: picks, xs, ?_, ?_, ?_, hothers, hentries⟩
      · simp [htype, htexts]
      · exact List.forall_mem_cons.mpr ⟨hlookup, hpicks⟩
      · rw [hchoice, hnone]
        rfl
    case false =>
      obtain ⟨value, n₃, hvalue, hnext⟩ := Read.bind_eq_ok_iff.mp hnext
      obtain ⟨rfl, -⟩ := Prod.mk.inj (Read.pure_eq_ok_iff.mp hnext)
      refine ⟨picks, (k, value) :: xs, htexts, hpicks, hchoice, ?_, .cons ⟨?_, ?_⟩ hentries⟩
      · rw [hothers, List.append_assoc]
        rfl
      · exact Document.readsAs_of_read hk
      · exact Document.readsAs_value hvalue

/-- What a choice has been read from is a mapping that says once what to choose, or a sequence that
says it first. -/
theorem Reader.cases_of_chosen {choices : List (String × γ)} {c : γ} {content : Loose} {n' : Nat}
    (h : Reader.chosen title key choices p node n = .ok ((c, content), n')) :
    (∃ tag es closed xs type, p.document.meant node = .mapping tag es closed ∧
      content = .mapping xs ∧ choices.lookup type = some c ∧
      (es.filter fun e ↦ p.document.isKey key e.1).map (fun e ↦ p.document.textOf? e.2)
        = [some type] ∧
      List.Forall₂ p.document.ReadsEntryAs (es.filter fun e ↦ !p.document.isKey key e.1) xs) ∨
    ∃ tag first rest closed xs type, p.document.meant node = .sequence tag (first :: rest) closed ∧
      content = .sequence xs ∧ choices.lookup type = some c ∧
      p.document.textOf? first = some type ∧ List.Forall₂ p.document.ReadsAs rest xs := by
  rw [Reader.chosen, Place.blame_eq_ok_iff] at h
  obtain ⟨m, k, hm, h⟩ := Read.bind_eq_ok_iff.mp h
  obtain rfl := follow_eq_meant hm
  cases hmeant : p.document.meant node <;> rw [hmeant] at h
  case scalar tag text style =>
    obtain ⟨-, h⟩ := fail_or_eq_ok h
    cases hdatum : datum tag text style <;> rw [hdatum] at h <;> exact absurd h fail_ne_ok
  case sequence tag items closed =>
    obtain ⟨-, h⟩ := fail_or_eq_ok h
    obtain ⟨q, k₁, hq, h⟩ := Read.bind_eq_ok_iff.mp h
    cases items with
    | nil =>
      obtain ⟨u, k₂, -, h⟩ := Read.bind_eq_ok_iff.mp h
      exact absurd h fail_ne_ok
    | cons first rest =>
      obtain ⟨choice, k₂, hpick, h⟩ := Read.bind_eq_ok_iff.mp h
      obtain ⟨xs, k₃, hxs, h⟩ := Read.bind_eq_ok_iff.mp h
      obtain ⟨u, k₄, -, h⟩ := Read.bind_eq_ok_iff.mp h
      obtain ⟨hchosen, -⟩ := Prod.mk.inj (Read.pure_eq_ok_iff.mp h)
      obtain ⟨rfl, rfl⟩ := Prod.mk.inj hchosen
      obtain ⟨type, htype, hlookup⟩ := textOf?_of_pick hpick
      have hitems := Loose.readsAs_of_readItems hxs
      rw [← Place.document_enter hq]
      exact .inr ⟨tag, first, rest, closed, xs, type, rfl, rfl, hlookup, htype, hitems⟩
  case mapping tag es closed =>
    obtain ⟨-, h⟩ := fail_or_eq_ok h
    obtain ⟨q, k₁, hq, h⟩ := Read.bind_eq_ok_iff.mp h
    obtain ⟨done, k₂, hdone, h⟩ := Read.bind_eq_ok_iff.mp h
    obtain ⟨u, k₃, -, h⟩ := Read.bind_eq_ok_iff.mp h
    obtain ⟨picks, xs, htexts, hpicks, hchoice, hothers, hentries⟩ :=
      entries_of_readEntries_add hdone
    cases hc : done.choice <;> rw [hc] at h hchoice
    case none => exact absurd h fail_ne_ok
    case some choice =>
      obtain ⟨hchosen, -⟩ := Prod.mk.inj (Read.pure_eq_ok_iff.mp h)
      obtain ⟨rfl, rfl⟩ := Prod.mk.inj hchosen
      obtain ⟨⟨type, c'⟩, rfl, hc'⟩ := List.map_eq_singleton_iff.mp hchoice.symm
      obtain rfl : c' = choice := hc'
      rw [← Place.document_enter hq]
      exact .inl ⟨tag, es, closed, xs, type, rfl, congrArg _ hothers,
        hpicks _ List.mem_cons_self, htexts, hentries⟩
  all_goals exact absurd h fail_ne_ok

/-- A choice between records by a key. -/
theorem Reader.enforces_choice {choices : List (String × (Loose → Except Cause β))}
    {records : List (String × List (String × Schema))}
    (hrecords : List.Forall₂ (fun c r ↦ c.1 = r.1 ∧ Loose.EnforcesFields c.2 r.2) choices records) :
    (Reader.choice title key choices).Enforces (.choice key records) := by
  intro p node n x h
  obtain ⟨⟨c, content⟩, k, hchosen, h⟩ := Read.bind_eq_ok_iff.mp h
  obtain ⟨hread, -⟩ := Loose.lift_eq_ok_iff.mp h
  have hfields {type : String} (hc : choices.lookup type = some c) :
      ∃ fields, records.lookup type = some fields ∧ Loose.EnforcesFields c fields := by
    have hrel := rel_find? (fun _ _ hr ↦ hr.1) hrecords type
    rw [lookup_eq_find?] at hc ⊢
    obtain ⟨y, hy, rfl⟩ := Option.map_eq_some_iff.mp hc
    rw [hy] at hrel
    generalize hr : records.find? (·.1 == type) = r at hrel
    cases hrel with
    | some hrel => exact ⟨_, rfl, hrel.2⟩
  refine .of_meant ?_
  rcases Reader.cases_of_chosen hchosen with
    ⟨tag, es, closed, xs, type, hmeant, rfl, hlookup, hone, hes⟩ |
    ⟨tag, first, rest, closed, xs, type, hmeant, rfl, hlookup, htype, hitems⟩
  · obtain ⟨fields, hrecord, henforces⟩ := hfields hlookup
    obtain ⟨honce, hvalues⟩ := henforces.mapping hes hread
    rw [hmeant]
    refine .choice type fields hrecord hone honce fun e he hkey f hf ↦ ?_
    exact hvalues e (List.mem_filter.mpr ⟨he, by rw [hkey]; rfl⟩) f hf
  · obtain ⟨fields, hrecord, henforces⟩ := hfields hlookup
    obtain ⟨hfits, hvalues⟩ := henforces.sequence hitems hread
    rw [hmeant]
    exact .items type fields hrecord htype hfits hvalues

end

end VersionedSite.Yaml
