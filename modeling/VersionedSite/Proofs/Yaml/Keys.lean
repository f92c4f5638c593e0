import Mathlib.Data.List.Forall2
import VersionedSite.Proofs.Steps
import VersionedSite.Yaml.Reader

/-!
# The keys of a document

A setting that is misspelt, or given a second time, should not vanish without a word. Which keys may
stand in a document is said by a schema, and `Document.Keyed` says that the keys below a node are
those of a schema, at every depth and through all aliases. Nothing in it speaks of readers.

A reader enforces a schema if whatever it accepts is keyed like that. Every way of putting readers
together has one rule here, so a record enforces its schema if its fields do, and no proof about a
record looks into how it is read.
-/

namespace VersionedSite.Yaml

/-! ## Schemas -/

/-- What a place of a document is read as, as far as keys go. -/
inductive Schema where
  /-- A place where no key may stand. -/
  | scalar
  | list (items : Schema)
  /-- A mapping from the names of fields. -/
  | record (fields : List (String × Schema))
  /-- A mapping from free names. -/
  | names (values : Schema)
  /-- One of several words, also as a mapping from the word to nothing. -/
  | word (words : List String)
  /-- One of several records, chosen by what the key says. -/
  | choice (key : String) (records : List (String × List (String × Schema)))

/-! ## Nodes behind aliases -/

/-- The node that an alias means, and any other node itself. -/
def Document.meant (d : Document) : Node → Node
  | .alias slot => d.target slot
  | n => n

/-- The text of a scalar. -/
def Document.textOf? (d : Document) (n : Node) : Option String :=
  match d.meant n with
  | .scalar _ text _ => some text
  | _ => none

/-- The value of a scalar whose type nobody asks for. -/
def Document.datumOf? (d : Document) (n : Node) : Option Datum :=
  match d.meant n with
  | .void => some .null
  | .scalar tag text style =>
    if (variantTag? tag).isSome then none else (datum tag text style).toOption
  | _ => none

/-- The item whose name a value is, or that it counts to. -/
def Datum.among? {α : Type} (name : α → String) (items : List α) : Datum → Option α
  | .text s => items.find? (name · == s)
  | .natural i _ => items[i]?
  | _ => none

/-- The word that a key names or counts to. -/
def Document.wordOf? (d : Document) (words : List String) (key : Node) : Option String :=
  (d.datumOf? key).bind (·.among? id words)

/-- The field that a key names or counts to. -/
def Document.fieldOf? (d : Document) (fields : List (String × Schema)) (key : Node) :
    Option (String × Schema) :=
  (d.datumOf? key).bind (·.among? (·.1) fields)

/-- The key is the given text. -/
def Document.isKey (d : Document) (text : String) (key : Node) : Bool :=
  match d.datumOf? key with
  | some (.text s) => s == text
  | _ => false

/-- Nothing at all: null, or a mapping without entries. -/
def Document.IsNothing (d : Document) (n : Node) : Prop :=
  d.datumOf? n = some .null ∨ ∃ tag closed, d.meant n = .mapping tag [] closed

/-! ## Keys -/

/-- All keys below the node are those of the schema, and no mapping gives a key twice.

Two schemas leave something free. Names are not fixed, and may be given again. Of a record that is
chosen, the key that chooses and every field are given once, and keys that name no field are free,
with all that stands below them. -/
inductive Document.Keyed (d : Document) : Schema → Node → Prop
  | void {s : Schema} : d.Keyed s .void
  | scalar {s : Schema} {tag : Option Tag} {text : String} {style : Style} :
      d.Keyed s (.scalar tag text style)
  | alias {s : Schema} {slot : Nat} (h : d.Keyed s (d.target slot)) : d.Keyed s (.alias slot)
  | list {s : Schema} {tag : Option Tag} {items : List Node} {closed : Bool}
      (items_keyed : ∀ n ∈ items, d.Keyed s n) : d.Keyed (.list s) (.sequence tag items closed)
  | record {fields : List (String × Schema)} {tag : Option Tag} {entries : List (Node × Node)}
      {closed : Bool} (names : List String)
      (keys : entries.map (fun e ↦ d.textOf? e.1) = names.map some)
      (once : names.Nodup) (known : ∀ name ∈ names, name ∈ fields.map (·.1))
      (values : ∀ e ∈ entries, ∀ name s, d.textOf? e.1 = some name →
        fields.lookup name = some s → d.Keyed s e.2) :
      d.Keyed (.record fields) (.mapping tag entries closed)
  | names {s : Schema} {tag : Option Tag} {entries : List (Node × Node)} {closed : Bool}
      (keys : ∀ e ∈ entries, (d.textOf? e.1).isSome = true)
      (values : ∀ e ∈ entries, d.Keyed s e.2) : d.Keyed (.names s) (.mapping tag entries closed)
  | word {words : List String} {tag : Option Tag} {key value : Node} {closed : Bool}
      (known : (d.wordOf? words key).isSome = true) (nothing : d.IsNothing value) :
      d.Keyed (.word words) (.mapping tag [(key, value)] closed)
  | choice {key : String} {records : List (String × List (String × Schema))} {tag : Option Tag}
      {entries : List (Node × Node)} {closed : Bool} (type : String)
      (fields : List (String × Schema)) (chosen : records.lookup type = some fields)
      (one : (entries.filter fun e ↦ d.isKey key e.1).map (fun e ↦ d.textOf? e.2) = [some type])
      (once : (((entries.filter fun e ↦ !d.isKey key e.1).filterMap
        fun e ↦ d.fieldOf? fields e.1).map (·.1)).Nodup)
      (values : ∀ e ∈ entries, d.isKey key e.1 = false → ∀ f,
        d.fieldOf? fields e.1 = some f → d.Keyed f.2 e.2) :
      d.Keyed (.choice key records) (.mapping tag entries closed)
  | items {key : String} {records : List (String × List (String × Schema))} {tag : Option Tag}
      {first : Node} {rest : List Node} {closed : Bool} (type : String)
      (fields : List (String × Schema)) (chosen : records.lookup type = some fields)
      (named : d.textOf? first = some type) (fits : rest.length ≤ fields.length)
      (values : ∀ x ∈ rest.zip fields, d.Keyed x.2.2 x.1) :
      d.Keyed (.choice key records) (.sequence tag (first :: rest) closed)

section

variable {d : Document} {s : Schema} {node : Node}

theorem Document.Keyed.of_meant : ∀ {node : Node}, d.Keyed s (d.meant node) → d.Keyed s node
  | .alias _, h => .alias h
  | .void, h | .cut, h | .scalar .., h | .sequence .., h | .mapping .., h => h

theorem Document.meant_eq_of_textOf? {text : String} (h : d.textOf? node = some text) :
    ∃ tag style, d.meant node = .scalar tag text style := by
  rw [textOf?] at h
  split at h
  · next tag text' style hmeant => exact ⟨tag, style, hmeant ▸ Option.some.inj h ▸ rfl⟩
  · exact absurd h (by simp)

/-- There is no key below a text. -/
theorem Document.Keyed.of_textOf? {text : String} (h : d.textOf? node = some text) :
    d.Keyed s node := by
  obtain ⟨tag, style, hmeant⟩ := meant_eq_of_textOf? h
  exact .of_meant (hmeant ▸ .scalar)

/-- There is no key below a scalar of any type. -/
theorem Document.Keyed.of_datumOf? {x : Datum} (h : d.datumOf? node = some x) :
    d.Keyed s node := by
  refine .of_meant ?_
  rw [datumOf?] at h
  split at h
  · next hmeant => exact hmeant ▸ .void
  · next hmeant => exact hmeant ▸ .scalar
  · exact absurd h (by simp)

end

/-! ## Reading -/

section

variable {α β : Type} {p : Place} {node m : Node} {n n' : Nat}

theorem Read.bind_eq_ok_iff {x : Read α} {f : α → Read β} {r : β × Nat} :
    (x >>= f) n = .ok r ↔ ∃ a k, x n = .ok (a, k) ∧ f a k = .ok r := by
  have hbind : (x >>= f) n = (x n >>= fun r ↦ f r.1 r.2) := rfl
  rw [hbind, Steps.bind_eq_ok_iff, Prod.exists]

theorem Read.map_eq_ok_iff {f : α → β} {x : Read α} {r : β × Nat} :
    (f <$> x) n = .ok r ↔ ∃ a k, x n = .ok (a, k) ∧ (f a, k) = r := by
  have hmap : (f <$> x) n = (x n >>= fun r ↦ .ok (f r.1, r.2)) := rfl
  rw [hmap, Steps.bind_eq_ok_iff, Prod.exists]
  simp only [Except.ok.injEq]

theorem Read.pure_eq_ok_iff {a : α} {r : α × Nat} : (pure a : Read α) n = .ok r ↔ (a, n) = r := by
  have hpure : (pure a : Read α) n = .ok (a, n) := rfl
  rw [hpure, Except.ok.injEq]

theorem fail_ne_ok {c : Cause} {r : α × Nat} : (fail c : Read α) n ≠ .ok r := nofun

theorem fail_or_eq_ok {b : Bool} {c : Cause} {x : Read α} {r : α × Nat}
    (h : (if b = true then fail c else x) n = .ok r) : b = false ∧ x n = .ok r := by
  cases b with
  | true => exact absurd h (fail_ne_ok (n := n))
  | false => exact ⟨rfl, h⟩

/-- Blaming changes faults alone. -/
theorem Place.blame_eq_ok_iff {r : Read α} {x : α × Nat} :
    p.blame r n = .ok x ↔ r n = .ok x := Steps.mapError_eq_ok_iff

theorem follow_eq_meant (h : follow p node n = .ok (m, n')) : m = p.document.meant node := by
  match node, h with
  | .alias slot, h =>
    simp only [follow] at h
    split at h
    · exact absurd h (by simp)
    · exact (Prod.mk.inj (Except.ok.inj h)).1.symm
  | .void, h | .cut, h | .scalar .., h | .sequence .., h | .mapping .., h =>
    exact (Prod.mk.inj (Except.ok.inj h)).1.symm

/-- Inside a collection the document is the same. -/
theorem Place.document_enter {q : Place} (h : p.enter n = .ok (q, n')) :
    q.document = p.document := by
  rw [enter] at h
  cases hdepth : p.depth <;> rw [hdepth] at h
  case zero => exact absurd h fail_ne_ok
  case succ depth =>
    obtain ⟨rfl, -⟩ := Prod.mk.inj (Read.pure_eq_ok_iff.mp h)
    rfl

theorem Place.document_value (p : Place) (key : Node) : (p.value key).document = p.document := by
  cases key <;> rfl

theorem lookup_eq_find? (l : List (String × α)) (name : String) :
    l.lookup name = (l.find? (·.1 == name)).map (·.2) := by
  induction l with
  | nil => rfl
  | cons x l ih =>
    rw [List.lookup_cons, List.find?_cons, BEq.comm (a := name)]
    cases x.1 == name with
    | true => rfl
    | false => exact ih

/-- Of two lists with the same names, the first items of a name are related if all items are. -/
theorem rel_find? {R : α → β → Prop} {f : α → String} {g : β → String}
    (hR : ∀ a b, R a b → f a = g b) {l : List α} {l' : List β} (h : List.Forall₂ R l l')
    (name : String) : Option.Rel R (l.find? (f · == name)) (l'.find? (g · == name)) := by
  induction h with
  | nil => exact .none
  | @cons a b l l' hab _ ih =>
    rw [List.find?_cons, List.find?_cons, hR a b hab]
    cases g b == name with
    | true => exact .some hab
    | false => exact ih

theorem rel_getElem? {R : α → β → Prop} {l : List α} {l' : List β} (h : List.Forall₂ R l l')
    (i : Nat) : Option.Rel R l[i]? l'[i]? := by
  induction h generalizing i with
  | nil => exact .none
  | cons hab _ ih =>
    cases i with
    | zero => exact .some hab
    | succ i => exact ih i

theorem lookup_of_variantNamed {variants : List (String × α)} {name : String} {x : α × Nat}
    (h : variantNamed variants name n = .ok x) : variants.lookup name = some x.1 := by
  rw [variantNamed] at h
  rw [lookup_eq_find?]
  cases hfind : variants.find? (·.1 == name) <;> rw [hfind] at h
  case none => exact absurd h fail_ne_ok
  case some v =>
    obtain rfl := Read.pure_eq_ok_iff.mp h
    rfl

end

/-! ## Readers -/

section

variable {α β σ : Type} {p : Place} {node : Node} {n n' : Nat} {r : Reader α} {s : Schema}

/-- Whatever the reader accepts is keyed like the schema. -/
def Reader.Enforces (r : Reader α) (s : Schema) : Prop :=
  ∀ ⦃p : Place⦄ ⦃node : Node⦄ ⦃n : Nat⦄ ⦃x : α × Nat⦄, r p node n = .ok x → p.document.Keyed s node

theorem textOf?_of_read {expected text : String}
    (h : Reader.text expected p node n = .ok (text, n')) : p.document.textOf? node = some text := by
  rw [Reader.text, Place.blame_eq_ok_iff] at h
  obtain ⟨m, k, hm, h⟩ := Read.bind_eq_ok_iff.mp h
  obtain rfl := follow_eq_meant hm
  rw [Document.textOf?]
  cases hmeant : p.document.meant node <;> rw [hmeant] at h
  case scalar tag text' style =>
    obtain ⟨rfl, -⟩ := Prod.mk.inj (Read.pure_eq_ok_iff.mp h)
    rfl
  all_goals exact absurd h fail_ne_ok

namespace Reader

theorem enforces_string : Reader.string.Enforces s := fun _ _ _ _ h ↦
  .of_textOf? (textOf?_of_read h)

theorem enforces_checked {check : String → Except String α} : (checked check).Enforces s := by
  intro p node n x h
  obtain ⟨text, k, htext, -⟩ := Read.bind_eq_ok_iff.mp h
  exact .of_textOf? (textOf?_of_read htext)

theorem enforces_bool : Reader.bool.Enforces s := by
  intro p node n x h
  rw [Reader.bool, Place.blame_eq_ok_iff] at h
  obtain ⟨m, k, hm, h⟩ := Read.bind_eq_ok_iff.mp h
  obtain rfl := follow_eq_meant hm
  refine .of_meant ?_
  cases hmeant : p.document.meant node <;> rw [hmeant] at h
  case scalar => exact .scalar
  all_goals exact absurd h fail_ne_ok

theorem enforces_optional (hr : r.Enforces s) : (optional r).Enforces s := by
  intro p node n x h
  obtain ⟨m, k, hm, h⟩ := Read.bind_eq_ok_iff.mp h
  obtain rfl := follow_eq_meant hm
  refine .of_meant ?_
  cases hmeant : p.document.meant node <;> rw [hmeant] at h
  case void => exact .void
  case scalar => exact .scalar
  -- whatever may not be null is read as it would be without the option
  all_goals
    obtain ⟨a, k', ha, -⟩ := Read.map_eq_ok_iff.mp h
    exact hr ha

/-- A word is no mapping here, so it has no keys. -/
theorem enforces_oneOf {variants : List (String × α)} : (oneOf variants).Enforces s := by
  intro p node n x h
  obtain ⟨m, k, hm, h⟩ := Read.bind_eq_ok_iff.mp h
  obtain rfl := follow_eq_meant hm
  refine .of_meant ?_
  cases hmeant : p.document.meant node <;> rw [hmeant] at h
  case scalar => exact .scalar
  case sequence tag _ _ | mapping tag _ _ =>
    -- the tag may name a variant, but a collection is never the unit that follows it
    dsimp only at h
    cases htag : variantTag? tag with
    | none =>
      rw [htag] at h
      exact absurd (Place.blame_eq_ok_iff.mp h) fail_ne_ok
    | some name =>
      rw [htag] at h
      obtain ⟨_, _, -, h'⟩ := Read.bind_eq_ok_iff.mp h
      exact absurd (Place.blame_eq_ok_iff.mp h') fail_ne_ok
  all_goals exact absurd h fail_ne_ok

/-! ### Collections -/

theorem keyed_of_readItems (hr : r.Enforces s) {i : Nat} {items : List Node} {x : List α × Nat}
    (h : readItems p r i items n = .ok x) : ∀ m ∈ items, p.document.Keyed s m := by
  induction items generalizing i n x with
  | nil => exact fun m hm ↦ absurd hm List.not_mem_nil
  | cons item items ih =>
    rw [readItems] at h
    obtain ⟨a, k, ha, h⟩ := Read.bind_eq_ok_iff.mp h
    obtain ⟨as, k', has, -⟩ := Read.bind_eq_ok_iff.mp h
    intro m hm
    rcases List.mem_cons.mp hm with rfl | hm
    · have hitem := hr ha
      exact hitem
    · exact ih has m hm

theorem enforces_list (hr : r.Enforces s) : (list r).Enforces (.list s) := by
  intro p node n x h
  rw [Reader.list, Place.blame_eq_ok_iff] at h
  obtain ⟨m, k, hm, h⟩ := Read.bind_eq_ok_iff.mp h
  obtain rfl := follow_eq_meant hm
  refine .of_meant ?_
  cases hmeant : p.document.meant node <;> rw [hmeant] at h
  case void => exact .void
  case scalar => exact .scalar
  case sequence tag items closed =>
    obtain ⟨q, k', hq, h⟩ := Read.bind_eq_ok_iff.mp h
    obtain ⟨as, k'', has, -⟩ := Read.bind_eq_ok_iff.mp h
    rw [← Place.document_enter hq]
    exact .list (keyed_of_readItems hr has)
  all_goals exact absurd h fail_ne_ok

section

variable {β : Type} {expected : String} {start : σ} {key : σ → Reader α}
  {value : α → σ → Reader σ} {finish : σ → Read β}

/-- What is read by entries has none, or they have been read one by one. -/
theorem readEntries_of_entries {x : β × Nat}
    (h : entries expected start key value finish p node n = .ok x) :
    (∀ s, p.document.Keyed s node) ∨
      ∃ tag es closed q k y, p.document.meant node = .mapping tag es closed ∧
        q.document = p.document ∧ readEntries q key value es start k = .ok y := by
  rw [entries, Place.blame_eq_ok_iff] at h
  obtain ⟨m, k, hm, h⟩ := Read.bind_eq_ok_iff.mp h
  obtain rfl := follow_eq_meant hm
  cases hmeant : p.document.meant node <;> rw [hmeant] at h
  case void => exact .inl fun s ↦ .of_meant (hmeant ▸ .void)
  case scalar => exact .inl fun s ↦ .of_meant (hmeant ▸ .scalar)
  case mapping tag es closed =>
    obtain ⟨q, k', hq, h⟩ := Read.bind_eq_ok_iff.mp h
    obtain ⟨a, k'', ha, -⟩ := Read.bind_eq_ok_iff.mp h
    exact .inr ⟨tag, es, closed, q, k', _, rfl, Place.document_enter hq, ha⟩
  all_goals exact absurd h fail_ne_ok

end

/-- A mapping from free names. -/
theorem enforces_names {start : σ} {value : String → σ → Reader σ} {finish : σ → Read β}
    {expected : String} (hvalue : ∀ name done, (value name done).Enforces s) :
    (entries expected start (fun _ ↦ .string) value finish).Enforces (.names s) := by
  intro p node n x h
  rcases readEntries_of_entries h with h | ⟨tag, es, closed, q, k, y, hmeant, hq, hes⟩
  · exact h _
  · have hkeyed : ∀ e ∈ es, (q.document.textOf? e.1).isSome = true ∧ q.document.Keyed s e.2 := by
      clear h hmeant
      induction es generalizing start k with
      | nil => exact fun e he ↦ absurd he List.not_mem_nil
      | cons e es ih =>
        rw [readEntries] at hes
        obtain ⟨name, k', hname, hes⟩ := Read.bind_eq_ok_iff.mp hes
        obtain ⟨done, k'', hdone, hes⟩ := Read.bind_eq_ok_iff.mp hes
        intro e' he'
        rcases List.mem_cons.mp he' with rfl | he'
        · refine ⟨by rw [textOf?_of_read hname]; rfl, ?_⟩
          rw [← q.document_value]
          exact hvalue name start hdone
        · exact ih _ hes e' he'
    refine .of_meant ?_
    rw [hmeant, ← hq]
    exact .names (fun e he ↦ (hkeyed e he).1) fun e he ↦ (hkeyed e he).2

end Reader

/-! ### Records -/

/-- The field goes by the name, and its reader enforces the schema. -/
def Field.Enforces (f : Field σ) (x : String × Schema) : Prop := f.name = x.1 ∧ f.read.Enforces x.2

theorem Field.enforces_set {name : String} {put : α → σ → σ} (hr : r.Enforces s) :
    (Field.set name r put).Enforces (name, s) := by
  refine ⟨rfl, fun p node n x h ↦ ?_⟩
  obtain ⟨a, k, ha, -⟩ := Read.map_eq_ok_iff.mp h
  exact hr ha

section

variable {fields : List (Field σ)} {schemas : List (String × Schema)}

/-- The field of a name enforces the schema of the name. -/
theorem Field.enforces_of_find? (hfields : List.Forall₂ Field.Enforces fields schemas)
    {name : String} {f : Field σ} (hf : fields.find? (·.name == name) = some f) :
    f.name = name ∧ name ∈ schemas.map (·.1) ∧
      ∀ t, schemas.lookup name = some t → f.read.Enforces t := by
  have hrel := rel_find? (fun _ _ hfx ↦ hfx.1) hfields name
  rw [hf] at hrel
  rw [lookup_eq_find?]
  cases hx : schemas.find? (·.1 == name) <;> rw [hx] at hrel
  case none => cases hrel
  case some x =>
    obtain ⟨hname, henforces⟩ : f.Enforces x := by cases hrel; assumption
    have hxname : x.1 = name := by simpa using List.find?_some hx
    refine ⟨hname.trans hxname, ?_, fun t ht ↦ Option.some.inj ht ▸ henforces⟩
    exact hxname ▸ List.mem_map_of_mem (List.mem_of_find?_eq_some hx)

theorem find?_of_fieldKey {x : Field σ × Nat} (h : fieldKey fields p node n = .ok x) :
    ∃ name, p.document.textOf? node = some name ∧ fields.find? (·.name == name) = some x.1 := by
  rw [fieldKey, Place.blame_eq_ok_iff] at h
  obtain ⟨name, k, hname, h⟩ := Read.bind_eq_ok_iff.mp h
  refine ⟨name, textOf?_of_read hname, ?_⟩
  rw [fieldNamed] at h
  cases hfind : fields.find? (·.name == name) <;> rw [hfind] at h
  case none => exact absurd h fail_ne_ok
  case some f => rw [← Read.pure_eq_ok_iff.mp h]

/-- A value is read if its field has not been seen, and then it has. -/
theorem read_of_fieldValue {f : Field σ} {seen : List String} {draft : σ}
    {x : (List String × σ) × Nat} (h : fieldValue f (seen, draft) p node n = .ok x) :
    f.name ∉ seen ∧ x.1.1 = f.name :: seen ∧ ∃ k y, f.read p node k = .ok y := by
  rw [fieldValue] at h
  by_cases hseen : seen.contains f.name = true
  · rw [if_pos hseen] at h
    obtain ⟨_, _, h', -⟩ := Read.bind_eq_ok_iff.mp h
    exact absurd h' fail_ne_ok
  · rw [if_neg hseen] at h
    obtain ⟨put, k, hput, h⟩ := Read.bind_eq_ok_iff.mp h
    rw [← Read.pure_eq_ok_iff.mp h]
    exact ⟨by simpa using hseen, rfl, _, _, hput⟩

/-- The keys of a record, where the fields that have been seen may not come again. -/
theorem keys_of_readEntries (hfields : List.Forall₂ Field.Enforces fields schemas)
    {es : List (Node × Node)} {seen : List String} {draft : σ} {x : (List String × σ) × Nat}
    (h : readEntries p (fun _ ↦ fieldKey fields) fieldValue es (seen, draft) n = .ok x) :
    ∃ names : List String, es.map (fun e ↦ p.document.textOf? e.1) = names.map some ∧
      names.Nodup ∧ (∀ name ∈ names, name ∉ seen ∧ name ∈ schemas.map (·.1)) ∧
      ∀ e ∈ es, ∀ name t, p.document.textOf? e.1 = some name → schemas.lookup name = some t →
        p.document.Keyed t e.2 := by
  induction es generalizing seen draft n with
  | nil => exact ⟨[], rfl, .nil, by simp, by simp⟩
  | cons e es ih =>
    rw [readEntries] at h
    obtain ⟨f, k, hf, h⟩ := Read.bind_eq_ok_iff.mp h
    obtain ⟨⟨seen', draft'⟩, k', hread, h⟩ := Read.bind_eq_ok_iff.mp h
    obtain ⟨name, htext, hfind⟩ := find?_of_fieldKey hf
    obtain ⟨hnew, hseen, k'', y, hy⟩ := read_of_fieldValue hread
    obtain ⟨hname, hknown, henforces⟩ := Field.enforces_of_find? hfields hfind
    obtain rfl : seen' = f.name :: seen := hseen
    obtain ⟨names, hkeys, honce, hfresh, hvalues⟩ := ih h
    refine ⟨name :: names, ?_, ?_, fun name' hmem ↦ ?_, fun e' he' name' t htext' ht ↦ ?_⟩
    · rw [List.map_cons, List.map_cons, htext, hkeys]
    · refine List.nodup_cons.mpr ⟨fun hmem ↦ ?_, honce⟩
      exact (hfresh name hmem).1 (hname ▸ List.mem_cons_self)
    · rcases List.mem_cons.mp hmem with rfl | hmem
      · exact ⟨hname ▸ hnew, hknown⟩
      · exact ⟨fun h ↦ (hfresh name' hmem).1 (List.mem_cons_of_mem _ h), (hfresh name' hmem).2⟩
    · rcases List.mem_cons.mp he' with rfl | he'
      · obtain rfl := Option.some.inj (htext.symm.trans htext')
        rw [← p.document_value]
        exact henforces t ht hy
      · exact hvalues e' he' name' t htext' ht

theorem Reader.enforces_record {name : String} {draft : σ} {finish : σ → Except Cause β}
    (hfields : List.Forall₂ Field.Enforces fields schemas) :
    (record name fields draft finish).Enforces (.record schemas) := by
  intro p node n x h
  rcases readEntries_of_entries h with h | ⟨tag, es, closed, q, k, y, hmeant, hq, hes⟩
  · exact h _
  · obtain ⟨names, hkeys, honce, hknown, hvalues⟩ := keys_of_readEntries hfields hes
    refine .of_meant ?_
    rw [hmeant, ← hq]
    exact .record names hkeys honce (fun name hname ↦ (hknown name hname).2) hvalues

theorem Reader.enforces_defaulted {name : String} {default : σ}
    (hfields : List.Forall₂ Field.Enforces fields schemas) :
    (defaulted name fields default).Enforces (.record schemas) := enforces_record hfields

end

/-! ### Whole documents -/

/-- What is read from a text has been read from a document with the keys of the schema. -/
theorem Reader.Enforces.keyed_of_run {a : α} {text : String} (hr : r.Enforces s)
    (h : r.run text = .ok a) : (Document.ofText text).Keyed s (Document.ofText text).root := by
  rw [run] at h
  cases hread : r ⟨Document.ofText text, .root, depthLimit⟩ (Document.ofText text).root 0 with
  | error f =>
    simp only [hread] at h
    cases h
  | ok x => exact hr hread

end

end VersionedSite.Yaml
