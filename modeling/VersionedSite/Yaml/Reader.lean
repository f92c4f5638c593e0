import VersionedSite.Yaml.Node
import VersionedSite.Yaml.Fault

/-!
# Readers

A reader turns a node into a value of some type or finds a fault. Readers of records are given by
the fields of the record; each entry is read where it stands in the document, so of two faults the
one that comes first is reported.

Two limits keep a small document from standing for a huge value: collections nest 128 deep at
most, and aliases are followed a hundred times as often, at most, as the document has nodes. The
first makes every recursion over a document structural; for the second a reader counts.
-/

namespace VersionedSite.Yaml

/-- What a reader knows of the place where it reads. -/
structure Place where
  document : Document
  path : Path
  /-- How many collections may still be opened. -/
  depth : Nat

/-- Reading counts the aliases that have been followed. -/
abbrev Read (α : Type) := StateT Nat (Except Fault) α

def Reader (α : Type) := Place → Node → Read α

/-- A fault without a place. -/
def fail {α : Type} (c : Cause) : Read α := fun _ ↦ .error ⟨c, none⟩

/-- Blames the faults of `r` on the place. -/
def Place.blame {α : Type} (p : Place) (r : Read α) : Read α :=
  fun n ↦ (r n).mapError (·.blame p.path)

/-- The node that an alias means, and any other node itself. -/
def follow (p : Place) : Node → Read Node
  | .alias slot => fun n ↦
    if n + 1 > p.document.size * 100 then .error ⟨.tooManyAliases, none⟩
    else .ok (p.document.target slot, n + 1)
  | node => pure node

/-- The place inside a collection. -/
def Place.enter (p : Place) : Read Place :=
  match p.depth with
  | 0 => fail .tooDeep
  | d + 1 => pure { p with depth := d }

/-! ## Scalars -/

/-- The name of a tag that selects a variant. -/
def variantTag? (tag : Option Tag) : Option String := tag.bind Tag.name?

/-- The value of a scalar, by its tag and style. -/
def datum (tag : Option Tag) (text : String) (style : Style) : Except Cause Datum :=
  let wrong := fun expected ↦ .error (.wrongValue s!"string {Text.quoted text}" expected)
  match tag with
  | none => .ok (if style = .plain then .ofPlain text else .text text)
  | some t =>
    if t = Tag.core "bool" then
      match readBool? text with
      | some b => .ok (.bool b)
      | none => wrong "a boolean"
    else if t = Tag.core "int" then
      match readInteger? text.toList with
      | some d => .ok d
      | none => wrong "an integer"
    else if t = Tag.core "float" then
      match readFraction? text.toList with
      | some x => .ok (.float x)
      | none => wrong "a float"
    else if t = Tag.core "null" then
      if isNullWord text then .ok .null else wrong "null"
    else if t.isOwn && style = .plain then .ok (.ofPlain text)
    else .ok (.text text)

/-- The cause for a node where something else is expected. -/
def unexpected (expected : String) : Node → Cause
  | .void => .endOfInput
  | .cut | .alias _ => .malformed
  | .sequence .. => .wrongType "sequence" expected
  | .mapping .. => .wrongType "map" expected
  | .scalar tag text style =>
    match datum tag text style with
    | .ok d => .wrongType d.describe expected
    | .error c => c

/-- Any scalar, as it is written. -/
def Reader.text (expected : String) : Reader String := fun p node ↦ p.blame do
  match ← follow p node with
  | .scalar _ text _ => pure text
  | n => fail (unexpected expected n)

/-- A text field. -/
def Reader.string : Reader String := Reader.text "a string"

/-- A text that has to pass a check. -/
def Reader.checked {α : Type} (check : String → Except String α) : Reader α := fun p node ↦ do
  let text ← Reader.string p node
  match check text with
  | .ok a => pure a
  | .error why => fail (.refused why)

/-- A truth value, which may carry any tag but no quotes. -/
def Reader.bool : Reader Bool := fun p node ↦ p.blame do
  let n ← follow p node
  match n with
  | .scalar tag text style =>
    let bare := style = .plain || (style = .literal && tag = some (Tag.core "bool"))
    match if bare then readBool? text else none with
    | some b => pure b
    | none => fail (unexpected "a boolean" n)
  | _ => fail (unexpected "a boolean" n)

/-- A value that may be null. -/
def Reader.optional {α : Type} (r : Reader α) : Reader (Option α) := fun p node ↦ do
  let n ← follow p node
  match n with
  | .void => pure none
  | .scalar tag text .plain =>
    match tag with
    | some t =>
      if t = Tag.core "null" then
        if isNullWord text then pure none
        else fail (.wrongValue s!"string {Text.quoted text}" "null")
      else some <$> r p n
    | none => if text.isEmpty || isNullWord text then pure none else some <$> r p n
  | _ => some <$> r p n

/-- The variant with the given name. -/
def variantNamed {α : Type} (variants : List (String × α)) (name : String) : Read α :=
  match variants.find? (·.1 == name) with
  | some (_, a) => pure a
  | none => fail (.unknownVariant name (variants.map (·.1)))

/-- The content of a variant that has none, after a tag: it may only be null. -/
def noContent (p : Place) (text : String) (style : Style) : Read Unit := p.blame do
  if style = .plain && (text.isEmpty || isNullWord text) then pure ()
  else fail (.wrongValue s!"string {Text.quoted text}" "null")

/-- One of several words, written as a scalar or as a tag. A word that is no variant is blamed on
its own place if it is a scalar, and on the place around it if it is a tag. -/
def Reader.oneOf {α : Type} (variants : List (String × α)) : Reader α := fun p node ↦ do
  let expected := "a YAML tag starting with '!'"
  let collection := fun (tag : Option Tag) (found : String) ↦
    match variantTag? tag with
    | none => p.blame (fail (.wrongType found expected))
    | some name => do
      let _ ← variantNamed variants name
      p.blame (fail (.wrongType found "unit"))
  match ← follow p node with
  | .scalar tag text style =>
    match variantTag? tag with
    | none => p.blame (variantNamed variants text)
    | some name => do
      let a ← variantNamed variants name
      noContent p text style
      pure a
  | .sequence tag _ _ => collection tag "sequence"
  | .mapping tag _ _ => collection tag "map"
  | n => fail (unexpected expected n)

/-! ## Collections -/

/-- The end of a collection, which a cut-off document does not have. -/
def atEnd (closed : Bool) : Read Unit := if closed then pure () else fail .malformed

/-- Reads the items from number `i` on. -/
def readItems {α : Type} (p : Place) (r : Reader α) : Nat → List Node → Read (List α)
  | _, [] => pure []
  | i, n :: rest => do
    let a ← r { p with path := .item p.path i } n
    let more ← readItems p r (i + 1) rest
    pure (a :: more)

/-- The list of a sequence's items. Nothing at all is the empty sequence. -/
def Reader.list {α : Type} (r : Reader α) : Reader (List α) := fun p node ↦ p.blame do
  match ← follow p node with
  | .sequence _ items closed => do
    let inner ← p.enter
    let as ← readItems inner r 0 items
    atEnd closed
    pure as
  | .void => pure []
  | .scalar tag text style =>
    if text.isEmpty && style = .plain then pure []
    else fail (unexpected "a sequence" (.scalar tag text style))
  | n => fail (unexpected "a sequence" n)

/-- The place of an entry's value. -/
def Place.value (p : Place) : Node → Place
  | .scalar _ name _ => { p with path := .field p.path name }
  | _ => { p with path := .unnamed p.path }

/-- Reads the entries in order, each into the value made of those before it. -/
def readEntries {α σ : Type} (p : Place) (key : σ → Reader α) (value : α → σ → Reader σ) :
    List (Node × Node) → σ → Read σ
  | [], s => pure s
  | (k, v) :: rest, s => do
    let a ← key s p k
    let s ← value a s (p.value k) v
    readEntries p key value rest s

/-- The entries of a mapping, read into `start`. Nothing at all is the empty mapping. -/
def Reader.entries {α σ β : Type} (expected : String) (start : σ) (key : σ → Reader α)
    (value : α → σ → Reader σ) (finish : σ → Read β) : Reader β := fun p node ↦ p.blame do
  match ← follow p node with
  | .mapping _ entries closed => do
    let inner ← p.enter
    let s ← readEntries inner key value entries start
    atEnd closed
    finish s
  | .void => finish start
  | .scalar tag text style =>
    if text.isEmpty && style = .plain then finish start
    else fail (unexpected expected (.scalar tag text style))
  | n => fail (unexpected expected n)

/-! ## Records -/

/-- A field of a record that is read into drafts of type `σ`. -/
structure Field (σ : Type) where
  name : String
  read : Reader (σ → σ)

/-- A field whose reader gives the new value of a component. -/
def Field.set {σ α : Type} (name : String) (r : Reader α) (put : α → σ → σ) : Field σ :=
  ⟨name, fun p n ↦ put <$> r p n⟩

/-- The field that a key names, which must not have been given before. -/
def fieldNamed {σ : Type} (fields : List (Field σ)) (name : String) : Read (Field σ) :=
  match fields.find? (·.name == name) with
  | some f => pure f
  | none => fail (.unknownField name (fields.map (·.name)))

/-- The field that a key of a record names. -/
def fieldKey {σ : Type} (fields : List (Field σ)) : Reader (Field σ) := fun p n ↦ p.blame do
  fieldNamed fields (← Reader.text "field identifier" p n)

/-- The draft of a record after the value of a field, and the names of the fields so far. -/
def fieldValue {σ : Type} (f : Field σ) : List String × σ → Reader (List String × σ) :=
  fun (seen, draft) p n ↦ do
    if seen.contains f.name then fail (.duplicateField f.name)
    let put ← f.read p n
    pure (f.name :: seen, put draft)

/-- A record: each key names a field, and no field is given twice. The draft becomes a value in
the end, or a field is missing. -/
def Reader.record {σ β : Type} (name : String) (fields : List (Field σ)) (draft : σ)
    (finish : σ → Except Cause β) : Reader β :=
  Reader.entries s!"struct {name}" (([] : List String), draft) (fun _ ↦ fieldKey fields) fieldValue
    (fun (_, draft) ↦
      match finish draft with
      | .ok b => pure b
      | .error c => fail c)

/-- A record all of whose fields have defaults. -/
def Reader.defaulted {σ : Type} (name : String) (fields : List (Field σ)) (default : σ) :
    Reader σ :=
  Reader.record name fields default .ok

/-- A component that has no default. -/
def require {α : Type} (name : String) : Option α → Except Cause α
  | some a => .ok a
  | none => .error (.missingField name)

/-! ## Whole documents -/

/-- How deep collections nest. -/
def depthLimit : Nat := 128

/-- Reads the text as one document with one value. -/
def Reader.run {α : Type} (r : Reader α) (text : String) : Except Fault α :=
  let d := Document.ofText text
  match r ⟨d, .root, depthLimit⟩ d.root 0 with
  | .error f => .error f
  | .ok (a, _) => if d.whole then .ok a else .error ⟨.malformed, none⟩

end VersionedSite.Yaml
