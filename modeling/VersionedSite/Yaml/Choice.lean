import VersionedSite.Yaml.Reader

/-!
# Choices by a type key

A mapping one of whose keys says which of several records the others make up. The key may stand
anywhere, so the whole mapping is read first, into a value without a type, and the record is read
from that value. A value without a type knows no places, and a scalar in it has become a number
or a truth value if it could be read as one; both show in the complaints about such records.
-/

namespace VersionedSite.Yaml

/-- A value without a type. -/
inductive Loose where
  | scalar (d : Datum)
  | sequence (items : List Loose)
  | mapping (entries : List (Loose × Loose))
  deriving Repr

namespace Loose

/-- How a message names a value. -/
def describe : Loose → String
  | .scalar d => d.describe
  | .sequence _ => "sequence"
  | .mapping _ => "map"

/-- A number of more than 64 bits has no place among values without a type. -/
def ofDatum (expected : String) : Datum → Except Cause Loose
  | .natural n .double => .error (.wrongType (Datum.natural n .double).describe expected)
  | .negative n .double => .error (.wrongType (Datum.negative n .double).describe expected)
  | d => .ok (.scalar d)

/-- The value is the given text. -/
def isText (text : String) : Loose → Bool
  | .scalar (.text s) => s == text
  | _ => false

/-- A cause in place of a value. -/
def lift {α : Type} : Except Cause α → Read α
  | .ok a => pure a
  | .error c => fail c

/-- Adds the value of a key to the entries so far. -/
def addWith (r : Reader Loose) (k : Loose) (done : List (Loose × Loose)) :
    Reader (List (Loose × Loose)) := fun p node ↦ do
  let v ← r p node
  pure (done ++ [(k, v)])

/-- Reads any value that carries no tag of its own. The values inside a collection are read by
`inside`, if collections may still be opened. -/
def readWith (inside : Option (Reader Loose)) (expected : String) : Reader Loose :=
  fun p node ↦ p.blame do
    let n ← follow p node
    match n with
    | .void => pure (.scalar .null)
    | .cut | .alias _ => fail .malformed
    | .scalar tag text style =>
      if (variantTag? tag).isSome then fail .taggedValue
      else lift (datum tag text style >>= ofDatum expected)
    | .sequence tag items closed =>
      if (variantTag? tag).isSome then fail .taggedValue
      else match inside with
        | none => fail .tooDeep
        | some r => do
          let items ← readItems p r 0 items
          atEnd closed
          pure (.sequence items)
    | .mapping tag entries closed =>
      if (variantTag? tag).isSome then fail .taggedValue
      else match inside with
        | none => fail .tooDeep
        | some r => do
          let entries ← readEntries p (fun _ ↦ r) (addWith r) entries []
          atEnd closed
          pure (.mapping entries)

/-- Reads any value, with `depth` collections still to open. -/
def read : Nat → String → Reader Loose
  | 0, expected => readWith none expected
  | depth + 1, expected => readWith (some (read depth "any value")) expected

/-! ## Reading a field from a value without a type -/

def string : Loose → Except Cause String
  | .scalar (.text s) => .ok s
  | v => .error (.wrongType v.describe "a string")

def optional {α : Type} (r : Loose → Except Cause α) : Loose → Except Cause (Option α)
  | .scalar .null => .ok none
  | v => some <$> r v

/-- The variant with the given name. -/
def named {α : Type} (variants : List (String × α)) (name : String) : Except Cause α :=
  match variants.find? (·.1 == name) with
  | some (_, a) => .ok a
  | none => .error (.unknownVariant name (variants.map (·.1)))

/-- The variant that a key names or counts to. -/
def variant {α : Type} (variants : List (String × α)) : Loose → Except Cause α
  | .scalar (.text name) => named variants name
  | .scalar (.natural i w) =>
    match variants[i]? with
    | some (_, a) => .ok a
    | none => .error (.wrongValue (Datum.natural i w).describe
        s!"variant index 0 <= i < {variants.length}")
  | v => .error (.wrongType v.describe "variant identifier")

/-- A word, or a mapping from the word to nothing. -/
def oneOf {α : Type} (variants : List (String × α)) : Loose → Except Cause α
  | .scalar (.text name) => named variants name
  | .mapping [(k, v)] => do
    let a ← variant variants k
    match v with
    | .scalar .null | .mapping [] => .ok a
    | v => .error (.wrongType v.describe "unit")
  | .mapping _ => .error (.wrongValue "map" "map with a single key")
  | v => .error (.wrongType v.describe "string or map")

end Loose

/-! ## Variants -/

/-- A field of a variant that is read into drafts of type `σ`. -/
structure LooseField (σ : Type) where
  name : String
  required : Bool
  read : Loose → Except Cause (σ → σ)

/-- A record that a type key can choose. -/
structure Variant (σ β : Type) where
  title : String
  fields : List (LooseField σ)
  draft : σ
  finish : σ → Except Cause β

namespace Variant

variable {σ β : Type}

/-- A count of elements, in words. -/
def elements (n : Nat) : String := if n = 1 then "1 element" else s!"{n} elements"

/-- The field that a key names or counts to; other keys are passed over. A number with a minus sign
is no key, not even zero. -/
def field? (v : Variant σ β) : Loose → Except Cause (Option (LooseField σ))
  | .scalar (.text name) => .ok (v.fields.find? (·.name == name))
  | .scalar (.natural i _) => .ok v.fields[i]?
  | k => .error (.wrongType k.describe "field identifier")

/-- The record from its entries. -/
def ofEntries (v : Variant σ β) : List String → σ → List (Loose × Loose) → Except Cause β
  | _, s, [] => v.finish s
  | seen, s, (k, value) :: rest => do
    match ← v.field? k with
    | none => v.ofEntries seen s rest
    | some f =>
      if seen.contains f.name then .error (.duplicateField f.name)
      else
        let put ← f.read value
        v.ofEntries (f.name :: seen) (put s) rest

/-- The record from the values of its fields in order; the last ones may be left out. -/
def ofItems (v : Variant σ β) : Nat → σ → List (LooseField σ) → List Loose → Except Cause β
  | _, s, [], [] => v.finish s
  | i, _, [], rest =>
    .error (.wrongLength (i + rest.length) (elements i ++ " in sequence"))
  | i, s, f :: fs, [] =>
    if f.required then .error (.wrongLength i s!"{v.title} with {elements v.fields.length}")
    else v.ofItems i s fs []
  | i, s, f :: fs, x :: rest => do
    let put ← f.read x
    v.ofItems (i + 1) (put s) fs rest

/-- The record from what is left of the mapping or sequence without the type. -/
def ofLoose (v : Variant σ β) : Loose → Except Cause β
  | .mapping entries => v.ofEntries [] v.draft entries
  | .sequence items => v.ofItems 0 v.draft v.fields items
  | x => .error (.wrongType x.describe v.title)

end Variant

/-! ## The choice -/

/-- What has been read of a mapping: the choice, once its key has come, and the other entries. -/
structure Chosen (γ : Type) where
  choice : Option γ
  others : List (Loose × Loose)

/-- The choice that a text names. -/
def Reader.pick {γ : Type} (choices : List (String × γ)) : Reader γ := fun p node ↦ p.blame do
  variantNamed choices (← Reader.text "variant identifier" p node)

/-- Adds the value of a key: the key that chooses may come once, and every other entry is kept. -/
def Chosen.add {γ : Type} (choices : List (String × γ)) (key : String) (depth : Nat) (k : Loose)
    (done : Chosen γ) : Reader (Chosen γ) := fun p node ↦
  if k.isText key then
    if done.choice.isSome then fail (.duplicateField key)
    else do
      let choice ← Reader.pick choices p node
      pure { done with choice := some choice }
  else do
    let v ← Loose.read depth "any value" p node
    pure { done with others := done.others ++ [(k, v)] }

/-- A choice between records by the key `key`, and what there is to read it from. As a sequence, the
type comes first and the fields follow in order. -/
def Reader.chosen {γ : Type} (title key : String) (choices : List (String × γ)) :
    Reader (γ × Loose) := fun p node ↦ p.blame do
  match ← follow p node with
  | .void => fail (.wrongType "Option value" title)
  | .cut | .alias _ => fail .malformed
  | .scalar tag text style =>
    if (variantTag? tag).isSome then fail (.wrongType "enum" title)
    else match datum tag text style with
      | .ok d => fail (.wrongType d.describe title)
      | .error c => fail c
  | .sequence tag items closed =>
    if (variantTag? tag).isSome then fail (.wrongType "enum" title)
    else do
      let inner ← p.enter
      match items with
      | [] => do
        atEnd closed
        fail (.missingField key)
      | first :: rest => do
        let choice ← Reader.pick choices { inner with path := .item inner.path 0 } first
        let items ← readItems inner (Loose.read inner.depth "any value") 1 rest
        atEnd closed
        pure (choice, Loose.sequence items)
  | .mapping tag entries closed =>
    if (variantTag? tag).isSome then fail (.wrongType "enum" title)
    else do
      let inner ← p.enter
      let keyTitle := s!"a type tag `{key}` or any other value"
      let done ← readEntries inner (fun _ ↦ Loose.read inner.depth keyTitle)
        (Chosen.add choices key inner.depth) entries ⟨none, []⟩
      atEnd closed
      match done.choice with
      | none => fail (.missingField key)
      | some choice => pure (choice, Loose.mapping done.others)

/-- The record that the key chooses. What is wrong with it is blamed on the place around it. -/
def Reader.choice {β : Type} (title key : String)
    (choices : List (String × (Loose → Except Cause β))) : Reader β := fun p node ↦ do
  let (read, content) ← Reader.chosen title key choices p node
  Loose.lift (read content)

end VersionedSite.Yaml
