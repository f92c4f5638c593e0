import VersionedSite.Liquid.Value
import VersionedSite.Sorting.Stable
import VersionedSite.Text.Case

/-!
# Filters of lists

Most of them want a list and have no value for anything else. Sorting takes any value as a list of
its own, keeps the order of what compares equal, and puts nil last.
-/

namespace VersionedSite.Liquid.Filtering

/-! ## Sorting -/

/-- Nil is after everything, and what has no order is not before anything. -/
def isBefore (v w : Value) : Bool :=
  if v.isNil then false else if w.isNil then true else v.order? w == some .lt

/-- What sorting regardless of case compares: the text in lower case, or nothing for nil. -/
def naturalKey (v : Value) : Option String :=
  if v.isNil then none else some (String.ofList (Text.lower v.chars))

def naturalBefore : Option String → Option String → Bool
  | none, _ => false
  | some _, none => true
  | some a, some b => a < b

/-- Any value as a list. -/
def asItems : Value → List Value
  | .list items => items
  | .nil => []
  | v => [v]

/-- The value of a field of an object. -/
def property? (p : String) (v : Value) : Option Value := v.fields?.bind (Value.field? p)

/-- What items are compared by: the whole item, or the property of it, which only objects have. -/
def sortKeys (property : Option String) (items : List Value) : Option (List (Value × Value)) :=
  match property with
  | none => some (items.map fun v ↦ (v, v))
  | some p =>
    if items.all (·.isObject) then
      some (items.map fun v ↦ ((property? p v).getD .nil, v))
    else none

def sort (v : Value) (property : Option String) : Option Value :=
  (sortKeys property (asItems v)).map fun pairs ↦
    .list ((Sorting.sort (fun a b ↦ isBefore a.1 b.1) pairs).map (·.2))

def sortNatural (v : Value) (property : Option String) : Option Value :=
  (sortKeys property (asItems v)).map fun pairs ↦
    let keyed := pairs.map fun (k, v) ↦ (naturalKey k, v)
    .list ((Sorting.sort (fun a b ↦ naturalBefore a.1 b.1) keyed).map (·.2))

/-! ## Selecting -/

/-- The items without those that are equal to one before them. -/
def distinct : List Value → List Value → List Value
  | kept, [] => kept.reverse
  | kept, v :: rest => distinct (if kept.any (·.eq v) then kept else v :: kept) rest

/-- The items that are not nil, or whose property is there and not nil. -/
def compact (items : List Value) : Option String → Option Value
  | none => some (.list (items.filter fun v ↦ !v.isNil))
  | some p =>
    if items.all (·.isObject) then
      some (.list (items.filter fun v ↦ (property? p v).any fun w ↦ !w.isNil))
    else none

/-- Whether a property has the wanted value, or is true if none is wanted. -/
def hasProperty (p : String) (wanted : Option Value) (v : Value) : Bool :=
  match property? p v, wanted with
  | none, _ => false
  | some w, none => w.isTruthy
  | some w, some target => target.eq w

/-- The objects with a property. A list of anything else gives nil. -/
def whereField (v : Value) (p : String) (wanted : Option Value) : Option Value :=
  match v with
  | .list items =>
    some (if items.all (·.isObject) then .list (items.filter (hasProperty p wanted)) else .nil)
  | .object fields => some (.list ([.object fields].filter (hasProperty p wanted)))
  | _ => none

/-- The values of a property, of the items that have it. -/
def mapField (items : List Value) (p : String) : Value := .list (items.filterMap (property? p))

/-! ## Ends and size -/

/-- The first or last item, or the first or last character of a scalar. -/
def endOf (item : List Value → Option Value) (char : List Char → Option Char) (v : Value) :
    Option Value :=
  match v with
  | .list items => some ((item items).getD .nil)
  | v => if v.isScalar then some (.ofChars (char v.chars).toList) else none

def first : Value → Option Value := endOf List.head? List.head?

def last : Value → Option Value := endOf List.getLast? List.getLast?

/-- Bytes of a text, items of a list, fields of an object. -/
def size : Value → Value
  | .list items => .int items.length
  | .object fields => .int fields.length
  | v => .int v.byteSize

def join (items : List Value) (sep : List Char) : Value :=
  .ofChars (Text.join sep (items.map Value.chars))

end VersionedSite.Liquid.Filtering
