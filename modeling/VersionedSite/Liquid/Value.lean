import VersionedSite.Decimal.Shortest
import VersionedSite.Decimal.Numeral
import VersionedSite.Text.Blank
import VersionedSite.Text.Search
import VersionedSite.Value

/-!
# Values of templates

What a template computes with. Scalars are truth values, whole numbers, fractions and texts; two
further literals, `empty` and `blank`, stand for a state that other values may be in. Every value
has a text, which is what an output prints.

Comparisons are lenient: numbers of the two kinds compare by size, a truth value is equal to
whatever has that truth, and two values that have no order are neither below nor above each other.
-/

namespace VersionedSite.Liquid

inductive Value where
  | nil
  | empty
  | blank
  | bool (b : Bool)
  | int (i : Int)
  | float (x : Float)
  | text (s : String)
  | list (items : List Value)
  | object (fields : List (String × Value))
  deriving Inhabited

namespace Value

/-! ## Texts -/

mutual

/-- The text that an output prints. Nothing stands between the parts of a list or an object. -/
def chars : Value → List Char
  | nil | empty | blank => []
  | bool true => ['t', 'r', 'u', 'e']
  | bool false => ['f', 'a', 'l', 's', 'e']
  | int i => (toString i).toList
  | float x => (Decimal.positional x).toList
  | text s => s.toList
  | list items => charsOfItems items
  | object fields => charsOfFields fields

def charsOfItems : List Value → List Char
  | [] => []
  | v :: rest => v.chars ++ charsOfItems rest

def charsOfFields : List (String × Value) → List Char
  | [] => []
  | (k, v) :: rest => k.toList ++ v.chars ++ charsOfFields rest

end

def ofChars (s : List Char) : Value := text (String.ofList s)

/-- Bytes of a text, which is what its size counts. -/
def byteSize (v : Value) : Nat := Text.byteCount v.chars

/-! ## Kinds -/

def isNil : Value → Bool
  | nil => true
  | _ => false

def isScalar : Value → Bool
  | bool _ | int _ | float _ | text _ => true
  | _ => false

def items? : Value → Option (List Value)
  | list items => some items
  | _ => none

def fields? : Value → Option (List (String × Value))
  | object fields => some fields
  | _ => none

def isObject (v : Value) : Bool := v.fields?.isSome

/-- The value of a field. -/
def field? (k : String) (fields : List (String × Value)) : Option Value :=
  (fields.find? (·.1 == k)).map (·.2)

/-- Whole numbers have sixty-four bits. -/
def fitsWord (i : Int) : Bool :=
  decide (-9223372036854775808 ≤ i) && decide (i < 9223372036854775808)

/-- A whole number, or a text that is a numeral of one. -/
def toInt? : Value → Option Int
  | int i => some i
  | text s => (Decimal.readInt? s.toList).filter fitsWord
  | _ => none

/-- A number, or a text that is a numeral. -/
def toFloat? : Value → Option Float
  | int i => some (Float.ofInt i)
  | float x => some x
  | text s => Decimal.readFloat? s.toList
  | _ => none

/-! ## States -/

/-- Everything is true but nil, false and the names of states. -/
def isTruthy : Value → Bool
  | nil | empty | blank | bool false => false
  | _ => true

/-- Nothing in it: nil, and the empty text, list and object. -/
def isEmpty : Value → Bool
  | nil | empty | blank => true
  | text s => s.toList.isEmpty
  | list items => items.isEmpty
  | object fields => fields.isEmpty
  | _ => false

/-- Empty or false. -/
def isAbsent : Value → Bool
  | bool false => true
  | v => v.isEmpty

/-- Absent, or a text of blanks alone. -/
def isBlank : Value → Bool
  | text s => Text.allBlank s.toList
  | v => v.isAbsent

/-! ## Members -/

/-- The item at a place; places below zero count from the end. -/
def itemAt? (items : List Value) (i : Int) : Option Value :=
  let place := if 0 ≤ i then i else i + items.length
  if 0 ≤ place then items[place.toNat]? else none

/-- The member of a value that a scalar index names. -/
def member? (v index : Value) : Option Value :=
  match v with
  | list items =>
    match index.toInt? with
    | some i => itemAt? items i
    | none =>
      match String.ofList index.chars with
      | "first" => items.head?
      | "last" => items.getLast?
      | "size" => some (int items.length)
      | _ => none
  | object fields =>
    let name := String.ofList index.chars
    (field? name fields).or (if name == "size" then some (int fields.length) else none)
  | nil | empty | blank => none
  | scalar => if String.ofList index.chars == "size" then some (int scalar.byteSize) else none

/-- The value that a path of scalar indexes leads to, or else how far it leads and what is left of
it there. -/
def follow (v : Value) : List Value → Except (Value × List Value) Value
  | [] => .ok v
  | index :: rest =>
    match v.member? index with
    | some w => w.follow rest
    | none => .error (v, index :: rest)

/-- The indexes that a value has members at. -/
def indexes : Value → List String
  | list [] => ["first", "last"]
  | list items => [s!"0..{items.length - 1}", "first", "last"]
  | object fields => fields.map (·.1)
  | _ => []

/-! ## Equality -/

/-- Equality of scalars. Between a truth value and a scalar of another kind, which counts as true,
it is the truth value. -/
def scalarEq : Value → Value → Bool
  | int a, int b => a == b
  | int a, float b => Float.ofInt a == b
  | float a, int b => a == Float.ofInt b
  | float a, float b => a == b
  | bool a, bool b => a == b
  | text a, text b => a == b
  | bool a, _ => a
  | _, bool b => b
  | _, _ => false

/-- Equality of a truth value and a value that is no scalar and no state. -/
def boolEq (scalar other : Value) : Bool :=
  match scalar with
  | bool b => if other.isNil then !b else b
  | _ => false

mutual

/-- Equality; a state is equal to whatever is in it. -/
def eq : Value → Value → Bool
  | list a, list b => a.length == b.length && eqItems a b
  | object a, object b => a.length == b.length && eqFields a b
  | nil, nil => true
  | empty, v => v.isEmpty
  | blank, v => v.isBlank
  | v, empty => v.isEmpty
  | v, blank => v.isBlank
  | v, w =>
    match v.isScalar, w.isScalar with
    | true, true => scalarEq v w
    | true, false => boolEq v w
    | false, true => boolEq w v
    | false, false => false

def eqItems : List Value → List Value → Bool
  | a :: as, b :: bs => eq a b && eqItems as bs
  | _, _ => true

/-- Every field has an equal one of its name on the other side. -/
def eqFields : List (String × Value) → List (String × Value) → Bool
  | [], _ => true
  | (k, v) :: rest, other =>
    (match field? k other with | some w => eq v w | none => false) && eqFields rest other

end

/-! ## Order -/

/-- The order of numbers that may have none. -/
def floatOrder? (a b : Float) : Option Ordering :=
  if a < b then some .lt else if a == b then some .eq else if b < a then some .gt else none

/-- The order of texts, by code points. -/
def textOrder (a b : String) : Ordering := if a < b then .lt else if b < a then .gt else .eq

mutual

/-- The order of two values of one kind; lists compare item by item. -/
def order? : Value → Value → Option Ordering
  | int a, int b => some (compare a b)
  | int a, float b => floatOrder? (Float.ofInt a) b
  | float a, int b => floatOrder? a (Float.ofInt b)
  | float a, float b => floatOrder? a b
  | bool a, bool b => some (compare a.toNat b.toNat)
  | text a, text b => some (textOrder a b)
  | list a, list b => orderItems? a b
  | object a, object b => orderFields? a b
  | _, _ => none

def orderItems? : List Value → List Value → Option Ordering
  | [], [] => some .eq
  | [], _ :: _ => some .lt
  | _ :: _, [] => some .gt
  | a :: as, b :: bs =>
    match order? a b with
    | some .eq => orderItems? as bs
    | o => o

def orderFields? : List (String × Value) → List (String × Value) → Option Ordering
  | [], [] => some .eq
  | [], _ :: _ => some .lt
  | _ :: _, [] => some .gt
  | (j, a) :: as, (k, b) :: bs =>
    match textOrder j k with
    | .eq =>
      match order? a b with
      | some .eq => orderFields? as bs
      | o => o
    | o => some o

end

/-! ## Containment -/

/-- Whether a text occurs in a scalar, an object has a field, or a list has an item. The rest
contains nothing and must not be asked. -/
def contains? (v w : Value) : Option Bool :=
  match v with
  | list items => some (items.any fun item ↦ item.eq w)
  | object fields => some (w.isScalar && (field? (String.ofList w.chars) fields).isSome)
  | nil | empty | blank => none
  | scalar => some (Text.occurs w.chars scalar.chars)

/-! ## Printed values -/

mutual

/-- A printed value as the data of a template. -/
def ofPrinted : VersionedSite.Value → Value
  | .null => nil
  | .bool b => bool b
  | .number n => int n
  | .text s => text s
  | .list items => list (ofPrintedItems items)
  | .record fields => object (ofPrintedFields fields)

def ofPrintedItems : List VersionedSite.Value → List Value
  | [] => []
  | v :: rest => ofPrinted v :: ofPrintedItems rest

def ofPrintedFields : List (String × VersionedSite.Value) → List (String × Value)
  | [] => []
  | (k, v) :: rest => (k, ofPrinted v) :: ofPrintedFields rest

end

end Value

end VersionedSite.Liquid
