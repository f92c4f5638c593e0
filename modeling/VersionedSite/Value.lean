/-!
# Printed values

What a configuration, a page or a report looks like before it is printed: a tree of named fields,
lists and scalars. Fields keep the order in which they are listed, since both printers do.
-/

namespace VersionedSite

inductive Value where
  | null
  | bool (b : Bool)
  | number (n : Nat)
  | text (s : String)
  | list (items : List Value)
  | record (fields : List (String × Value))
  deriving Repr

namespace Value

/-- The value of an optional component; an absent one is null. -/
def optional {α : Type} (f : α → Value) : Option α → Value
  | none => .null
  | some a => f a

/-- An optional text. -/
def textOrNull : Option String → Value := optional .text

/-- A field for a component that is present, and no field otherwise. -/
def fieldIfSome {α : Type} (name : String) (f : α → Value) : Option α → List (String × Value)
  | none => []
  | some a => [(name, f a)]

/-- The field of a record. -/
def field? (name : String) : Value → Option Value
  | .record fields => (fields.find? (·.1 == name)).map (·.2)
  | _ => none

end Value

end VersionedSite
