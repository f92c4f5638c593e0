import VersionedSite.Yaml.Event

/-!
# Documents

A document as a tree of nodes. A document that is cut off by a fault is a tree all the same: its
open collections are marked as not closed, and a missing node is `cut`. Reading a value from such
a tree fails exactly when it gets to the fault, so a complaint about something before the fault
comes first.

An alias names a slot, and slots are numbered by how many anchors are known when one is set. An
anchor that is set again gets a new number while the count stays, so a later anchor may take the
same slot; the last node in a slot is the one that its aliases mean.
-/

namespace VersionedSite.Yaml

inductive Node where
  /-- The document of an empty text. -/
  | void
  /-- The place where the document was cut off. -/
  | cut
  | scalar (tag : Option Tag) (text : String) (style : Style)
  | alias (slot : Nat)
  | sequence (tag : Option Tag) (items : List Node) (closed : Bool)
  | mapping (tag : Option Tag) (entries : List (Node × Node)) (closed : Bool)
  deriving Repr

/-! ## Slots -/

/-- The slots of the anchors that are known. -/
abbrev Anchors := List (List Char × Nat)

/-- Gives an anchor the slot whose number is the count of known anchors. -/
def Anchors.set (a : Anchors) (name : List Char) : Anchors :=
  if a.any (·.1 == name) then a.map fun p ↦ if p.1 == name then (name, a.length) else p
  else a ++ [(name, a.length)]

def Anchors.slot? (a : Anchors) (name : List Char) : Option Nat :=
  (a.find? (·.1 == name)).map (·.2)

/-- An event whose anchor and alias are slots. -/
inductive Part where
  | alias (slot : Nat)
  | scalar (slot : Option Nat) (tag : Option Tag) (text : String) (style : Style)
  | sequenceStart (slot : Option Nat) (tag : Option Tag)
  | sequenceEnd
  | mappingStart (slot : Option Nat) (tag : Option Tag)
  | mappingEnd
  deriving Repr

/-- The anchors after the properties of a node, with the node's slot. -/
def Anchors.note (a : Anchors) (p : Properties) : Anchors × Option Nat :=
  match p.anchor with
  | some name => (a.set name, some a.length)
  | none => (a, none)

/-- The parts of the first document, and whether nothing but the end follows them. An alias for an
unknown anchor cuts the document off. -/
def partsOf (cutOff : Bool) : Anchors → List Event → List Part × Bool
  | _, [] => ([], false)
  | a, e :: rest =>
    let more := fun (a : Anchors) (p : Part) ↦
      let (ps, whole) := partsOf cutOff a rest
      (p :: ps, whole)
    match e with
    | .alias name =>
      match a.slot? name with
      | some slot => more a (.alias slot)
      | none => ([], false)
    | .scalar props text style =>
      let (a, slot) := a.note props
      more a (.scalar slot props.tag (String.ofList text) style)
    | .sequenceStart props =>
      let (a, slot) := a.note props
      more a (.sequenceStart slot props.tag)
    | .mappingStart props =>
      let (a, slot) := a.note props
      more a (.mappingStart slot props.tag)
    | .sequenceEnd => more a .sequenceEnd
    | .mappingEnd => more a .mappingEnd
    | .documentStart => partsOf cutOff a rest
    | .documentEnd => ([], rest.isEmpty && !cutOff)
    | .streamEnd => ([], false)

/-! ## Trees -/

/-- The nodes in slots, in the order of the document. -/
abbrev Slots := List (Nat × Node)

def Slots.ofNode (slot : Option Nat) (n : Node) : Slots := (slot.map fun s ↦ (s, n)).toList

mutual

/-- The node at the front of the parts, the slots in it, and the parts after it. -/
def buildNode : Nat → List Part → Node × Slots × List Part
  | 0, _ => (.cut, [], [])
  | _ + 1, [] => (.cut, [], [])
  | fuel + 1, p :: rest =>
    match p with
    | .alias slot => (.alias slot, [], rest)
    | .scalar slot tag text style =>
      let n := Node.scalar tag text style
      (n, Slots.ofNode slot n, rest)
    | .sequenceStart slot tag =>
      let (items, closed, slots, rest) := buildItems fuel rest
      let n := Node.sequence tag items closed
      (n, Slots.ofNode slot n ++ slots, rest)
    | .mappingStart slot tag =>
      let (entries, closed, slots, rest) := buildEntries fuel rest
      let n := Node.mapping tag entries closed
      (n, Slots.ofNode slot n ++ slots, rest)
    | .sequenceEnd | .mappingEnd => (.cut, [], [])

/-- The items up to the end of their sequence. -/
def buildItems : Nat → List Part → List Node × Bool × Slots × List Part
  | 0, _ => ([], false, [], [])
  | _ + 1, [] => ([], false, [], [])
  | _ + 1, .sequenceEnd :: rest => ([], true, [], rest)
  | fuel + 1, parts =>
    let (n, slots, rest) := buildNode fuel parts
    let (items, closed, more, rest) := buildItems fuel rest
    (n :: items, closed, slots ++ more, rest)

/-- The entries up to the end of their mapping. -/
def buildEntries : Nat → List Part → List (Node × Node) × Bool × Slots × List Part
  | 0, _ => ([], false, [], [])
  | _ + 1, [] => ([], false, [], [])
  | _ + 1, .mappingEnd :: rest => ([], true, [], rest)
  | fuel + 1, parts =>
    let (k, slots, rest) := buildNode fuel parts
    let (v, slots', rest) := buildNode fuel rest
    let (entries, closed, more, rest) := buildEntries fuel rest
    ((k, v) :: entries, closed, slots ++ slots' ++ more, rest)

end

/-- The first document of a text. -/
structure Document where
  root : Node
  slots : Slots
  /-- How many nodes and ends of collections the document has. -/
  size : Nat
  /-- The document is not cut off, and no other follows it. -/
  whole : Bool
  deriving Repr

/-- The node that an alias for the slot means. -/
def Document.target (d : Document) (slot : Nat) : Node :=
  match d.slots.reverse.find? (·.1 == slot) with
  | some (_, n) => n
  | none => .cut

def Document.ofText (text : String) : Document :=
  let stream := EventStream.ofText text.toList
  if stream.events.isEmpty then
    if stream.cutOff then ⟨.cut, [], 0, false⟩ else ⟨.void, [], 1, true⟩
  else
    let (parts, whole) := partsOf stream.cutOff [] stream.events
    let (root, slots, _) := buildNode (2 * parts.length + 2) parts
    ⟨root, slots, parts.length, whole⟩

end VersionedSite.Yaml
