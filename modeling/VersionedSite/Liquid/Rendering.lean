import VersionedSite.Liquid.Filtering
import VersionedSite.Liquid.Template

/-!
# Rendering

What a template prints on given data. Names are looked up from the inside out: the items of loops
and the parameters of embedded templates, then what the template has assigned, then the data, then
the counters. A name that leads nowhere is a fault, except where a condition asks whether it is
there.

Rendering is a recursion on the nodes. The one thing that is not a part of a template is another
template that it embeds, so `Node.render` takes the rendering of those as an argument, and the
library of templates ties the knot.
-/

namespace VersionedSite.Liquid

/-- Why a template cannot be rendered. -/
inductive RenderFault where
  /-- A name leads to no value. -/
  | unknownVariable (name : String)
  /-- A value has no member of an index. -/
  | unknownIndex (owner index : String) (available : List String)
  /-- A filter does not apply to its value and arguments. -/
  | inapplicable (f : Filter)
  /-- A tag cannot work on a value of this kind. -/
  | unsuitable
  | unknownTemplate (name : String)
  /-- The text of an embedded template is no template. -/
  | unreadableTemplate (name : String)
  /-- Templates embed each other without end. -/
  | endless
  deriving DecidableEq, Repr

namespace RenderFault

/-- A title with the facts of the case. -/
def paragraph (title : String) (facts : List (String × String)) : String :=
  s!"liquid: {title}\n" ++ (if facts.isEmpty then "" else "  with:\n")
    ++ String.join (facts.map fun (k, v) ↦ s!"    {k}={v}\n")

/-- The fault as a message shows it. -/
def message : RenderFault → String
  | unknownVariable name => paragraph "Unknown variable" [("requested variable", name)]
  | unknownIndex owner index available =>
    paragraph "Unknown index" [("variable", owner), ("requested index", index),
      ("available indexes", ", ".intercalate available)]
  | inapplicable _ => paragraph "Invalid input" []
  | unsuitable => paragraph "Unexpected value" []
  | unknownTemplate name | unreadableTemplate name =>
    paragraph "Unknown partial-template" [("requested partial", name)]
  | endless => paragraph "Partial-templates without end" []

end RenderFault

/-! ## State -/

/-- A loop that is being left, or an item of it. -/
inductive Jump where
  | leave
  | next
  deriving DecidableEq, Repr

/-- What changes while a template is rendered. -/
structure State where
  /-- Assigned names, the latest first. -/
  assigned : List (String × Value) := []
  counters : List (String × Value) := []
  /-- How often each group of values has been used. -/
  cycles : List (String × Nat) := []
  /-- What the last block printed that prints changes only. -/
  shown : Option (List Char) := none
  jump : Option Jump := none

/-- What is in sight. -/
structure Scope where
  /-- Items of loops and parameters, the innermost first. -/
  locals : List (String × Value) := []
  data : List (String × Value)
  /-- Whether counters are in sight. -/
  counters : Bool := true
  /-- The present moment. -/
  now : Calendar.Moment

/-- The value of a name. -/
def Scope.find? (sc : Scope) (st : State) (name : String) : Option Value :=
  (Value.field? name sc.locals).or <| (Value.field? name st.assigned).or <|
    (Value.field? name sc.data).or <|
      if sc.counters then Value.field? name st.counters else none

/-- The scope with more names, which hide those that are there. -/
def Scope.push (sc : Scope) (names : List (String × Value)) : Scope :=
  { sc with locals := names ++ sc.locals }

abbrev Rendered := Except RenderFault (List Char × State)

/-! ## Expressions -/

def orUnsuitable {α : Type} : Option α → Except RenderFault α
  | some a => .ok a
  | none => .error .unsuitable

/-- The value that indexes lead to from the value of a name. -/
def memberOf (name : String) (v : Value) (indexes : List Value) : Except RenderFault Value :=
  match v.follow indexes with
  | .ok w => .ok w
  | .error (owner, rest) =>
    let texts := name :: indexes.map fun v ↦ String.ofList v.chars
    let depth := texts.length - rest.length
    .error (.unknownIndex (".".intercalate (texts.take depth)) (texts[depth]?.getD "")
      owner.indexes)

mutual

/-- The value of an expression. -/
def Expr.value (look : String → Option Value) : Expr → Except RenderFault Value
  | .literal v => .ok v
  | .reference name path => do
    let indexes ← pathValues look path
    match look name with
    | none => .error (.unknownVariable name)
    | some v => memberOf name v indexes

/-- The values of indexes, all of which must be scalars. -/
def pathValues (look : String → Option Value) : List Expr → Except RenderFault (List Value)
  | [] => .ok []
  | e :: rest => do
    let v ← e.value look
    if v.isScalar then return v :: (← pathValues look rest) else .error .unsuitable

end

/-- The value after a filter. -/
def FilterCall.apply (now : Calendar.Moment) (look : String → Option Value) (v : Value)
    (c : FilterCall) : Except RenderFault Value := do
  let arguments ← c.arguments.mapM (·.value look)
  match c.filter.apply now v arguments with
  | some v => return v
  | none => .error (.inapplicable c.filter)

/-- The value after all filters. -/
def Chain.value (now : Calendar.Moment) (look : String → Option Value) (c : Chain) :
    Except RenderFault Value := do
  c.calls.foldlM (FilterCall.apply now look) (← c.entry.value look)

/-- Whether two values compare as asked. -/
def Comparison.test (c : Comparison) (v w : Value) : Except RenderFault Bool :=
  match c with
  | .equal => .ok (v.eq w)
  | .notEqual => .ok (!v.eq w)
  | .less => .ok (v.order? w == some .lt)
  | .greater => .ok (v.order? w == some .gt)
  | .lessOrEqual => .ok ((v.order? w).any (·.isLE))
  | .greaterOrEqual => .ok ((v.order? w).any (·.isGE))
  | .contains => orUnsuitable (v.contains? w)

/-- Whether a condition holds; the right side counts only where the left leaves it open. -/
def Condition.test (look : String → Option Value) : Condition → Except RenderFault Bool
  | .holds e => .ok ((e.value look).toOption.any Value.isTruthy)
  | .compare c left right => do c.test (← left.value look) (← right.value look)
  | .both left right => do if ← left.test look then right.test look else return false
  | .either left right => do if ← left.test look then return true else right.test look

/-! ## Loops -/

/-- The whole numbers from the first to the last. -/
def rangeValues (first last : Int) : List Value :=
  (List.range (last - first + 1).toNat).map fun (n : Nat) ↦ .int (first + n)

/-- What a loop over a value runs over: items, or pairs of name and value. -/
def loopItems? : Value → Option (List Value)
  | .list items => some items
  | .object fields => some (fields.map fun (k, v) ↦ .list [.text k, v])
  | .nil | .empty | .blank => some []
  | _ => none

def LoopSource.values (look : String → Option Value) :
    LoopSource → Except RenderFault (List Value)
  | .items e => do orUnsuitable (loopItems? (← e.value look))
  | .range first last => do
    let first ← orUnsuitable (← first.value look).toInt?
    let last ← orUnsuitable (← last.value look).toInt?
    return rangeValues first last

/-- A number of items; one below zero is more than there are. -/
def count (look : String → Option Value) (usual : Nat) : Option Expr → Except RenderFault Nat
  | none => .ok usual
  | some e => do
    let i ← orUnsuitable (← e.value look).toInt?
    return if i < 0 then usual else i.toNat

/-- The values that a loop goes through, in their own order. There are as many as the limit wants,
unless the source has less; where the offset leaves too few of them, nil stands for the rest. -/
def LoopHead.values (look : String → Option Value) (h : LoopHead) :
    Except RenderFault (List Value) := do
  let vs ← h.source.values look
  let offset ←
    match h.offset with
    | none => .ok 0
    | offset => count look vs.length offset
  match h.limit with
  | none => return vs.drop offset
  | limit =>
    let limit := min (← count look vs.length limit) vs.length
    let vs := (vs.drop offset).take limit
    return vs ++ List.replicate (limit - vs.length) .nil

/-- What a loop tells its body about the item at a place. -/
def loopFacts (place length : Nat) : List (String × Value) := [
  ("length", .int length), ("index0", .int place), ("index", .int (place + 1)),
  ("rindex0", .int (length - place - 1 : Nat)), ("rindex", .int (length - place : Nat)),
  ("first", .bool (place == 0)), ("last", .bool (place + 1 == length))]

/-- Renders the body for each value from a place on. -/
def eachItem (body : Scope → State → Rendered) (sc : Scope) (item : String) (outer : Value)
    (length : Nat) : Nat → List Value → State → Rendered
  | _, [], st => .ok ([], st)
  | place, v :: rest, st => do
    let facts := .object (("parentloop", outer) :: loopFacts place length)
    let (out, st) ← body (sc.push [(item, v), ("forloop", facts)]) st
    if st.jump = some .leave then return (out, { st with jump := none })
    let (more, st) ← eachItem body sc item outer length (place + 1) rest { st with jump := none }
    return (out ++ more, st)

/-- Renders the body for each value, in the cells of a table with so many columns. -/
def eachCell (body : Scope → State → Rendered) (sc : Scope) (item : String) (columns length : Nat) :
    Nat → List Value → State → Rendered
  | _, [], st => .ok ([], st)
  | place, v :: rest, st => do
    let column := place % columns
    let endsRow := column + 1 == columns || place + 1 == length
    let facts := .object (loopFacts place length ++ [("col0", .int column),
      ("col", .int (column + 1)), ("col_first", .bool (column == 0)), ("col_last", .bool endsRow)])
    let (out, st) ← body (sc.push [(item, v), ("tablerow", facts)]) st
    let row := if column == 0 then s!"<tr class=\"row{place / columns + 1}\">" else ""
    let cell := s!"<td class=\"col{column + 1}\">"
    let close := if endsRow then "</td></tr>" else "</td>"
    let (more, st) ← eachCell body sc item columns length (place + 1) rest st
    return (row.toList ++ cell.toList ++ out ++ close.toList ++ more, st)

/-! ## Nodes -/

def State.assign (st : State) (name : String) (v : Value) : State :=
  { st with assigned := (name, v) :: st.assigned }

/-- The number that a counter stands at. -/
def State.counter (st : State) (name : String) : Int :=
  ((Value.field? name st.counters).bind Value.toInt?).getD 0

def State.setCounter (st : State) (name : String) (i : Int) : State :=
  { st with counters := (name, .int i) :: st.counters }

/-- The place in a group of so many values that comes next, and the state after it. -/
def State.turn (st : State) (group : String) (size : Nat) : Nat × State :=
  let place := ((st.cycles.find? (·.1 == group)).map (·.2)).getD 0
  (place, { st with cycles := (group, (place + 1) % size) :: st.cycles })

/-- Whether one of the expressions has the value. -/
def anyEqual (look : String → Option Value) (v : Value) : List Expr → Except RenderFault Bool
  | [] => .ok false
  | e :: rest => do if (← e.value look).eq v then return true else anyEqual look v rest

def parameterValues (look : String → Option Value) (ps : List (String × Expr)) :
    Except RenderFault (List (String × Value)) :=
  ps.mapM fun (name, e) ↦ do return (name, ← e.value look)

/-- How templates are embedded: by name, and then in a scope and a state. -/
abbrev Embedding := String → Except RenderFault (Scope → State → Rendered)

/-- The name of a template that an expression gives. -/
def templateName (look : String → Option Value) (e : Expr) : Except RenderFault String := do
  let name ← e.value look
  if name.isScalar then return String.ofList name.chars else .error .unsuitable

/-- Embedding by names that may lack the ending of a file. -/
def withEnding (embed : Embedding) : Embedding := fun name ↦
  match embed name with
  | .ok body => .ok body
  | .error f =>
    match embed (name ++ ".liquid") with
    | .ok body => .ok body
    | .error _ => .error f

/-- Renders a template that sees the given names alone. Of the state it gets and gives back the
counters. The jump that it ends with is its own, and is given beside the state. -/
def isolated (body : Scope → State → Rendered) (names : List (String × Value))
    (now : Calendar.Moment) (st : State) :
    Except RenderFault (List Char × State × Option Jump) := do
  let (out, inner) ← body { data := names, counters := false, now } { counters := st.counters }
  return (out, { st with counters := inner.counters }, inner.jump)

/-- Renders an isolated template for each value from a place on, up to one that ends the loop. -/
def isolatedEach
    (body : List (String × Value) → State → Except RenderFault (List Char × State × Option Jump))
    (item : String) (length : Nat) : Nat → List Value → State → Rendered
  | _, [], st => .ok ([], st)
  | place, v :: rest, st => do
    let facts := .object (("parentloop", .nil) :: loopFacts place length)
    let (out, st, jump) ← body [(item, v), ("forloop", facts)] st
    if jump = some .leave then return (out, st)
    let (more, st) ← isolatedEach body item length (place + 1) rest st
    return (out ++ more, st)

mutual

/-- What a node prints, and the state after it. -/
def Node.render (embed : Embedding) : Node → Scope → State → Rendered
  | .text s, _, st => .ok (s, st)
  | .output c, sc, st => do return ((← c.value sc.now (sc.find? st)).chars, st)
  | .assign name c, sc, st => do return ([], st.assign name (← c.value sc.now (sc.find? st)))
  | .capture name body, sc, st => do
    let (out, st) ← renderAll embed body sc st
    return ([], st.assign name (.ofChars out))
  | .increment name, _, st =>
    .ok ((Value.int (st.counter name)).chars, st.setCounter name (st.counter name + 1))
  | .decrement name, _, st =>
    .ok ((Value.int (st.counter name - 1)).chars, st.setCounter name (st.counter name - 1))
  | .cycle group values, sc, st => do
    let (place, after) := st.turn group values.length
    let e ← orUnsuitable values[place]?
    return ((← e.value (sc.find? st)).chars, after)
  | .branch c expected yes no, sc, st => do
    if (← c.test (sc.find? st)) == expected then renderAll embed yes sc st
    else renderAll embed no sc st
  | .choose target cases otherwise, sc, st => do
    match ← renderCase embed (← target.value (sc.find? st)) cases sc st with
    | some rendered => return rendered
    | none => renderAll embed otherwise sc st
  | .loop head reversed body otherwise, sc, st => do
    let vs ← head.values (sc.find? st)
    if vs.isEmpty then renderAll embed otherwise sc st
    else
      let vs := if reversed then vs.reverse else vs
      let outer := (sc.find? st "forloop").getD .nil
      eachItem (fun sc st ↦ renderAll embed body sc st) sc head.item outer vs.length 0 vs st
  | .tableRows head columns body, sc, st => do
    let vs ← head.values (sc.find? st)
    let columns ← count (sc.find? st) vs.length columns
    eachCell (fun sc st ↦ renderAll embed body sc st) sc head.item columns vs.length 0 vs st
  | .ifChanged body, sc, st => do
    let (out, st) ← renderAll embed body sc st
    return (if st.shown = some out then [] else out, { st with shown := some out })
  | .include name ps, sc, st => do
    let body ← embed (← templateName (sc.find? st) name)
    let ps ← parameterValues (sc.find? st) ps
    body (sc.push ps.reverse) st
  | .isolate name ps none, sc, st => do
    let body ← withEnding embed (← templateName (sc.find? st) name)
    let ps ← parameterValues (sc.find? st) ps
    let (out, st, _) ← isolated body ps.reverse sc.now st
    return (out, st)
  | .isolate name ps (some (item, source)), sc, st => do
    let name ← templateName (sc.find? st) name
    let vs ← source.values (sc.find? st)
    let rendered := fun names st ↦ do
      let body ← withEnding embed name
      let ps ← parameterValues (sc.find? st) ps
      isolated body (names ++ ps.reverse) sc.now st
    isolatedEach rendered item vs.length 0 vs st
  | .leave, _, st => .ok ([], { st with jump := some .leave })
  | .next, _, st => .ok ([], { st with jump := some .next })

/-- What nodes print one after the other, up to the first that jumps. -/
def renderAll (embed : Embedding) : List Node → Scope → State → Rendered
  | [], _, st => .ok ([], st)
  | n :: rest, sc, st => do
    let (out, st) ← n.render embed sc st
    if st.jump.isSome then return (out, st)
    else
      let (more, st) ← renderAll embed rest sc st
      return (out ++ more, st)

/-- What the first body prints that has the value among its own, if one has. -/
def renderCase (embed : Embedding) (v : Value) :
    List (List Expr × List Node) → Scope → State → Except RenderFault (Option (List Char × State))
  | [], _, _ => .ok none
  | (values, body) :: rest, sc, st => do
    if ← anyEqual (sc.find? st) v values then return some (← renderAll embed body sc st)
    else renderCase embed v rest sc st

end

end VersionedSite.Liquid
