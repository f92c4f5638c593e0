import VersionedSite.Yaml.Token

/-!
# Events

A document as the sequence of its scalars and of the starts and ends of its collections. The
reader of events is a machine: a state says what may come next, and a stack of states what comes
after the collection that is being read. A value that is left out becomes an empty plain scalar.

A fault ends the sequence. What has been read before it stays valid, so a document is the list of
its events together with the fact that it was cut off.
-/

namespace VersionedSite.Yaml

/-- The anchor and the tag before a node. -/
structure Properties where
  anchor : Option (List Char)
  tag : Option Tag
  deriving DecidableEq, Repr

inductive Event where
  | alias (name : List Char)
  | scalar (props : Properties) (text : List Char) (style : Style)
  | sequenceStart (props : Properties)
  | sequenceEnd
  | mappingStart (props : Properties)
  | mappingEnd
  | documentStart
  | documentEnd
  | streamEnd
  deriving DecidableEq, Repr

/-- What the machine expects. -/
inductive Expect where
  | streamStart
  | implicitDocument
  | document
  | documentContent
  | documentEnd
  | blockNode
  | firstBlockEntry
  | blockEntry
  | indentlessEntry
  | firstBlockKey
  | blockKey
  | blockValue
  | firstFlowEntry
  | flowEntry
  | pairKey
  | pairValue
  | pairEnd
  | firstFlowKey
  | flowKey
  | flowValue
  | emptyFlowValue
  | done
  deriving DecidableEq, Repr

/-- The state of the machine. -/
structure Machine where
  tokens : TokenStream
  expect : Expect
  /-- What comes after the collections that are open, innermost first. -/
  resume : List Expect
  /-- What the handles of this document stand for. -/
  handles : List (List Char × List UInt8)
  deriving Repr

/-- An empty plain scalar without properties. -/
def Event.empty : Event := .scalar ⟨none, none⟩ [] .plain

namespace Machine

def ofText (text : List Char) : Machine :=
  { tokens := TokenStream.ofText text, expect := .streamStart, resume := [], handles := [] }

abbrev Step := Option (Event × Machine)

def peek (m : Machine) : Option (Token × Machine) :=
  m.tokens.peek.map fun (t, tokens) ↦ (t, { m with tokens })

def drop (m : Machine) : Machine := { m with tokens := m.tokens.drop }

def goto (m : Machine) (e : Expect) : Machine := { m with expect := e }

/-- The machine after the node that it was reading. -/
def pop (m : Machine) : Machine :=
  match m.resume with
  | e :: rest => { m with expect := e, resume := rest }
  | [] => { m with expect := .done }

def push (m : Machine) (e : Expect) : Machine := { m with resume := e :: m.resume }

/-- An empty scalar, after which `e` is expected. -/
def emptyThen (m : Machine) (e : Expect) : Step := some (.empty, m.goto e)

/-! ## Directives -/

/-- The handles that every document knows. -/
def defaultHandles : List (List Char × List UInt8) :=
  [(['!'], Tag.own.octets), (['!', '!'], (Tag.core "").octets)]

/-- The directives before a document. Each kind of version and each handle may be given once. -/
def readDirectives : Nat → Bool → Machine → Option Machine
  | 0, _, m => some m
  | fuel + 1, versionSeen, m => do
    let (t, m) ← m.peek
    match t with
    | .directive (.version major minor) =>
      if versionSeen || major ≠ 1 || (minor ≠ 1 && minor ≠ 2) then none
      else readDirectives fuel true m.drop
    | .directive (.tag handle start) =>
      if m.handles.any (·.1 == handle) then none
      else readDirectives fuel versionSeen { m.drop with handles := m.handles ++ [(handle, start)] }
    | _ => return { m with
        handles := m.handles ++ defaultHandles.filter fun d ↦ !m.handles.any (·.1 == d.1) }

/-- The meaning of a tag: its handle replaced by what the handle stands for. -/
def resolveTag (m : Machine) (t : TagText) : Option Tag :=
  if t.handle.isEmpty then some (.ofParts [] t.suffix)
  else (m.handles.find? (·.1 == t.handle)).map fun h ↦ .ofParts h.2 t.suffix

/-! ## Nodes -/

/-- An anchor and a tag in either order, each at most once. -/
def readProperties (m : Machine) : Option (Properties × Machine) := do
  let (t, m) ← m.peek
  match t with
  | .anchor name =>
    let (u, m) ← m.drop.peek
    match u with
    | .tag text => return (⟨some name, some (← m.resolveTag text)⟩, m.drop)
    | _ => return (⟨some name, none⟩, m)
  | .tag text =>
    let (u, m) ← m.drop.peek
    match u with
    | .anchor name => return (⟨some name, some (← m.resolveTag text)⟩, m.drop)
    | _ => return (⟨none, some (← m.resolveTag text)⟩, m)
  | _ => return (⟨none, none⟩, m)

/-- Reads a node. In block context a node may be a block collection; where `indentless` holds, a
sequence may also start with its first dash, without being indented. -/
def readNode (block indentless : Bool) (m : Machine) : Step := do
  let (t, m) ← m.peek
  match t with
  | .alias name => return (.alias name, m.pop.drop)
  | _ =>
    let (props, m) ← m.readProperties
    let (t, m) ← m.peek
    match t with
    | .blockEntry =>
      if indentless then return (.sequenceStart props, m.goto .indentlessEntry)
      else if props.anchor.isSome || props.tag.isSome then
        return (.scalar props [] .plain, m.pop)
      else none
    | .scalar text style => return (.scalar props text style, m.pop.drop)
    | .flowSequenceStart => return (.sequenceStart props, m.goto .firstFlowEntry)
    | .flowMappingStart => return (.mappingStart props, m.goto .firstFlowKey)
    | .blockSequenceStart =>
      if block then return (.sequenceStart props, m.goto .firstBlockEntry)
      else if props.anchor.isSome || props.tag.isSome then return (.scalar props [] .plain, m.pop)
      else none
    | .blockMappingStart =>
      if block then return (.mappingStart props, m.goto .firstBlockKey)
      else if props.anchor.isSome || props.tag.isSome then return (.scalar props [] .plain, m.pop)
      else none
    | _ =>
      if props.anchor.isSome || props.tag.isSome then return (.scalar props [] .plain, m.pop)
      else none

/-! ## Documents -/

def isDocumentMark : Token → Bool
  | .directive _ | .documentStart | .documentEnd | .streamEnd => true
  | _ => false

/-- The marks that end a document without starting one, as many as there are. -/
def dropDocumentEnds : Nat → Machine → Option Machine
  | 0, m => some m
  | fuel + 1, m => do
    let (t, m) ← m.peek
    if t = .documentEnd then dropDocumentEnds fuel m.drop else return m

/-- A document after its directives and its start mark, or the end of the stream. -/
def readExplicitDocument (fuel : Nat) (m : Machine) : Step := do
  let (t, m) ← m.peek
  if t = .streamEnd then return (.streamEnd, (m.goto .done).drop)
  let m ← readDirectives fuel false m
  let (t, m) ← m.peek
  if t = .documentStart then
    return (.documentStart, ((m.push .documentEnd).goto .documentContent).drop)
  else none

/-! ## Entries of collections -/

def readBlockEntry (m : Machine) : Step := do
  let (t, m) ← m.peek
  match t with
  | .blockEntry =>
    let (u, m) ← m.drop.peek
    if u = .blockEntry || u = .blockEnd then m.emptyThen .blockEntry
    else readNode true false (m.push .blockEntry)
  | .blockEnd => return (.sequenceEnd, m.pop.drop)
  | _ => none

def readIndentlessEntry (m : Machine) : Step := do
  let (t, m) ← m.peek
  match t with
  | .blockEntry =>
    let (u, m) ← m.drop.peek
    if u = .blockEntry || u = .key || u = .value || u = .blockEnd then m.emptyThen .indentlessEntry
    else readNode true false (m.push .indentlessEntry)
  | _ => return (.sequenceEnd, m.pop)

def readBlockKey (m : Machine) : Step := do
  let (t, m) ← m.peek
  match t with
  | .key =>
    let (u, m) ← m.drop.peek
    if u = .key || u = .value || u = .blockEnd then m.emptyThen .blockValue
    else readNode true true (m.push .blockValue)
  | .blockEnd => return (.mappingEnd, m.pop.drop)
  | _ => none

def readBlockValue (m : Machine) : Step := do
  let (t, m) ← m.peek
  match t with
  | .value =>
    let (u, m) ← m.drop.peek
    if u = .key || u = .value || u = .blockEnd then m.emptyThen .blockKey
    else readNode true true (m.push .blockKey)
  | _ => m.emptyThen .blockKey

/-- A comma before an entry that is not the first. -/
def dropComma (first : Bool) (m : Machine) : Option Machine :=
  if first then some m
  else do
    let (t, m) ← m.peek
    if t = .flowEntry then return m.drop else none

def readFlowEntry (first : Bool) (m : Machine) : Step := do
  let (t, m) ← m.peek
  if t = .flowSequenceEnd then return (.sequenceEnd, m.pop.drop)
  let m ← m.dropComma first
  let (t, m) ← m.peek
  match t with
  | .key => return (.mappingStart ⟨none, none⟩, (m.goto .pairKey).drop)
  | .flowSequenceEnd => return (.sequenceEnd, m.pop.drop)
  | _ => readNode false false (m.push .flowEntry)

/-- The key of a pair that stands as an entry of a sequence. -/
def readPairKey (m : Machine) : Step := do
  let (t, m) ← m.peek
  if t = .value || t = .flowEntry || t = .flowSequenceEnd then m.drop.emptyThen .pairValue
  else readNode false false (m.push .pairValue)

def readPairValue (m : Machine) : Step := do
  let (t, m) ← m.peek
  if t = .value then
    let (u, m) ← m.drop.peek
    if u = .flowEntry || u = .flowSequenceEnd then m.emptyThen .pairEnd
    else readNode false false (m.push .pairEnd)
  else m.emptyThen .pairEnd

def readFlowKey (first : Bool) (m : Machine) : Step := do
  let (t, m) ← m.peek
  if t = .flowMappingEnd then return (.mappingEnd, m.pop.drop)
  let m ← m.dropComma first
  let (t, m) ← m.peek
  match t with
  | .key =>
    let (u, m) ← m.drop.peek
    if u = .value || u = .flowEntry || u = .flowMappingEnd then m.emptyThen .flowValue
    else readNode false false (m.push .flowValue)
  | .flowMappingEnd => return (.mappingEnd, m.pop.drop)
  | _ => readNode false false (m.push .emptyFlowValue)

def readFlowValue (m : Machine) : Step := do
  let (t, m) ← m.peek
  if t = .value then
    let (u, m) ← m.drop.peek
    if u = .flowEntry || u = .flowMappingEnd then m.emptyThen .flowKey
    else readNode false false (m.push .flowKey)
  else m.emptyThen .flowKey

/-! ## The machine -/

/-- The next event; nothing on a fault. -/
def step (fuel : Nat) (m : Machine) : Step :=
  match m.expect with
  | .streamStart => do
    let (_, m) ← m.peek
    step' fuel (m.drop.goto .implicitDocument)
  | _ => step' fuel m
where
  step' (fuel : Nat) (m : Machine) : Step :=
    match m.expect with
    | .streamStart | .done => none
    | .implicitDocument => do
      let (t, m) ← m.peek
      if isDocumentMark t && t ≠ .documentEnd then readExplicitDocument fuel m
      else
        let m := { m with handles := defaultHandles }
        return (.documentStart, (m.push .documentEnd).goto .blockNode)
    | .document => do
      let m ← dropDocumentEnds fuel m
      readExplicitDocument fuel m
    | .documentContent => do
      let (t, m) ← m.peek
      if isDocumentMark t then return (.empty, m.pop) else readNode true false m
    | .documentEnd => do
      let (t, m) ← m.peek
      let m := if t = .documentEnd then m.drop else m
      return (.documentEnd, { m.goto .document with handles := [] })
    | .blockNode => readNode true false m
    | .firstBlockEntry => do
      let (_, m) ← m.peek
      readBlockEntry m.drop
    | .blockEntry => readBlockEntry m
    | .indentlessEntry => readIndentlessEntry m
    | .firstBlockKey => do
      let (_, m) ← m.peek
      readBlockKey m.drop
    | .blockKey => readBlockKey m
    | .blockValue => readBlockValue m
    | .firstFlowEntry => do
      let (_, m) ← m.peek
      readFlowEntry true m.drop
    | .flowEntry => readFlowEntry false m
    | .pairKey => readPairKey m
    | .pairValue => readPairValue m
    | .pairEnd => do
      let (_, m) ← m.peek
      return (.mappingEnd, m.goto .flowEntry)
    | .firstFlowKey => do
      let (_, m) ← m.peek
      readFlowKey true m.drop
    | .flowKey => readFlowKey false m
    | .flowValue => readFlowValue m
    | .emptyFlowValue => do
      let (_, m) ← m.peek
      m.emptyThen .flowKey

end Machine

/-- The events of a text up to its end or its first fault. -/
structure EventStream where
  events : List Event
  cutOff : Bool
  deriving Repr

/-- The events from a machine on; `fuel` bounds their number. -/
def EventStream.ofMachine (limit : Nat) : Nat → Machine → EventStream
  | 0, _ => ⟨[], true⟩
  | fuel + 1, m =>
    match m.step limit with
    | none => ⟨[], true⟩
    | some (.streamEnd, _) => ⟨[], false⟩
    | some (e, m) =>
      let rest := EventStream.ofMachine limit fuel m
      ⟨e :: rest.events, rest.cutOff⟩

/-- The events of a text. A token takes a character or closes a block, and an event takes a token
or stands for a value left out, so their number is linear in the length of the text. -/
def EventStream.ofText (text : List Char) : EventStream :=
  let limit := 8 * text.length + 16
  EventStream.ofMachine limit limit (Machine.ofText text)

end VersionedSite.Yaml
