import VersionedSite.Yaml.Scalar
import VersionedSite.Yaml.Tag

/-!
# Tokens

A document as a sequence of indicators and texts, with the indentation made explicit: a block
that starts or ends by its column alone starts or ends by a token here. Tokens are made on
demand, because a fault in the text counts only when a reader gets to it.

A plain word is a key only if a colon follows it on the same line, so the place of a possible key
is remembered and its token, with the start of the mapping before it, is put into the queue when
the colon comes. A token may leave the queue only when no possible key stands at its head.
-/

namespace VersionedSite.Yaml

inductive Token where
  | streamStart
  | streamEnd
  | directive (d : Directive)
  | documentStart
  | documentEnd
  | blockSequenceStart
  | blockMappingStart
  | blockEnd
  | flowSequenceStart
  | flowSequenceEnd
  | flowMappingStart
  | flowMappingEnd
  | blockEntry
  | flowEntry
  | key
  | value
  | alias (name : List Char)
  | anchor (name : List Char)
  | tag (text : TagText)
  | scalar (text : List Char) (style : Style)
  deriving DecidableEq, Repr

/-- The place of a token that becomes a key if a colon follows. A required one stands where only
a key can stand. -/
structure PossibleKey where
  required : Bool
  number : Nat
  index : Nat
  line : Nat
  column : Nat
  deriving DecidableEq, Repr

/-- What has been read of a text, and the tokens that are ready. -/
structure TokenStream where
  cursor : Cursor
  queue : List Token
  /-- How many tokens have left the queue. -/
  taken : Nat
  started : Bool
  /-- The column of the innermost block, below zero at the top. -/
  indent : Int
  /-- The columns of the blocks around it, innermost first. -/
  outer : List Int
  /-- One entry for each open bracket or brace, innermost first, and one for the block. -/
  keys : List (Option PossibleKey)
  /-- A possible key may start here. -/
  keyAllowed : Bool
  deriving Repr

namespace TokenStream

def ofText (text : List Char) : TokenStream :=
  { cursor := Cursor.start text, queue := [], taken := 0, started := false, indent := -1,
    outer := [], keys := [none], keyAllowed := true }

/-- The reader is inside brackets or braces. -/
def inFlow (t : TokenStream) : Bool := t.keys.length > 1

def push (t : TokenStream) (token : Token) : TokenStream := { t with queue := t.queue ++ [token] }

/-! ## Possible keys -/

/-- A key's name ends on its line and within 1024 bytes. -/
def isStale (c : Cursor) (k : PossibleKey) : Bool := k.line < c.line || k.index + 1024 < c.index

/-- A required key that can no longer be one is a fault; any other is forgotten. -/
def dropStale (t : TokenStream) : Option TokenStream :=
  let stale := fun k : Option PossibleKey ↦ k.any (isStale t.cursor)
  if t.keys.any fun k ↦ stale k && k.any (·.required) then none
  else some { t with keys := t.keys.map fun k ↦ if stale k then none else k }

/-- The innermost possible key. -/
def currentKey (t : TokenStream) : Option PossibleKey := t.keys.head?.join

def setKey (t : TokenStream) (k : Option PossibleKey) : TokenStream :=
  { t with keys := k :: t.keys.drop 1 }

/-- Gives up the innermost possible key, which must not be required. -/
def dropKey (t : TokenStream) : Option TokenStream :=
  if t.currentKey.any (·.required) then none else some (t.setKey none)

/-- Notes that the next token may turn out to be a key. -/
def noteKey (t : TokenStream) : Option TokenStream :=
  if !t.keyAllowed then some t
  else do
    let required := !t.inFlow && t.indent == (t.cursor.column : Int)
    let key : PossibleKey :=
      { required, number := t.taken + t.queue.length, index := t.cursor.index,
        line := t.cursor.line, column := t.cursor.column }
    let t ← t.dropKey
    return t.setKey (some key)

/-! ## Indentation -/

/-- Opens a block at `column` if it lies deeper than the innermost one. Its first token goes to
place `at'` of the queue. -/
def openBlock (t : TokenStream) (column : Nat) (place : Nat) (token : Token) : TokenStream :=
  if t.inFlow || t.indent ≥ (column : Int) then t
  else { t with
    queue := t.queue.take place ++ token :: t.queue.drop place
    indent := column
    outer := t.indent :: t.outer }

/-- Closes the blocks that lie deeper than `column`. -/
def closeBlocksTo (column : Int) : List Int → Int → List Token × Int × List Int
  | [], indent => ([], indent, [])
  | i :: outer, indent =>
    if indent > column then
      let (ends, indent, outer) := closeBlocksTo column outer i
      (.blockEnd :: ends, indent, outer)
    else ([], indent, i :: outer)

def closeBlocks (t : TokenStream) (column : Int) : TokenStream :=
  if t.inFlow then t
  else
    let (ends, indent, outer) := closeBlocksTo column t.outer t.indent
    { t with queue := t.queue ++ ends, indent, outer }

/-! ## The next token -/

/-- The cursor at the next token, behind blanks, comments and breaks. A line break allows a key
again outside brackets and braces; where a key may start, a tab is no blank. -/
def toNextToken (inFlow : Bool) : Nat → Bool → Cursor → Bool × Cursor
  | 0, keyAllowed, c => (keyAllowed, c)
  | fuel + 1, keyAllowed, c =>
    let c := if c.column == 0 && c.sees byteOrderMark then c.skip 1 else c
    let c := c.skipWhile fun ch ↦ ch == ' ' || ((inFlow || !keyAllowed) && ch == '\t')
    let c := c.skipComment
    if c.holdsAt 0 isBreak then
      toNextToken inFlow fuel (if inFlow then keyAllowed else true) c.readBreak.2
    else (keyAllowed, c)

/-- An indicator of `n` characters after which the key situation is as given. -/
def indicator (t : TokenStream) (n : Nat) (token : Token) (keyAllowed : Bool) : TokenStream :=
  { t with cursor := t.cursor.skip n, keyAllowed }.push token

/-- The end of the text closes everything. -/
def readEnd (t : TokenStream) : Option TokenStream := do
  let c := t.cursor
  let c := if c.column = 0 then c else { c with column := 0, line := c.line + 1 }
  let t ← ({ t with cursor := c }.closeBlocks (-1)).dropKey
  return { t with keyAllowed := false }.push .streamEnd

def readDirectiveToken (t : TokenStream) : Option TokenStream := do
  let t ← (t.closeBlocks (-1)).dropKey
  let (d, c) ← readDirective t.cursor
  return { t with cursor := c, keyAllowed := false }.push (.directive d)

def readDocumentMark (t : TokenStream) (token : Token) : Option TokenStream := do
  let t ← (t.closeBlocks (-1)).dropKey
  return t.indicator 3 token false

def readFlowStart (t : TokenStream) (token : Token) : Option TokenStream := do
  let t ← t.noteKey
  return { t with keys := none :: t.keys }.indicator 1 token true

def readFlowEnd (t : TokenStream) (token : Token) : Option TokenStream := do
  let t ← t.dropKey
  return { t with keys := if t.inFlow then t.keys.drop 1 else t.keys }.indicator 1 token false

def readFlowEntry (t : TokenStream) : Option TokenStream := do
  let t ← t.dropKey
  return t.indicator 1 .flowEntry true

def readBlockEntry (t : TokenStream) : Option TokenStream := do
  if !t.inFlow && !t.keyAllowed then none
  let t := t.openBlock t.cursor.column t.queue.length .blockSequenceStart
  let t ← t.dropKey
  return t.indicator 1 .blockEntry true

def readKey (t : TokenStream) : Option TokenStream := do
  if !t.inFlow && !t.keyAllowed then none
  let t := t.openBlock t.cursor.column t.queue.length .blockMappingStart
  let t ← t.dropKey
  return t.indicator 1 .key (!t.inFlow)

/-- A colon turns the possible key before it into a key; without one the key is empty. -/
def readValue (t : TokenStream) : Option TokenStream :=
  match t.currentKey with
  | some k =>
    let place := k.number - t.taken
    let t := { t with queue := t.queue.take place ++ Token.key :: t.queue.drop place }
    let t := (t.openBlock k.column place .blockMappingStart).setKey none
    some (t.indicator 1 .value false)
  | none =>
    if !t.inFlow && !t.keyAllowed then none
    else
      let t := t.openBlock t.cursor.column t.queue.length .blockMappingStart
      some (t.indicator 1 .value (!t.inFlow))

/-- A token that may be a key, made by `read` at the cursor. -/
def readKeyable (t : TokenStream) (read : Cursor → Option (Token × Cursor)) :
    Option TokenStream := do
  let t ← t.noteKey
  let (token, c) ← read t.cursor
  return { t with cursor := c, keyAllowed := false }.push token

def readBlockScalar (t : TokenStream) (literal : Bool) : Option TokenStream := do
  let t ← t.dropKey
  let (text, c) ← readBlock literal t.indent (t.cursor.skip 1)
  return { t with cursor := c, keyAllowed := true }.push
    (.scalar text (if literal then .literal else .folded))

def readQuotedScalar (t : TokenStream) (single : Bool) : Option TokenStream :=
  t.readKeyable fun c ↦ do
    let c := c.skip 1
    let (text, c) ← readQuoted single (c.rest.length + 2) [] c
    return (.scalar text (if single then .singleQuoted else .doubleQuoted), c)

/-- After a plain scalar that ended at the start of a line a key may follow. -/
def readPlainScalar (t : TokenStream) : Option TokenStream := do
  let t ← t.noteKey
  let c := t.cursor
  let (text, c, atLineStart) ←
    readPlain t.inFlow (t.indent + 1).toNat (c.rest.length + 1) [] Fold.none c
  return { t with cursor := c, keyAllowed := atLineStart }.push (.scalar text .plain)

/-- The indicators that no plain scalar starts with. -/
def isIndicator (c : Char) : Bool := "-?:,[]\x7b\x7d#&*!|>'\"%@\x60".toList.contains c

/-- A plain scalar may start at the front of the cursor. A dash, and outside brackets and braces
a question mark or a colon, starts one if no blank follows. -/
def startsPlain (inFlow : Bool) (c : Cursor) : Bool :=
  match c.rest with
  | [] => false
  | ch :: rest =>
    (!(isGap ch || isBreak ch) && !isIndicator ch)
      || (ch == '-' && !rest.head?.any isGap)
      || (!inFlow && (ch == '?' || ch == ':') && !c.endsWordAt 1)

/-- Reads the token at the cursor, by its first characters. -/
def readToken (t : TokenStream) : Option TokenStream :=
  let c := t.cursor
  match c.rest with
  | [] => t.readEnd
  | ch :: _ =>
    if c.column == 0 && ch == '%' then t.readDirectiveToken
    else if c.atDocumentMark then
      t.readDocumentMark (if ch == '-' then .documentStart else .documentEnd)
    else if ch == '[' then t.readFlowStart .flowSequenceStart
    else if ch == '{' then t.readFlowStart .flowMappingStart
    else if ch == ']' then t.readFlowEnd .flowSequenceEnd
    else if ch == '}' then t.readFlowEnd .flowMappingEnd
    else if ch == ',' then t.readFlowEntry
    else if ch == '-' && c.endsWordAt 1 then t.readBlockEntry
    else if ch == '?' && (t.inFlow || c.endsWordAt 1) then t.readKey
    else if ch == ':' && (t.inFlow || c.endsWordAt 1) then t.readValue
    else if ch == '*' then t.readKeyable fun c ↦ (readAnchor c).map fun (n, c) ↦ (.alias n, c)
    else if ch == '&' then t.readKeyable fun c ↦ (readAnchor c).map fun (n, c) ↦ (.anchor n, c)
    else if ch == '!' then t.readKeyable fun c ↦ (readTag t.inFlow c).map fun (g, c) ↦ (.tag g, c)
    else if ch == '|' && !t.inFlow then t.readBlockScalar true
    else if ch == '>' && !t.inFlow then t.readBlockScalar false
    else if ch == '\'' then t.readQuotedScalar true
    else if ch == '"' then t.readQuotedScalar false
    else if startsPlain t.inFlow c then t.readPlainScalar
    else none

/-- Adds at least one token to the queue. -/
def fetch (t : TokenStream) : Option TokenStream :=
  if !t.started then
    if t.cursor.rest.all isAllowed then some ({ t with started := true }.push .streamStart)
    else none
  else do
    let (keyAllowed, cursor) :=
      toNextToken t.inFlow (t.cursor.rest.length + 1) t.keyAllowed t.cursor
    let t ← { t with cursor, keyAllowed }.dropStale
    (t.closeBlocks t.cursor.column).readToken

/-- Makes the queue ready to give a token: it is not empty, and no possible key stands first. -/
def fill : Nat → TokenStream → Option TokenStream
  | 0, t => some t
  | fuel + 1, t =>
    if t.queue.isEmpty then t.fetch >>= fill fuel
    else do
      let t ← t.dropStale
      if t.keys.any fun k ↦ k.any (·.number == t.taken) then t.fetch >>= fill fuel
      else return t

/-- The next token, with the stream in which it is still the next. -/
def peek (t : TokenStream) : Option (Token × TokenStream) := do
  let t ← fill (t.cursor.rest.length + 3) t
  let token ← t.queue.head?
  return (token, t)

/-- The stream behind the next token. -/
def drop (t : TokenStream) : TokenStream :=
  { t with queue := t.queue.drop 1, taken := t.taken + 1 }

end TokenStream

end VersionedSite.Yaml
