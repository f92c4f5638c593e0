import VersionedSite.Liquid.Markup

/-!
# Reading templates

From elements to nodes. There are two dialects: the plain one has outputs alone, and the standard
one has all tags and filters. Reading goes over the elements once; a block reads the nodes up to
the tag that ends it or goes on with another part. Whatever a tag does not take as an argument is
refused here, so that a template which has been read can only fail on its data.

Comments need not be readable, but a block that opens in a comment takes its elements with it. So
reading is a state over the elements that are left, and a fault leaves that state as it is.
-/

namespace VersionedSite.Liquid

/-- Which tags and filters there are. -/
inductive Dialect where
  /-- None. -/
  | plain
  | standard
  deriving DecidableEq, Repr

/-- Why a text is no template. -/
inductive ReadFault where
  | stray
  | unknownTag (name : String)
  | unknownFilter (name : String) (available : List String)
  | badFilterArguments (name : String)
  | badArguments (tag : String)
  | unclosed (tag : String)
  deriving DecidableEq, Repr

/-- The fault as a message shows it. -/
def ReadFault.message : ReadFault → String
  | stray => "liquid: a delimiter opens nothing\n"
  | unknownTag name => s!"liquid: no tag has the name {name}\n"
  | unknownFilter name available =>
    let names := ", ".intercalate available
    "liquid: Unknown filter\n  with:\n"
      ++ s!"    requested filter={name}\n    available filters={names}\n"
  | badFilterArguments name => s!"liquid: the filter {name} does not take these arguments\n"
  | badArguments tag => s!"liquid: the tag {tag} does not take these arguments\n"
  | unclosed tag => s!"liquid: the block {tag} is not closed\n"

/-! ## Filters -/

/-- The filter that is meant by a name and its arguments, none of which may be named. -/
def WrittenCall.resolve (d : Dialect) (c : WrittenCall) : Except ReadFault FilterCall :=
  match if d = .plain then none else Filter.find? c.name with
  | none => .error (.unknownFilter c.name (if d = .plain then [] else Filter.names))
  | some (f, least, most) =>
    let count := c.arguments.length
    if c.arguments.any (·.name.isSome) || count < least || most < count then
      .error (.badFilterArguments c.name)
    else .ok ⟨f, c.arguments.map (·.value)⟩

def WrittenChain.resolve (d : Dialect) (c : WrittenChain) : Except ReadFault Chain := do
  return ⟨c.entry, ← c.calls.mapM (·.resolve d)⟩

/-! ## Arguments of tags -/

namespace Token

/-- A lone expression. -/
def expr? : Token → Option Expr
  | .chain ⟨e, []⟩ => some e
  | _ => none

/-- A lone name. -/
def name? : Token → Option String
  | .chain ⟨.reference name [], []⟩ => some name
  | _ => none

def isWord (w : String) (t : Token) : Bool := t.name? == some w

def isSymbol (w : String) : Token → Bool
  | .symbol s => s == w
  | _ => false

def comparison? : Token → Option Comparison
  | .symbol "==" => some .equal
  | .symbol "!=" => some .notEqual
  | .symbol "<>" => some .notEqual
  | .symbol "<" => some .less
  | .symbol ">" => some .greater
  | .symbol "<=" => some .lessOrEqual
  | .symbol ">=" => some .greaterOrEqual
  | t => if t.isWord "contains" then some .contains else none

end Token

/-- A lone name that is the whole of the arguments. -/
def onlyName? : List Token → Option String
  | [t] => t.name?
  | _ => none

/-- An expression, or a comparison of two. -/
def comparison? : List Token → Option (Condition × List Token)
  | [] => none
  | t :: rest => do
    let left ← t.expr?
    match rest with
    | [] => some (.holds left, [])
    | u :: after =>
      match u.comparison? with
      | none => some (.holds left, rest)
      | some c =>
        match after with
        | [] => none
        | v :: after => v.expr?.map fun right ↦ (.compare c left right, after)

/-- A condition and those that are joined to it by `and`. -/
def conjunction? : Nat → Condition → List Token → Option (Condition × List Token)
  | 0, c, ts => some (c, ts)
  | _ + 1, c, [] => some (c, [])
  | fuel + 1, c, t :: rest =>
    if t.isWord "and" then do
      let (right, rest) ← comparison? rest
      conjunction? fuel (.both c right) rest
    else some (c, t :: rest)

/-- A condition and those that are joined to it by `or`, which binds less than `and`. -/
def disjunction? : Nat → Condition → List Token → Option Condition
  | _, c, [] => some c
  | 0, _, _ :: _ => none
  | fuel + 1, c, t :: rest =>
    if t.isWord "or" then do
      let (right, rest) ← comparison? rest
      let (right, rest) ← conjunction? rest.length right rest
      disjunction? fuel (.either c right) rest
    else none

def condition? (ts : List Token) : Option Condition := do
  let (c, rest) ← comparison? ts
  let (c, rest) ← conjunction? rest.length c rest
  disjunction? rest.length c rest

/-- The values of a case: expressions with `or` or a comma between them. -/
def caseValues? : List Token → Option (List Expr)
  | [] => none
  | [t] => t.expr?.map ([·])
  | t :: sep :: rest => do
    let e ← t.expr?
    if sep.isWord "or" || sep.isSymbol "," then return e :: (← caseValues? rest) else none

/-- Expressions with commas between them; one comma may stand at the end. -/
def listed? : List Token → Option (List Expr)
  | [] => some []
  | [t] => t.expr?.map ([·])
  | t :: sep :: rest => do
    let e ← t.expr?
    if sep.isSymbol "," then return e :: (← listed? rest) else none

mutual

/-- How an expression is written, up to the choice of quotes and blanks. -/
def Expr.source : Expr → String
  | .literal (.text s) => s!"\"{s}\""
  | .literal .nil => "nil"
  | .literal .empty => "empty"
  | .literal .blank => "blank"
  | .literal v => String.ofList v.chars
  | .reference name path => name ++ sourceOfPath path

def sourceOfPath : List Expr → String
  | [] => ""
  | e :: rest => s!"[{e.source}]" ++ sourceOfPath rest

end

/-- The group of a cycle that is named before a colon. -/
def Token.group? (t : Token) : Option String :=
  match t.expr? with
  | some (.reference name []) => some name
  | some (.literal v) => some (String.ofList v.chars)
  | _ => none

/-- The group of a cycle and its values. A group without a name, or with an empty one, goes by its
values. -/
def cycle? (ts : List Token) : Option (String × List Expr) := do
  let (group, values) ←
    match ts with
    | t :: colon :: rest =>
      if colon.isSymbol ":" then do pure (← t.group?, rest) else pure ("", ts)
    | _ => pure ("", ts)
  let values ← listed? values
  if values.isEmpty then none
  else some (if group.isEmpty then "-".intercalate (values.map Expr.source) else group, values)

/-- Parameters of an embedded template: a name, a colon and an expression each, with commas
between them. In the place of the last comma any token may stand. -/
def parameters? : List Token → Option (List (String × Expr))
  | [] => some []
  | n :: colon :: v :: rest => do
    let name ← n.name?
    let value ← v.expr?
    if !colon.isSymbol ":" then none
    else
      match rest with
      | [] | [_] => some [(name, value)]
      | comma :: rest =>
        if comma.isSymbol "," then return (name, value) :: (← parameters? rest) else none
  | _ => none

/-- Parameters with a comma before each of them; one comma may stand at the end. -/
def furtherParameters? : List Token → Option (List (String × Expr))
  | [] => some []
  | [comma] => if comma.isSymbol "," then some [] else none
  | comma :: n :: colon :: v :: rest => do
    let name ← n.name?
    let value ← v.expr?
    if comma.isSymbol "," && colon.isSymbol ":" then
      return (name, value) :: (← furtherParameters? rest)
    else none
  | _ => none

/-- The template to embed in the scope, and its parameters. -/
def include? : List Token → Option Node
  | [] => none
  | t :: rest => do return .include (← t.expr?) (← parameters? rest)

/-- What a loop runs over. -/
def Token.source? : Token → Option LoopSource
  | .range first last => some (.range first last)
  | t => t.expr?.map .items

/-- The template to embed in isolation, and its parameters. One more value may be given to it as
the first parameter, or the values of a source under a name, which hides a parameter of that
name. -/
def isolate? : List Token → Option Node
  | [] => none
  | [t] => do return .isolate (← t.expr?) [] none
  | t :: word :: rest => do
    let template ← t.expr?
    match word.name?, rest with
    | some "with", v :: as :: n :: rest =>
      let ps ← furtherParameters? rest
      if as.isWord "as" then return .isolate template ((← n.name?, ← v.expr?) :: ps) none
      else none
    | some "for", v :: as :: n :: rest =>
      let ps ← furtherParameters? rest
      if as.isWord "as" then return .isolate template ps (some (← n.name?, ← v.source?)) else none
    | _, _ => return .isolate template (← furtherParameters? (word :: rest)) none

/-- What may follow the source of a loop. -/
structure LoopOptions where
  limit : Option Expr := none
  offset : Option Expr := none
  columns : Option Expr := none
  reversed : Bool := false

/-- The options of a loop, or of the rows of a table. -/
def loopOptions? (table : Bool) : List Token → LoopOptions → Option LoopOptions
  | [], o => some o
  | [t], o => if !table && t.isWord "reversed" then some { o with reversed := true } else none
  | [t, u], o =>
    if !table && t.isWord "reversed" then loopOptions? table [u] { o with reversed := true }
    else none
  | t :: colon :: v :: rest, o =>
    if !table && t.isWord "reversed" then
      loopOptions? table (colon :: v :: rest) { o with reversed := true }
    else if !colon.isSymbol ":" then none
    else do
      let e ← v.expr?
      match t.name?, table with
      | some "limit", _ => loopOptions? table rest { o with limit := some e }
      | some "offset", _ => loopOptions? table rest { o with offset := some e }
      | some "cols", true => loopOptions? table rest { o with columns := some e }
      | _, _ => none

/-- The head of a loop: a name, `in`, a source and options. -/
def loopHead? (table : Bool) : List Token → Option (LoopHead × LoopOptions)
  | n :: word :: source :: rest => do
    let item ← n.name?
    let source ← source.source?
    if !word.isWord "in" then none
    else
      let o ← loopOptions? table rest {}
      return (⟨item, source, o.limit, o.offset⟩, o)
  | _ => none

/-! ## Blocks -/

/-- A reader takes elements from the front. What it has taken stays taken when it fails. -/
abbrev Reading := EStateM ReadFault (List Element)

/-- The next element, if there is one. -/
def nextElement : Reading (Option Element) := fun es ↦
  match es with
  | [] => .ok none []
  | e :: rest => .ok (some e) rest

/-- Takes what a reader takes, whether it fails or not. -/
def Reading.skipped {α : Type} (r : Reading α) : Reading Unit := fun es ↦
  match r es with
  | .ok _ rest => .ok () rest
  | .error _ rest => .ok () rest

/-- The argument that a tag takes, or its refusal. -/
def argument {α : Type} (tag : String) : Option α → Reading α
  | some a => pure a
  | none => throw (.badArguments tag)

/-- Refuses arguments. -/
def noArguments (tag : String) (ts : List Token) : Reading Unit :=
  if ts.isEmpty then pure () else throw (.badArguments tag)

/-- A block by its name, and the tags that start other parts of it. -/
structure Block where
  name : String
  parts : List String := []

/-- How a part of a block ends. -/
inductive Ending where
  /-- The block is closed. -/
  | close
  /-- Another part starts. -/
  | part (tag : String) (arguments : List Token)

/-- How an element ends a part of a block, if it does. An end tag takes no arguments. -/
def Block.ending? (b : Block) : ElementKind → Reading (Option Ending)
  | .tag name ts =>
    if name == "end" ++ b.name then do
      noArguments name ts
      return some .close
    else if b.parts.contains name then return some (.part name ts)
    else return none
  | _ => return none

/-- The text from the start of the elements to the start of `e`, which is one of them. -/
def textUpTo (e : Element) : List Element → List Char
  | [] => []
  | first :: _ => first.start.take (first.start.length - e.start.length)

/-- Whether an element ends a raw block. With arguments, the end tag is a part of the text. -/
def Element.endsRaw (e : Element) : Bool :=
  match e.kind with
  | .tag name ts => name == "endraw" && ts.isEmpty
  | _ => false

/-- The text up to the end of a raw block. -/
def readRaw : Reading (List Char) := fun es ↦
  match es.dropWhile fun e ↦ !e.endsRaw with
  | [] => .error (.unclosed "raw") []
  | e :: rest => .ok (textUpTo e es) rest

mutual

/-- The nodes of a part of a block and how it ends, or the nodes of a template, which ends with
its elements. `fuel` bounds the number of elements. -/
def readNodes (d : Dialect) : Nat → Option Block → Reading (List Node × Ending)
  | 0, _ => throw .stray
  | fuel + 1, block => do
    match ← nextElement, block with
    | none, none => return ([], .close)
    | none, some b => throw (.unclosed b.name)
    | some e, block =>
      let ended ←
        match block with
        | some b => b.ending? e.kind
        | none => pure none
      match ended with
      | some ending => return ([], ending)
      | none =>
        let node ←
          match e.kind with
          | .stray => throw .stray
          | .text s => pure [.text s]
          | .output c => do pure [.output (← ofExcept (c.resolve d))]
          | .tag name ts => if d = .plain then throw (.unknownTag name) else readTag d fuel name ts
        let (nodes, ending) ← readNodes d fuel block
        return (node ++ nodes, ending)

/-- The node that a tag opens. A comment is no node. -/
def readTag (d : Dialect) : Nat → String → List Token → Reading (List Node)
  | 0, name, _ => throw (.unclosed name)
  | fuel + 1, name, ts =>
    match name with
    | "assign" =>
      match ts with
      | [n, eq, .chain c] => do
        let n ← argument name n.name?
        if !eq.isSymbol "=" then throw (.badArguments name)
        else return [.assign n (← ofExcept (c.resolve d))]
      | _ => throw (.badArguments name)
    | "increment" => return [.increment (← argument name (onlyName? ts))]
    | "decrement" => return [.decrement (← argument name (onlyName? ts))]
    | "cycle" => do
      let (group, values) ← argument name (cycle? ts)
      return [.cycle group values]
    | "include" => return [← argument name (include? ts)]
    | "render" => return [← argument name (isolate? ts)]
    | "break" => do
      noArguments name ts
      return [.leave]
    | "continue" => do
      noArguments name ts
      return [.next]
    | "comment" => do
      noArguments name ts
      skipComment d fuel
      return []
    | "raw" => do
      noArguments name ts
      return [.text (← readRaw)]
    | "capture" => do
      let n ← argument name (onlyName? ts)
      let (body, _) ← readNodes d fuel (some ⟨name, []⟩)
      return [.capture n body]
    | "ifchanged" => do
      noArguments name ts
      let (body, _) ← readNodes d fuel (some ⟨name, []⟩)
      return [.ifChanged body]
    | "if" => return [← readBranch d fuel ⟨name, ["else", "elsif"]⟩ true ts]
    | "unless" => return [← readBranch d fuel ⟨name, ["else"]⟩ false ts]
    | "case" => do
      let target ← argument name (match ts with | [t] => t.expr? | _ => none)
      let (_, ending) ← readNodes d fuel (some ⟨name, ["when", "else"]⟩)
      let (cases, otherwise) ← readCases d fuel ending
      return [.choose target cases otherwise]
    | "for" => do
      let (head, options) ← argument name (loopHead? false ts)
      let (body, ending) ← readNodes d fuel (some ⟨name, ["else"]⟩)
      match ending with
      | .close => return [.loop head options.reversed body []]
      | .part tag ts => do
        noArguments tag ts
        let (otherwise, _) ← readNodes d fuel (some ⟨name, []⟩)
        return [.loop head options.reversed body otherwise]
    | "tablerow" => do
      let (head, options) ← argument name (loopHead? true ts)
      let (body, _) ← readNodes d fuel (some ⟨name, []⟩)
      return [.tableRows head options.columns body]
    | name => throw (.unknownTag name)

/-- Passes over a comment. Its tags are read only to find where they end, but a comment in it has
to be one. -/
def skipComment (d : Dialect) : Nat → Reading Unit
  | 0 => throw (.unclosed "comment")
  | fuel + 1 => do
    match ← nextElement with
    | none => throw (.unclosed "comment")
    | some e =>
      if (← Block.ending? ⟨"comment", []⟩ e.kind).isSome then return
      match e.kind with
      | .tag "comment" ts => discard (readTag d fuel "comment" ts)
      | .tag name ts => (readTag d fuel name ts).skipped
      | _ => pure ()
      skipComment d fuel

/-- A conditional block, after its opening tag or an `elsif`. What follows an `else` is ignored. -/
def readBranch (d : Dialect) : Nat → Block → Bool → List Token → Reading Node
  | 0, block, _, _ => throw (.unclosed block.name)
  | fuel + 1, block, expected, ts => do
    let c ← argument block.name (condition? ts)
    let (yes, ending) ← readNodes d fuel (some block)
    match ending with
    | .close => return .branch c expected yes []
    | .part "elsif" ts => return .branch c expected yes [← readBranch d fuel block expected ts]
    | .part _ _ => do
      let (no, _) ← readNodes d fuel (some ⟨block.name, []⟩)
      return .branch c expected yes no

/-- The parts of a `case` block after one that has ended. -/
def readCases (d : Dialect) :
    Nat → Ending → Reading (List (List Expr × List Node) × List Node)
  | 0, _ => throw (.unclosed "case")
  | _ + 1, .close => return ([], [])
  | fuel + 1, .part "when" ts => do
    let values ← argument "when" (caseValues? ts)
    let (body, ending) ← readNodes d fuel (some ⟨"case", ["when", "else"]⟩)
    let (cases, otherwise) ← readCases d fuel ending
    return ((values, body) :: cases, otherwise)
  | fuel + 1, .part tag ts => do
    noArguments tag ts
    let (body, _) ← readNodes d fuel (some ⟨"case", []⟩)
    return ([], body)

end

/-- The template that a text is. -/
def Template.ofChars (d : Dialect) (s : List Char) : Except ReadFault Template :=
  let es := elements s
  match readNodes d (3 * es.length + 1) none es with
  | .ok (nodes, _) _ => .ok nodes
  | .error f _ => .error f

def Template.ofString (d : Dialect) (s : String) : Except ReadFault Template :=
  Template.ofChars d s.toList

end VersionedSite.Liquid
