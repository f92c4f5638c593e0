import VersionedSite.Liquid.Template

/-!
# Markup

The text of a template taken apart into elements: plain text, outputs between double braces, and
tags between a brace and a percent sign. A hyphen on the inner side of a delimiter removes the
blanks on its outer side; those blanks belong to the element.

What stands between delimiters is read without looking back: a literal is taken wherever one
starts, even if a name goes on after it, and what cannot be read makes the opening delimiter a
stray. The elements keep where they start, because a block may want its text as it was written.
-/

namespace VersionedSite.Liquid

/-! ## Names and literals -/

/-- The blanks of markup are spaces and line breaks. -/
def isMarkupBlank (c : Char) : Bool := c == ' ' || c == '\n' || c == '\r'

def skipBlanks (s : List Char) : List Char := s.dropWhile isMarkupBlank

/-- A hyphen that belongs to a name and not to a closing delimiter. -/
def startsWithHyphen : List Char → Bool
  | '-' :: '}' :: '}' :: _ => false
  | '-' :: '%' :: '}' :: _ => false
  | '-' :: _ => true
  | _ => false

/-- The characters of a name that follow its first. -/
def nameTail : List Char → List Char × List Char
  | [] => ([], [])
  | c :: s =>
    if c.isAlphanum || c == '_' || startsWithHyphen (c :: s) then
      let (name, rest) := nameTail s
      (c :: name, rest)
    else ([], c :: s)

/-- A name at the start of the text. -/
def name? : List Char → Option (String × List Char)
  | [] => none
  | c :: s =>
    if c.isAlpha || c == '_' || startsWithHyphen (c :: s) then
      let (name, rest) := nameTail s
      some (String.ofList (c :: name), rest)
    else none

/-- A text between quotes, after the opening one. -/
def quotedText? (quote : Char) : List Char → Option (List Char × List Char)
  | [] => none
  | c :: s =>
    if c == quote then some ([], s)
    else (quotedText? quote s).map fun (text, rest) ↦ (c :: text, rest)

/-- Digits, with a fraction if a point and a digit follow. A whole number that does not fit a word
becomes the float nearest to it, so that it is one token like any other number. -/
def unsigned? (sign s : List Char) : Option (Value × List Char) :=
  let whole := s.takeWhile Char.isDigit
  let rest := s.dropWhile Char.isDigit
  if whole.isEmpty then none
  else
    let word := (Decimal.readInt? (sign ++ whole)).filter Value.fitsWord
    let integer := (word.map Value.int).or ((Decimal.readFloat? (sign ++ whole)).map Value.float)
      |>.map (·, rest)
    match rest with
    | '.' :: after =>
      let fraction := after.takeWhile Char.isDigit
      if fraction.isEmpty then integer
      else (Decimal.readFloat? (sign ++ whole ++ '.' :: fraction)).map
        (Value.float ·, after.dropWhile Char.isDigit)
    | _ => integer

def number? : List Char → Option (Value × List Char)
  | '+' :: s => unsigned? ['+'] s
  | '-' :: s => unsigned? ['-'] s
  | s => unsigned? [] s

/-- The literals that are words. -/
def literalWords : List (List Char × Value) := [
  (['n', 'i', 'l'], .nil), (['n', 'u', 'l', 'l'], .nil), (['e', 'm', 'p', 't', 'y'], .empty),
  (['b', 'l', 'a', 'n', 'k'], .blank), (['t', 'r', 'u', 'e'], .bool true),
  (['f', 'a', 'l', 's', 'e'], .bool false)]

/-- A word at the start of the text, whatever follows it. -/
def literalWord? (s : List Char) : Option (Value × List Char) :=
  literalWords.findSome? fun (word, v) ↦ (Text.dropStart? word s).map (v, ·)

/-- A literal at the start of the text. -/
def literal? (s : List Char) : Option (Value × List Char) :=
  match s with
  | '\'' :: r => (quotedText? '\'' r).map fun (t, rest) ↦ (.ofChars t, rest)
  | '"' :: r => (quotedText? '"' r).map fun (t, rest) ↦ (.ofChars t, rest)
  | s => (literalWord? s).or (number? s)

/-! ## Expressions -/

mutual

/-- An expression at the start of the text; `fuel` bounds its length. -/
def exprFuel? : Nat → List Char → Option (Expr × List Char)
  | 0, _ => none
  | fuel + 1, s =>
    match literal? s with
    | some (v, rest) => some (.literal v, rest)
    | none =>
      match name? s with
      | some (name, rest) =>
        let (path, rest) := pathFuel fuel rest
        some (.reference name path, rest)
      | none => none

/-- The indexes after the name of a variable: names after points, and expressions in brackets. -/
def pathFuel : Nat → List Char → List Expr × List Char
  | 0, s => ([], s)
  | fuel + 1, s =>
    match s with
    | '.' :: r =>
      match name? r with
      | some (name, rest) =>
        let (path, rest) := pathFuel fuel rest
        (.literal (.text name) :: path, rest)
      | none => ([], s)
    | '[' :: r =>
      match exprFuel? fuel (skipBlanks r) with
      | some (e, rest) =>
        match skipBlanks rest with
        | ']' :: rest =>
          let (path, rest) := pathFuel fuel rest
          (e :: path, rest)
        | _ => ([], s)
      | none => ([], s)
    | _ => ([], s)

end

def expr? (s : List Char) : Option (Expr × List Char) := exprFuel? (s.length + 1) s

/-! ## Filters -/

/-- An argument of a filter, with or without a name. -/
structure Argument where
  name : Option String
  value : Expr

/-- A filter as it is written. -/
structure WrittenCall where
  name : String
  arguments : List Argument

/-- A named argument, if there is one at the start of the text. -/
def namedArgument? (s : List Char) : Option (Argument × List Char) := do
  let (name, rest) ← name? s
  let rest ← Text.dropStart? [':'] (skipBlanks rest)
  let (value, rest) ← expr? (skipBlanks rest)
  return (⟨some name, value⟩, rest)

def argument? (s : List Char) : Option (Argument × List Char) :=
  (namedArgument? s).or ((expr? s).map fun (e, rest) ↦ (⟨none, e⟩, rest))

/-- The arguments that follow the first one. -/
def moreArguments : Nat → List Char → List Argument × List Char
  | 0, s => ([], s)
  | fuel + 1, s =>
    match skipBlanks s with
    | ',' :: r =>
      match argument? (skipBlanks r) with
      | some (a, rest) =>
        let (more, rest) := moreArguments fuel rest
        (a :: more, rest)
      | none => ([], s)
    | _ => ([], s)

/-- The arguments of a filter, after its name. -/
def arguments (s : List Char) : List Argument × List Char :=
  match skipBlanks s with
  | ':' :: r =>
    match argument? (skipBlanks r) with
    | some (a, rest) =>
      let (more, rest) := moreArguments rest.length rest
      (a :: more, rest)
    | none => ([], s)
  | _ => ([], s)

/-- The filters that follow an expression. -/
def writtenCalls : Nat → List Char → List WrittenCall × List Char
  | 0, s => ([], s)
  | fuel + 1, s =>
    match skipBlanks s with
    | '|' :: r =>
      match name? (skipBlanks r) with
      | some (name, rest) =>
        let (args, rest) := arguments rest
        let (more, rest) := writtenCalls fuel rest
        (⟨name, args⟩ :: more, rest)
      | none => ([], s)
    | _ => ([], s)

/-- An expression with its filters, as they are written. -/
structure WrittenChain where
  entry : Expr
  calls : List WrittenCall

def chain? (s : List Char) : Option (WrittenChain × List Char) := do
  let (entry, rest) ← expr? s
  let (calls, rest) := writtenCalls rest.length rest
  return (⟨entry, calls⟩, rest)

/-! ## Tags -/

/-- What stands between the name of a tag and its end. -/
inductive Token where
  | chain (c : WrittenChain)
  | range (first last : Expr)
  | symbol (s : String)

/-- Two expressions with two points between them, in parentheses. -/
def range? (s : List Char) : Option (Token × List Char) := do
  let rest ← Text.dropStart? ['('] s
  let (first, rest) ← expr? (skipBlanks rest)
  let rest ← Text.dropStart? ['.', '.'] (skipBlanks rest)
  let (last, rest) ← expr? (skipBlanks rest)
  let rest ← Text.dropStart? [')'] (skipBlanks rest)
  return (.range first last, rest)

/-- Symbols; of two that fit, the longer one stands first. -/
def symbols : List String := ["==", "!=", "<>", "<=", ">=", "=", "<", ">", ":", ","]

def symbol? (s : List Char) : Option (Token × List Char) :=
  symbols.findSome? fun w ↦ (Text.dropStart? w.toList s).map (.symbol w, ·)

def token? (s : List Char) : Option (Token × List Char) :=
  ((range? s).or ((chain? s).map fun (c, rest) ↦ (.chain c, rest))).or (symbol? s)

def tokens : Nat → List Char → List Token × List Char
  | 0, s => ([], s)
  | fuel + 1, s =>
    match token? (skipBlanks s) with
    | some (t, rest) =>
      let (more, rest) := tokens fuel rest
      (t :: more, rest)
    | none => ([], s)

/-! ## Elements -/

inductive ElementKind where
  | text (s : List Char)
  | output (c : WrittenChain)
  | tag (name : String) (arguments : List Token)
  /-- A delimiter that opens nothing that can be read. -/
  | stray

/-- A part of a template, and the text from its start on. -/
structure Element where
  start : List Char
  kind : ElementKind

/-- The text after an opening delimiter, whose second character is `mark`. -/
def dropOpening? (mark : Char) (s : List Char) : Option (List Char) :=
  (Text.dropStart? ['{', mark, '-'] (skipBlanks s)).or (Text.dropStart? ['{', mark] s)

/-- The text after a closing delimiter, whose first character is `mark`. -/
def dropClosing? (mark : Char) (s : List Char) : Option (List Char) :=
  ((Text.dropStart? ['-', mark, '}'] s).map skipBlanks).or (Text.dropStart? [mark, '}'] s)

def isOpening (s : List Char) : Bool := (dropOpening? '{' s).isSome || (dropOpening? '%' s).isSome

def output? (s : List Char) : Option (ElementKind × List Char) := do
  let rest ← dropOpening? '{' s
  let (c, rest) ← chain? (skipBlanks rest)
  let rest ← dropClosing? '}' (skipBlanks rest)
  return (.output c, rest)

def tag? (s : List Char) : Option (ElementKind × List Char) := do
  let rest ← dropOpening? '%' s
  let (name, rest) ← name? (skipBlanks rest)
  let (args, rest) := tokens rest.length rest
  let rest ← dropClosing? '%' (skipBlanks rest)
  return (.tag name args, rest)

/-- The text up to the next opening delimiter. -/
def plainText : List Char → List Char × List Char
  | [] => ([], [])
  | c :: s =>
    if isOpening (c :: s) then ([], c :: s)
    else
      let (text, rest) := plainText s
      (c :: text, rest)

/-- The element that a text which is not empty starts with. -/
def element (c : Char) (s : List Char) : ElementKind × List Char :=
  match (output? (c :: s)).or (tag? (c :: s)) with
  | some found => found
  | none =>
    if isOpening (c :: s) then (.stray, s)
    else
      let (text, rest) := plainText (c :: s)
      (.text text, rest)

def elementsFuel : Nat → List Char → List Element
  | 0, _ => []
  | _ + 1, [] => []
  | fuel + 1, c :: s =>
    let (kind, rest) := element c s
    ⟨c :: s, kind⟩ :: elementsFuel fuel rest

/-- The elements of a template. -/
def elements (s : List Char) : List Element := elementsFuel s.length s

end VersionedSite.Liquid
