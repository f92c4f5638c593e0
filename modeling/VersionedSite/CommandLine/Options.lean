import VersionedSite.Text.Search

/-!
# Options

The words of a command line taken apart into options and positional words. An option is written
with two hyphens and its name, or with one hyphen and its letter, and letters may share a hyphen.
A value follows in the same word, after an equals sign or a letter, or as the next word, unless
that looks like an option. After two hyphens alone every word is positional.
-/

namespace VersionedSite.CommandLine

/-- An option that a command knows. -/
structure OptionSpec where
  name : String
  letter : Option Char := none
  hasValue : Bool
  /-- An empty value is refused. -/
  nonempty : Bool := false
  deriving DecidableEq, Repr

/-- An option that has been given, with its value or none. -/
structure Given where
  name : String
  value : String
  deriving DecidableEq, Repr

/-- What a command line comes to: options, positional words, and, if the first positional word
names a further command, the words after it. -/
structure Words where
  options : List Given
  positional : List String
  command : Option (String × List String)
  deriving DecidableEq, Repr

namespace Words

def empty : Words := ⟨[], [], none⟩

/-- The value of an option that is given at most once. -/
def value? (w : Words) (name : String) : Option String :=
  (w.options.find? (·.name == name)).map (·.value)

/-- How often an option is given. -/
def count (w : Words) (name : String) : Nat := (w.options.filter (·.name == name)).length

end Words

/-- A word that is taken for an option and not for a value. -/
def looksLikeOption (word : String) : Bool := word.toList.head? == some '-' && word != "-"

/-- A value that the option takes. -/
def OptionSpec.given? (o : OptionSpec) (value : String) : Option Given :=
  if o.nonempty && value.isEmpty then none else some ⟨o.name, value⟩

/-- The options of letters that share a hyphen, and the one whose value is yet to come. -/
def letters? (specs : List OptionSpec) : List Char → Option (List Given × Option OptionSpec)
  | [] => some ([], none)
  | c :: rest => do
    let o ← specs.find? (·.letter == some c)
    if o.hasValue then
      match rest with
      | [] => some ([], some o)
      | '=' :: value => return ([← o.given? (String.ofList value)], none)
      | value => return ([← o.given? (String.ofList value)], none)
    else
      let (more, pending) ← letters? specs rest
      return (⟨o.name, ""⟩ :: more, pending)

/-- An option by its name, with a value in the same word if there is an equals sign. -/
def named? (specs : List OptionSpec) (text : List Char) :
    Option (List Given × Option OptionSpec) := do
  let (name, value) :=
    match Text.cutAt? ['='] text with
    | some (name, value) => (name, some (String.ofList value))
    | none => (text, none)
  let o ← specs.find? (·.name == String.ofList name)
  match o.hasValue, value with
  | true, some v => return ([← o.given? v], none)
  | true, none => some ([], some o)
  | false, some _ => none
  | false, none => some ([⟨o.name, ""⟩], none)

/-- The options in a word that looks like one. -/
def options? (specs : List OptionSpec) (word : String) : Option (List Given × Option OptionSpec) :=
  match word.toList with
  | '-' :: '-' :: name => named? specs name
  | '-' :: letters => letters? specs letters
  | _ => none

/-- The words of a command line. If `nested` holds, the first positional word names a command. -/
def read? (specs : List OptionSpec) (nested : Bool) : List String → Option Words
  | [] => some .empty
  | word :: rest =>
    if word = "--" then if nested && !rest.isEmpty then none else some ⟨[], rest, none⟩
    else if looksLikeOption word then
      match options? specs word with
      | none => none
      | some (given, none) =>
        (read? specs nested rest).map fun w ↦ { w with options := given ++ w.options }
      | some (given, some o) =>
        match rest with
        | [] => none
        | value :: rest =>
          if looksLikeOption value then none
          else do
            let last ← o.given? value
            let w ← read? specs nested rest
            return { w with options := given ++ last :: w.options }
    else if nested then some ⟨[], [], some (word, rest)⟩
    else (read? specs nested rest).map fun w ↦ { w with positional := word :: w.positional }

/-- No option with a value is given twice. -/
def isSingle (specs : List OptionSpec) (w : Words) : Bool :=
  specs.all fun o ↦ !o.hasValue || w.count o.name ≤ 1

/-- The words of a command line, if its options are known and well used. -/
def Words.read? (specs : List OptionSpec) (nested : Bool) (words : List String) : Option Words :=
  (CommandLine.read? specs nested words).filter (isSingle specs)

end VersionedSite.CommandLine
