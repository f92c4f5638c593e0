import VersionedSite.Yaml.Datum

/-!
# Faults in a document

Why a document cannot be read as a value of some type. A fault is a cause and, for most causes,
the place of the value that is to blame. The place is given by the innermost reader that has one:
a check made after a value has been read, and a field that is missing or given twice, is blamed on
the collection around it.
-/

namespace VersionedSite.Yaml

/-- The way from the root of a document to a value. -/
inductive Path where
  | root
  | item (parent : Path) (index : Nat)
  | field (parent : Path) (name : String)
  /-- The value of a key that is not written as a scalar. -/
  | unnamed (parent : Path)
  deriving DecidableEq, Repr

def Path.text : Path → String
  | root => "."
  | item parent i => s!"{parent.text}[{i}]"
  | field root name => name
  | field parent name => s!"{parent.text}.{name}"
  | unnamed root => "?"
  | unnamed parent => s!"{parent.text}.?"

inductive Cause where
  /-- The document is cut off, or another one follows it. -/
  | malformed
  | endOfInput
  | tooDeep
  | tooManyAliases
  | wrongType (found expected : String)
  | wrongValue (found expected : String)
  | wrongLength (length : Nat) (expected : String)
  | unknownField (name : String) (known : List String)
  | unknownVariant (name : String) (known : List String)
  | duplicateField (name : String)
  | missingField (name : String)
  /-- A value of a choice by type carries a tag. -/
  | taggedValue
  /-- A text that the rules of its field refuse. -/
  | refused (why : String)
  deriving DecidableEq, Repr

/-- A cause that is never blamed on a place. -/
def Cause.isPlaceless : Cause → Bool
  | .malformed | .endOfInput | .tooDeep | .tooManyAliases => true
  | _ => false

structure Fault where
  cause : Cause
  path : Option Path
  deriving DecidableEq, Repr

/-- The fault blamed on `p`, unless it is blamed on a place already. -/
def Fault.blame (f : Fault) (p : Path) : Fault :=
  if f.cause.isPlaceless || f.path.isSome then f else { f with path := some p }

/-- The names in a message that lists what would have been right. -/
def listNames : List String → String
  | [] => "there are no fields"
  | [a] => s!"expected `{a}`"
  | [a, b] => s!"expected `{a}` or `{b}`"
  | names => "expected one of " ++ ", ".intercalate (names.map fun n ↦ s!"`{n}`")

def Cause.message : Cause → String
  | .malformed => "malformed document"
  | .endOfInput => "EOF while parsing a value"
  | .tooDeep => "recursion limit exceeded"
  | .tooManyAliases => "repetition limit exceeded"
  | .wrongType found expected => s!"invalid type: {found}, expected {expected}"
  | .wrongValue found expected => s!"invalid value: {found}, expected {expected}"
  | .wrongLength n expected => s!"invalid length {n}, expected {expected}"
  | .unknownField name known => s!"unknown field `{name}`, {listNames known}"
  | .unknownVariant name known => s!"unknown variant `{name}`, {listNames known}"
  | .duplicateField name => s!"duplicate field `{name}`"
  | .missingField name => s!"missing field `{name}`"
  | .taggedValue => "untagged and internally tagged enums do not support enum input"
  | .refused why => why

/-- The message of a fault, with the place in front unless it is the root. -/
def Fault.message (f : Fault) : String :=
  match f.path with
  | none | some .root => f.cause.message
  | some p => s!"{p.text}: {f.cause.message}"

end VersionedSite.Yaml
