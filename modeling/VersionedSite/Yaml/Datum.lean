import VersionedSite.Decimal.Numeral
import VersionedSite.Decimal.Shortest
import VersionedSite.Text.Quoted

/-!
# What a scalar means

The value of a scalar whose type nobody asked for: null, a truth value, a whole number, a decimal
fraction, or a text. A plain scalar is the first of these that it can be read as. A field that
wants a text takes a plain scalar as it is written, so these rules show in two places only: in the
complaint about a value of a wrong type, and in the choice of quotes when a text is printed.
-/

namespace VersionedSite.Yaml

/-- How many bits a whole number needs. -/
inductive Width where
  | word
  | double
  deriving DecidableEq, Repr

inductive Datum where
  | null
  | bool (b : Bool)
  /-- A whole number without a minus sign. -/
  | natural (n : Nat) (width : Width)
  /-- The whole number that a minus sign makes of `n`, which may be zero. -/
  | negative (n : Nat) (width : Width)
  | float (x : Float)
  | text (s : String)
  deriving Repr

/-! ## Words -/

def readBool? (s : String) : Option Bool :=
  if s = "true" || s = "True" || s = "TRUE" then some true
  else if s = "false" || s = "False" || s = "FALSE" then some false
  else none

def isNullWord (s : String) : Bool := s = "null" || s = "Null" || s = "NULL" || s = "~"

/-! ## Numbers -/

def startsWithSign (s : List Char) : Bool := s.head?.any fun c ↦ c == '+' || c == '-'

/-- Digits with a needless zero before them, such as a telephone number, are no number. -/
def isPaddedDigits (s : List Char) : Bool :=
  let digits := if startsWithSign s then s.drop 1 else s
  digits.length > 1 && digits.head? == some '0' && digits.all Char.isDigit

/-- The base that two characters announce. -/
def base? : Char → Option Nat
  | 'x' => some 16
  | 'o' => some 8
  | 'b' => some 2
  | _ => none

/-- Digits of the base after its announcement, if the text starts with one. -/
def readBased? : List Char → Option Nat
  | '0' :: b :: rest => base? b >>= fun base ↦ Decimal.readNat? base rest
  | _ => none

/-- A whole number that is not negative, with an optional plus sign. -/
def readUnsigned? (s : List Char) : Option Nat :=
  let body := if s.head? == some '+' then s.drop 1 else s
  (readBased? body).or (if isPaddedDigits s then none else Decimal.readNat? 10 body)

/-- A whole number after a minus sign. -/
def readNegative? : List Char → Option Nat
  | '-' :: body =>
    (readBased? body).or (if isPaddedDigits body then none else Decimal.readNat? 10 body)
  | _ => none

/-- A whole number that fits into 128 bits. -/
def readInteger? (s : List Char) : Option Datum :=
  match readUnsigned? s with
  | some n =>
    if n < Nat.pow 2 64 then some (.natural n .word)
    else if n < Nat.pow 2 128 then some (.natural n .double)
    else none
  | none =>
    match readNegative? s with
    | some n =>
      if n ≤ Nat.pow 2 63 then some (.negative n .word)
      else if n ≤ Nat.pow 2 127 then some (.negative n .double)
      else none
    | none => none

/-- A decimal fraction, infinity, or the number that is none. -/
def readFraction? (s : List Char) : Option Float :=
  let body := if s.head? == some '+' then s.drop 1 else s
  let word := String.ofList body
  let whole := String.ofList s
  if s.head? == some '+' && startsWithSign body then none
  else if word = ".inf" || word = ".Inf" || word = ".INF" then some (1.0 / 0.0)
  else if whole = "-.inf" || whole = "-.Inf" || whole = "-.INF" then some (-1.0 / 0.0)
  else if whole = ".nan" || whole = ".NaN" || whole = ".NAN" then some (0.0 / 0.0)
  else (Decimal.readFloat? body).filter Float.isFinite

/-- The value of a plain scalar without a tag. -/
def Datum.ofPlain (s : String) : Datum :=
  if s.isEmpty || isNullWord s then .null
  else match readBool? s with
    | some b => .bool b
    | none =>
      match readInteger? s.toList with
      | some d => d
      | none =>
        if isPaddedDigits s.toList then .text s
        else match readFraction? s.toList with
          | some x => .float x
          | none => .text s

/-! ## Descriptions -/

/-- A decimal fraction, with a point also where there is no fraction. -/
def showFraction (x : Float) : String :=
  let s := Decimal.positional x
  if x.isFinite && !s.contains '.' then s ++ ".0" else s

/-- How a message names a value. -/
def Datum.describe : Datum → String
  | .null => "unit value"
  | .bool b => s!"boolean `{b}`"
  | .natural n .word => s!"integer `{n}`"
  | .natural n .double => s!"integer `{n}` as u128"
  | .negative n .word => s!"integer `{-(n : Int)}`"
  | .negative n .double => s!"integer `{-(n : Int)}` as i128"
  | .float x => s!"floating point `{showFraction x}`"
  | .text s => s!"string {Text.quoted s}"

end VersionedSite.Yaml
