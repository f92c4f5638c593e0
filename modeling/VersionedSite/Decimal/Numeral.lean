/-!
# Reading numerals

Whole numbers in a base, and decimal fractions with an optional exponent. A reader takes the
whole text or refuses it.
-/

namespace VersionedSite.Decimal

/-- The value of a digit in bases up to sixteen. -/
def digitValue? (c : Char) : Option Nat :=
  let n := c.toNat
  if 48 ≤ n && n ≤ 57 then some (n - 48)
  else if 97 ≤ n && n ≤ 102 then some (n - 87)
  else if 65 ≤ n && n ≤ 70 then some (n - 55)
  else none

/-- A digit of the base. -/
def isDigitOf (base : Nat) (c : Char) : Bool :=
  match digitValue? c with
  | some d => d < base
  | none => false

/-- The number whose digits follow the digits of `acc`. -/
def digitsValue (base : Nat) (acc : Nat) (s : List Char) : Nat :=
  s.foldl (fun n c ↦ n * base + (digitValue? c).getD 0) acc

/-- A numeral: one digit of the base or more, and nothing else. -/
def readNat? (base : Nat) (s : List Char) : Option Nat :=
  if s ≠ [] && s.all (isDigitOf base) then some (digitsValue base 0 s) else none

/-- A decimal numeral with an optional sign. -/
def readInt? : List Char → Option Int
  | '-' :: s => (readNat? 10 s).map fun n ↦ -(n : Int)
  | '+' :: s => (readNat? 10 s).map fun n ↦ (n : Int)
  | s => (readNat? 10 s).map fun n ↦ (n : Int)

/-- The double nearest to `digits · 10 ^ exponent`; beyond the range of doubles, infinity or
zero. -/
def nearest (digits : Nat) (exponent : Int) : Float :=
  let size : Int := (toString digits).length + exponent
  if digits = 0 || size < -340 then 0
  else if size > 320 then 1.0 / 0.0
  else Float.ofScientific digits (exponent < 0) exponent.natAbs

/-- The exponent part of a numeral, which may be absent. -/
def readExponent? : List Char → Option Int
  | [] => some 0
  | c :: s => if c = 'e' || c = 'E' then readInt? s else none

/-- A decimal numeral without a sign: digits, a point and digits of which one side may be
missing, and an exponent. -/
def readMagnitude? (s : List Char) : Option Float :=
  let whole := s.takeWhile Char.isDigit
  let rest := s.dropWhile Char.isDigit
  let (fraction, rest) :=
    match rest with
    | '.' :: r => (r.takeWhile Char.isDigit, r.dropWhile Char.isDigit)
    | r => ([], r)
  if whole.isEmpty && fraction.isEmpty then none
  else (readExponent? rest).map fun e ↦
    nearest (digitsValue 10 0 (whole ++ fraction)) (e - fraction.length)

/-- The words for numbers without digits, in any case. -/
def readWord? (s : List Char) : Option Float :=
  let w := String.ofList (s.map Char.toLower)
  if w = "inf" || w = "infinity" then some (1.0 / 0.0)
  else if w = "nan" then some (0.0 / 0.0)
  else none

/-- A decimal numeral or word with an optional sign. -/
def readFloat? (s : List Char) : Option Float :=
  let read := fun t ↦ (readMagnitude? t).or (readWord? t)
  match s with
  | '-' :: t => (read t).map (- ·)
  | '+' :: t => read t
  | t => read t

end VersionedSite.Decimal
