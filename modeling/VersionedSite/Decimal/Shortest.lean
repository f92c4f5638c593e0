/-!
# The fewest digits that read back

A finite binary number `m · 2 ^ q` is written with the fewest decimal digits of which it is the
nearest binary number, and of those with the digits nearest to it. All arithmetic is exact, on
natural numbers: a decimal grid `10 ^ k` is tried from coarse to fine, and on each grid only the
two neighbours of the number can lie in the interval of reals that round to it.
-/

namespace VersionedSite.Decimal

/-- The magnitude `mantissa · 2 ^ exponent`. -/
structure Binary where
  mantissa : Nat
  exponent : Int
  deriving DecidableEq, Repr

/-- The magnitude `digits · 10 ^ exponent`. -/
structure Digits where
  digits : Nat
  exponent : Int
  deriving DecidableEq, Repr

/-- The magnitude of a finite double, from its bits. -/
def Binary.ofBits (bits : UInt64) : Binary :=
  let n := bits.toNat
  let fraction : Nat := n % Nat.pow 2 52
  let field : Nat := n / Nat.pow 2 52 % 2048
  if field = 0 then ⟨fraction, -1074⟩ else ⟨fraction + Nat.pow 2 52, (field : Int) - 1075⟩

/-- The reals that round to a magnitude, in quarters of its last place, with the scale
`num / den` that turns such quarters into points of the grid `10 ^ k`. -/
structure Interval where
  low : Nat
  middle : Nat
  high : Nat
  closed : Bool
  deriving DecidableEq, Repr

/-- Below a power of two the next number is half as far away as above it. The ends round to the
number itself exactly if its mantissa is even. -/
def Binary.interval (b : Binary) : Interval :=
  let below := if b.mantissa = Nat.pow 2 52 && b.exponent ≠ -1074 then 1 else 2
  { low := 4 * b.mantissa - below
    middle := 4 * b.mantissa
    high := 4 * b.mantissa + 2
    closed := b.mantissa % 2 = 0 }

/-- How many quarters of the last place make up `den / num` points of the grid `10 ^ k`. -/
def Binary.scale (b : Binary) (k : Int) : Nat × Nat :=
  let e := b.exponent - 2
  (Nat.pow 2 e.toNat * Nat.pow 10 (-k).toNat, Nat.pow 2 (-e).toNat * Nat.pow 10 k.toNat)

/-- The point `d` of the grid lies in the interval. -/
def Interval.holds (i : Interval) (num den d : Nat) : Bool :=
  if i.closed then i.low * num ≤ d * den && d * den ≤ i.high * num
  else i.low * num < d * den && d * den < i.high * num

/-- The point of the grid `10 ^ k` in the interval, the nearer of two, the greater on a tie. -/
def Binary.onGrid? (b : Binary) (k : Int) : Option Nat :=
  let i := b.interval
  let (num, den) := b.scale k
  let d := i.middle * num / den
  let lower := i.holds num den d
  let upper := i.holds num den (d + 1)
  if lower && upper then
    if 2 * (i.middle * num - d * den) < den then some d else some (d + 1)
  else if lower then some d
  else if upper then some (d + 1)
  else none

/-- The least `p ≥ start` with the magnitude below `10 ^ p`. -/
def Binary.magnitude (b : Binary) : Nat → Int → Int
  | 0, p => p
  | fuel + 1, p =>
    let (num, den) := b.scale p
    if 4 * b.mantissa * num < den then p else b.magnitude fuel (p + 1)

/-- Grids with one digit, two digits, and so on. -/
def Binary.search (b : Binary) (p : Int) : Nat → Nat → Digits
  | 0, n => ⟨4 * b.mantissa * (b.scale (p - n)).1 / (b.scale (p - n)).2, p - n⟩
  | fuel + 1, n =>
    match b.onGrid? (p - n) with
    | some d => ⟨d, p - n⟩
    | none => b.search p fuel (n + 1)

/-- The fewest digits that read back; seventeen always do. -/
def Binary.shortest (b : Binary) : Digits :=
  if b.mantissa = 0 then ⟨0, 0⟩ else b.search (b.magnitude 700 (-330)) 17 1

/-- The same magnitude without zeros at the end of the digits. -/
def Digits.strip : Nat → Digits → Digits
  | 0, d => d
  | fuel + 1, d =>
    if d.digits ≠ 0 && d.digits % 10 = 0 then Digits.strip fuel ⟨d.digits / 10, d.exponent + 1⟩
    else d

/-- The magnitude in positional notation, with a point only if there is a fraction. -/
def Digits.positional (d : Digits) : List Char :=
  let d := d.strip 20
  let ds := (toString d.digits).toList
  if d.exponent ≥ 0 then
    if d.digits = 0 then ds else ds ++ List.replicate d.exponent.toNat '0'
  else
    let places := (-d.exponent).toNat
    if places < ds.length then ds.take (ds.length - places) ++ '.' :: ds.drop (ds.length - places)
    else '0' :: '.' :: List.replicate (places - ds.length) '0' ++ ds

/-- A double in positional notation: as many digits as needed, never an exponent. -/
def positional (x : Float) : String :=
  let bits := x.toBits
  let sign := if bits.toNat ≥ Nat.pow 2 63 then "-" else ""
  if x.isNaN then "NaN"
  else if x.isInf then sign ++ "inf"
  else sign ++ String.ofList (Binary.ofBits bits).shortest.positional

end VersionedSite.Decimal
