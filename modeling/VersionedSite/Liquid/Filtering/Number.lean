import VersionedSite.Liquid.Value

/-!
# Filters of numbers

Arithmetic on whole numbers as long as both sides are whole, and on fractions otherwise; a text
that is a numeral counts as its number. Whole numbers wrap around at sixty-four bits. Division is
cut towards zero, and there is none by zero. A filter that does not apply has no value.
-/

namespace VersionedSite.Liquid.Filtering

/-- A whole number in sixty-four bits. -/
def word (i : Int) : Value := .int (Int.bmod i 18446744073709551616)

/-- The nearest whole number that a fraction without digits after its point is. -/
def ofWhole (x : Float) : Value := .int x.toInt64.toInt

/-- One operation for whole numbers and one for fractions. -/
def arithmetic (whole : Int → Int → Value) (fraction : Float → Float → Float) (v w : Value) :
    Option Value :=
  match v.toInt?, w.toInt? with
  | some a, some b => some (whole a b)
  | _, _ =>
    match v.toFloat?, w.toFloat? with
    | some a, some b => some (.float (fraction a b))
    | _, _ => none

def abs (v : Value) : Option Value :=
  match v.toInt? with
  | some i => some (word i.natAbs)
  | none => v.toFloat?.map fun x ↦ .float x.abs

def plus : Value → Value → Option Value := arithmetic (fun a b ↦ word (a + b)) (· + ·)

def minus : Value → Value → Option Value := arithmetic (fun a b ↦ word (a - b)) (· - ·)

def times : Value → Value → Option Value := arithmetic (fun a b ↦ word (a * b)) (· * ·)

/-- The greater of two fractions, or the one that is a number. -/
def greater (a b : Float) : Float := if a.isNaN || a < b then b else a

/-- The less of two fractions, or the one that is a number. -/
def less (a b : Float) : Float := if a.isNaN || b < a then b else a

def atLeast : Value → Value → Option Value := arithmetic (fun a b ↦ .int (max a b)) greater

def atMost : Value → Value → Option Value := arithmetic (fun a b ↦ .int (min a b)) less

def isZero (v : Value) : Bool :=
  match v.toInt? with
  | some i => i == 0
  | none => v.toFloat?.any (· == 0)

def dividedBy (v w : Value) : Option Value :=
  if isZero w then none else arithmetic (fun a b ↦ word (Int.tdiv a b)) (· / ·) v w

/-- What division towards zero leaves, with the sign of the dividend. -/
def remainder (a b : Float) : Float :=
  if a.isNaN || b.isNaN || a.isInf then 0.0 / 0.0
  else if b.isInf then a
  else
    let (m, e) := a.abs.frExp
    let (n, f) := b.abs.frExp
    let base := min e f - 53
    let scaled := fun (x : Float) (k : Int) ↦
      (x.scaleB 53).toUInt64.toNat * Nat.pow 2 (k - 53 - base).toNat
    let rest := Float.scaleB (Float.ofNat (scaled m e % scaled n f)) base
    if a.toBits ≥ 0x8000000000000000 then -rest else rest

def modulo (v w : Value) : Option Value :=
  if isZero w then none else arithmetic (fun a b ↦ .int (Int.tmod a b)) remainder v w

def ceil (v : Value) : Option Value := v.toFloat?.map fun x ↦ ofWhole x.ceil

def floor (v : Value) : Option Value := v.toFloat?.map fun x ↦ ofWhole x.floor

/-- The power of a number, by squaring: `x ^ n` times `acc`. -/
def powerBy (acc x : Float) (n : Nat) : Float :=
  if n = 0 then acc
  else
    let acc := if n % 2 = 1 then acc * x else acc
    if n < 2 then acc else powerBy acc (x * x) (n / 2)
termination_by n

/-- The nearest number with so many places; a half goes away from zero. Without places the number
is whole. Places are counted in thirty-two bits. -/
def round (v : Value) (places : Int) : Option Value :=
  v.toFloat?.bind fun x ↦
    if places ≤ 0 then some (ofWhole x.round)
    else if places ≥ 2147483648 then none
    else
      let unit := powerBy 1 10 places.toNat
      some (.float ((x * unit).round / unit))

end VersionedSite.Liquid.Filtering
