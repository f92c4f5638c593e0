import VersionedSite.Sorting.Runs

/-!
# Stable sorting

A list is sorted by insertion if it is short. If it is longer its runs are merged, and stretches in
no order are cut at a pivot into what comes before it and what does not, again and again, down to
blocks. Pivots are medians of items at fixed places. Where too many of them cut badly, the stretch
is sorted by merging blocks.

For a test that is an order all this comes to the one list in which the items are in order and
equal ones stay as they were.
-/

namespace VersionedSite.Sorting

/-! ## Pivots -/

/-- The median of three places. -/
def median (before : Nat → Nat → Bool) (a b c : Nat) : Nat :=
  let x := before a b
  if x == before a c then if before b c == x then b else c else a

/-- The median of three places, each of which stands for the median of its neighbourhood if that
has `n` items and this is not too few. -/
def medianOfMedians (before : Nat → Nat → Bool) (n a b c : Nat) : Nat :=
  if n < 8 then median before a b c
  else
    let inside := fun a ↦
      medianOfMedians before (n / 8) a (a + n / 8 * 4) (a + n / 8 * 7)
    median before (inside a) (inside b) (inside c)
termination_by n
decreasing_by omega

/-- The place of the pivot of a list. -/
def pivotPlace {α : Type} (before : α → α → Bool) (xs : List α) : Nat :=
  let items := xs.toArray
  let test := fun i j ↦
    match items[i]?, items[j]? with
    | some a, some b => before a b
    | _, _ => false
  let n := xs.length / 8
  if xs.length < 64 then median test 0 (n * 4) (n * 7)
  else medianOfMedians test n 0 (n * 4) (n * 7)

/-! ## Partitions -/

/-- A list sorted by cutting it at pivots. `limit` is how often that may be done before blocks are
merged instead, and `bound` is a pivot that everything comes after or is equal to. What is equal
to it is set apart and needs no sorting. `fuel` bounds the length of the list. -/
def sortParts {α : Type} (before : α → α → Bool) :
    Nat → Nat → Option α → List α → List α
  | 0, _, _, xs => xs
  | fuel + 1, limit, bound, xs =>
    if xs.length ≤ blockLength then sortBlock before xs
    else
      match limit, xs.splitAt (pivotPlace before xs) with
      | 0, _ => sortRuns before id true xs
      | _, (_, []) => xs
      | limit + 1, (front, pivot :: back) =>
        let below := fun x ↦ before x pivot
        let low := (front ++ back).filter below
        if low.isEmpty || bound.any fun b ↦ !before b pivot then
          let upTo := fun x ↦ !before pivot x
          front.filter upTo ++ pivot :: back.filter upTo
            ++ sortParts before fuel limit none ((front ++ back).filter fun x ↦ !upTo x)
        else
          let high := (front.filter fun x ↦ !below x) ++ pivot :: back.filter fun x ↦ !below x
          sortParts before fuel limit bound low ++ sortParts before fuel limit (some pivot) high

/-! ## Sorting -/

/-- The items in order; what does not come before an item stays behind it. -/
def sort {α : Type} (before : α → α → Bool) (xs : List α) : List α :=
  if xs.length ≤ 20 then insertionSort before xs
  else
    let parts := fun ys ↦ sortParts before ys.length (2 * Nat.log2 ys.length) none ys
    sortRuns before parts (decide (xs.length ≤ 2 * blockLength)) xs

end VersionedSite.Sorting
