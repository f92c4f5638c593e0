/-!
# Merging

Sorting short lists, and merging sorted ones. The order is a test that one item comes before
another; items neither of which comes before the other keep the order that they have.

Nothing is asked of the test. Where it is no order, what comes out still holds the items that went
in, but it hangs on which of them are compared: so merging goes from both ends to the middle, and
a merge starts from the end of the shorter list.
-/

namespace VersionedSite.Sorting

variable {α : Type} (before : α → α → Bool)

/-! ## Insertion -/

/-- Inserts into a list that is sorted from the last item to the first. -/
def insertLast (x : α) : List α → List α
  | [] => [x]
  | y :: ys => if before x y then y :: insertLast x ys else x :: y :: ys

/-- Inserts items one after the other into a sorted list. -/
def insertAll (sorted xs : List α) : List α :=
  (xs.foldl (fun sorted x ↦ insertLast before x sorted) sorted.reverse).reverse

def insertionSort (xs : List α) : List α := insertAll before [] xs

/-- Two items in order. -/
def orderTwo (x y : α) : List α := if before y x then [y, x] else [x, y]

/-- Four items of which the first two and the last two are in order. -/
def mergeTwos (a b c d : α) : List α :=
  match before c a, before d b with
  | false, false => a :: orderTwo before b c ++ [d]
  | false, true => a :: orderTwo before c d ++ [b]
  | true, false => c :: orderTwo before a b ++ [d]
  | true, true => c :: orderTwo before a d ++ [b]

/-- The list sorted by insertion, where the first four items are put in order as two pairs. -/
def sortFromFour : List α → List α
  | a :: b :: c :: d :: rest =>
    match orderTwo before a b, orderTwo before c d with
    | [a, b], [c, d] => insertAll before (mergeTwos before a b c d) rest
    | _, _ => insertionSort before (a :: b :: c :: d :: rest)
  | xs => insertionSort before xs

/-! ## Merging -/

/-- Merges two lists from the front. -/
def merge : List α → List α → List α
  | [], ys => ys
  | xs, [] => xs
  | x :: xs, y :: ys =>
    if before y x then y :: merge (x :: xs) ys else x :: merge xs (y :: ys)

/-- Merges two lists that go from the last item to the first. -/
def mergeBack : List α → List α → List α
  | [], ys => ys
  | xs, [] => xs
  | x :: xs, y :: ys =>
    if before y x then x :: mergeBack xs (y :: ys) else y :: mergeBack (x :: xs) ys

/-- Merges two lists from the end, and gives them from the front. -/
def mergeFromEnd (xs ys : List α) : List α := (mergeBack before xs.reverse ys.reverse).reverse

/-- Merges two lists, the shorter one being gone through first. -/
def mergeRuns (xs ys : List α) : List α :=
  if xs.length ≤ ys.length then merge before xs ys else mergeFromEnd before xs ys

/-- Merges two lists: the first `n` items from the front, and the others from the end. -/
def mergeBoth : Nat → List α → List α → List α
  | n + 1, x :: xs, y :: ys =>
    if before y x then y :: mergeBoth n (x :: xs) ys else x :: mergeBoth n xs (y :: ys)
  | _, xs, ys => mergeFromEnd before xs ys

/-- A short list in order: both halves are sorted by insertion, and merged. -/
def sortBlock (xs : List α) : List α :=
  let half := xs.length / 2
  let sorted := if xs.length < 8 then insertionSort before else sortFromFour before
  mergeBoth before half (sorted (xs.take half)) (sorted (xs.drop half))

/-- The greatest length of a block. -/
def blockLength : Nat := 32

end VersionedSite.Sorting
