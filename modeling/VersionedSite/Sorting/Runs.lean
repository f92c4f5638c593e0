import VersionedSite.Sorting.Merge

/-!
# Runs

A list as a sequence of runs, which are merged pairwise. A stretch that is in order as it stands,
or in the opposite order, is a run if it is long enough. What lies between such stretches is cut
into runs of a fixed length, that are sorted at once as blocks, or kept as they are until they
have to be merged with a sorted run.

Which runs are merged first is read off a binary tree over the places of the list: the node of two
neighbours lies as deep as the first binary digit in which their middles differ, where the places
are scaled to the unit. Deeper nodes are merged first, so that lists of about one length meet.
-/

namespace VersionedSite.Sorting

variable {α : Type}

/-- A part of a list, and whether it has been sorted. -/
structure Run (α : Type) where
  items : List α
  sorted : Bool

namespace Run

variable (before : α → α → Bool) (finish : List α → List α)

/-- The items in order; `finish` sorts what has not been sorted. -/
def inOrder (r : Run α) : List α := if r.sorted then r.items else finish r.items

/-- Two neighbours as one run. Two that have not been sorted can wait. -/
def join (l r : Run α) : Run α :=
  if l.sorted || r.sorted then ⟨mergeRuns before (l.inOrder finish) (r.inOrder finish), true⟩
  else ⟨l.items ++ r.items, false⟩

end Run

/-! ## Finding runs -/

/-- How many items from the second one on stand to the one before them as `p` says. -/
def stretchFrom (p : α → α → Bool) : α → List α → Nat
  | _, [] => 0
  | x, y :: ys => if p x y then stretchFrom p y ys + 1 else 0

/-- The length of the stretch at the front, and whether it goes from the last item to the first. -/
def stretch (before : α → α → Bool) : List α → Nat × Bool
  | [] => (0, false)
  | [_] => (1, false)
  | x :: y :: ys =>
    if before y x then (stretchFrom (fun a b ↦ before b a) y ys + 2, true)
    else (stretchFrom (fun a b ↦ !before b a) y ys + 2, false)

/-- The root of a number of items, up to one step of an approximation from a power of two. -/
def nearRoot (n : Nat) : Nat :=
  let half := (1 + Nat.log2 n) / 2
  (Nat.pow 2 half + n / Nat.pow 2 half) / 2

/-- The length from which a stretch of so many items is a run. -/
def goodLength (n : Nat) : Nat := if n ≤ 4096 then min (n - n / 2) 64 else nearRoot n

/-- The run at the front of a list, and the rest. -/
def firstRun (before : α → α → Bool) (eager : Bool) (good : Nat) (xs : List α) :
    Run α × List α :=
  let (length, falling) := stretch before xs
  if good ≤ length then
    let items := xs.take length
    (⟨if falling then items.reverse else items, true⟩, xs.drop length)
  else if eager then (⟨sortBlock before (xs.take blockLength), true⟩, xs.drop blockLength)
  else (⟨xs.take good, false⟩, xs.drop good)

/-- The runs of a list; `fuel` bounds their number. -/
def runs (before : α → α → Bool) (eager : Bool) (good : Nat) : Nat → List α → List (Run α)
  | 0, _ => []
  | _, [] => []
  | fuel + 1, xs =>
    let (run, rest) := firstRun before eager good xs
    run :: runs before eager good fuel rest

/-! ## Merging runs -/

/-- How deep the node of two neighbours lies in a list of `n` items, by the places where the first
one starts, where the second one starts, and where that ends. -/
def nodeDepth (n left middle right : Nat) : Nat :=
  let unit := (Nat.pow 2 62 + n - 1) / n
  63 - Nat.log2 ((unit * (left + middle)) ^^^ (unit * (middle + right)))

/-- Runs that wait to be merged. -/
structure Pending (α : Type) where
  /-- Runs before the last one, the latest first, with the depth of the node that each has with the
  run after it. -/
  waiting : List (Run α × Nat)
  last : Run α
  /-- The place where the last run ends. -/
  stop : Nat

/-- The last run joined with the runs before it, as long as their nodes are as deep as `depth`. -/
def collapse (join : Run α → Run α → Run α) (depth : Nat) :
    List (Run α × Nat) → Run α → List (Run α × Nat) × Run α
  | [], run => ([], run)
  | (left, d) :: waiting, run =>
    if depth ≤ d then collapse join depth waiting (join left run) else ((left, d) :: waiting, run)

/-- One more run. -/
def Pending.push (join : Run α → Run α → Run α) (n : Nat) (p : Pending α) (next : Run α) :
    Pending α :=
  let stop := p.stop + next.items.length
  let depth := nodeDepth n (p.stop - p.last.items.length) p.stop stop
  let (waiting, run) := collapse join depth p.waiting p.last
  ⟨(run, depth) :: waiting, next, stop⟩

/-- The list sorted by merging its runs. They are sorted blocks if `eager`, and otherwise `finish`
sorts what has not been sorted. -/
def sortRuns (before : α → α → Bool) (finish : List α → List α) (eager : Bool) (xs : List α) :
    List α :=
  let join := Run.join before finish
  match runs before eager (goodLength xs.length) xs.length xs with
  | [] => []
  | first :: rest =>
    let p := rest.foldl (Pending.push join xs.length) ⟨[], first, first.items.length⟩
    (collapse join 0 p.waiting p.last).2.inOrder finish

end VersionedSite.Sorting
