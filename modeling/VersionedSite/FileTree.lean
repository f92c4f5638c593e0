import VersionedSite.Report
import VersionedSite.Site.Path

/-!
# File trees

A tree of directories and files as a value, so that what a program does to it is a function from
trees to trees. An entry is known by its location, the names on the way from the root; the tree is
the list of its entries, in the order in which they were made and with no two at one location, and
the root itself is always there. Paths are texts and are resolved against the tree piece by piece,
as a directory has to exist before anything in it, or above it, can be named.
-/

namespace VersionedSite

/-- The names on the way from the root. -/
abbrev Location := List String

inductive Entry where
  | directory
  | file (content : ByteArray)

/-- Two files are equal if their bytes are. -/
instance : DecidableEq Entry
  | .directory, .directory => isTrue rfl
  | .file a, .file b =>
    if h : a.data = b.data then isTrue (congrArg _ (ByteArray.ext h))
    else isFalse fun e ↦ h (by cases e; rfl)
  | .directory, .file _ => isFalse nofun
  | .file _, .directory => isFalse nofun

/-- The entries with a new one at the end, or in place of the one at its location. -/
def FileTree.setEntry (l : Location) (e : Entry) : List (Location × Entry) → List (Location × Entry)
  | [] => [(l, e)]
  | (l', e') :: rest => if l' = l then (l, e) :: rest else (l', e') :: setEntry l e rest

theorem FileTree.map_fst_setEntry (l : Location) (e : Entry) (es : List (Location × Entry)) :
    (setEntry l e es).map (·.1) =
      if l ∈ es.map (·.1) then es.map (·.1) else es.map (·.1) ++ [l] := by
  induction es with
  | nil => rfl
  | cons x es ih =>
    obtain ⟨k, v⟩ := x
    rw [setEntry, List.map_cons]
    by_cases hk : k = l
    · simp [hk]
    · rw [if_neg hk, List.map_cons, ih]
      by_cases hl : l ∈ es.map (·.1)
      · rw [if_pos hl, if_pos (List.mem_cons_of_mem _ hl)]
      · rw [if_neg hl, if_neg (List.not_mem_cons_of_ne_of_not_mem (Ne.symm hk) hl),
          List.cons_append]

/-- Whatever is set, the locations stay distinct. -/
theorem FileTree.nodup_setEntry {es : List (Location × Entry)} (h : (es.map (·.1)).Nodup)
    (l : Location) (e : Entry) : ((setEntry l e es).map (·.1)).Nodup := by
  rw [map_fst_setEntry]
  split
  · exact h
  · next hl =>
    refine List.nodup_append.mpr ⟨h, List.pairwise_singleton _ _, fun k hk k' hk' ↦ ?_⟩
    rw [List.mem_singleton.mp hk']
    exact fun heq ↦ hl (heq ▸ hk)

@[ext] structure FileTree where
  entries : List (Location × Entry)
  /-- No two entries are at one location. -/
  distinct : (entries.map (·.1)).Nodup

namespace FileTree

def empty : FileTree := ⟨[], List.nodup_nil⟩

/-- What stands at a location. -/
def lookup? (t : FileTree) (l : Location) : Option Entry :=
  if l = [] then some .directory else (t.entries.find? (·.1 == l)).map (·.2)

/-- The tree with `e` at the location. -/
def set (t : FileTree) (l : Location) (e : Entry) : FileTree :=
  ⟨setEntry l e t.entries, nodup_setEntry t.distinct l e⟩

/-- The tree with all directories down to the location. -/
def withDirectories (t : FileTree) (l : Location) : FileTree :=
  (List.range (l.length + 1)).foldl (fun t n ↦
    let p := l.take n
    if (t.lookup? p).isSome then t else t.set p .directory) t

/-- The tree with a file and the directories above it. -/
def withFile (t : FileTree) (l : Location) (content : ByteArray) : FileTree :=
  (t.withDirectories l.dropLast).set l (.file content)

/-- The files, with their locations. -/
def files (t : FileTree) : List (Location × ByteArray) :=
  t.entries.filterMap fun
    | (l, .file c) => some (l, c)
    | _ => none

end FileTree

/-! ## Resolving paths -/

/-- A tree, and the directory that relative paths start from. -/
structure Workspace where
  tree : FileTree
  cwd : Location

namespace Workspace

/-- The location after one more piece of a path. Whatever has a piece after it must be a
directory. -/
def enter (w : Workspace) (l : Location) (piece : String) : Except FileFault Location :=
  match w.tree.lookup? l with
  | none => .error .notFound
  | some (.file _) => .error .notDirectory
  | some .directory =>
    if piece = "" || piece = "." then .ok l
    else if piece = ".." then .ok l.dropLast
    else .ok (l ++ [piece])

/-- The location that a path names, whether or not something stands there. -/
def locate (w : Workspace) (path : String) : Except FileFault Location :=
  if path.isEmpty then .error .notFound
  else ((Text.splitAt ['/'] path.toList).map String.ofList).foldlM w.enter
    (if Path.isAbsolute path then [] else w.cwd)

/-- What stands at a path. -/
def lookup? (w : Workspace) (path : String) : Option Entry :=
  match w.locate path with
  | .ok l => w.tree.lookup? l
  | .error _ => none

def isPresent (w : Workspace) (path : String) : Bool := (w.lookup? path).isSome

def isDirectory (w : Workspace) (path : String) : Bool :=
  match w.lookup? path with
  | some .directory => true
  | _ => false

/-- The text of a file. -/
def readText (w : Workspace) (path : String) : Except FileFault String := do
  let l ← w.locate path
  match w.tree.lookup? l with
  | none => .error .notFound
  | some .directory => .error .isDirectory
  | some (.file content) =>
    match String.fromUTF8? content with
    | some text => .ok text
    | none => .error .notText

/-- Makes one directory. -/
def makeDirectory (w : Workspace) (path : String) : Except FileFault Workspace := do
  let l ← w.locate path
  if (w.tree.lookup? l).isSome then .error .alreadyExists
  else .ok { w with tree := w.tree.set l .directory }

/-- Makes a directory and those above it that are missing, from the outermost one on. What has
been made stays even if a later one cannot be made. -/
def makeDirectories : Nat → String → Workspace → Except FileFault Unit × Workspace
  | 0, _, w => (.error .notFound, w)
  | fuel + 1, path, w =>
    if path.isEmpty then (.ok (), w)
    else match w.makeDirectory path with
      | .ok w => (.ok (), w)
      | .error .notFound =>
        match Path.parent? path with
        | none => (.error .notFound, w)
        | some parent =>
          match makeDirectories fuel parent w with
          | (.error e, w) => (.error e, w)
          | (.ok (), w) =>
            match w.makeDirectory path with
            | .ok w => (.ok (), w)
            | .error e => (if w.isDirectory path then .ok () else .error e, w)
      | .error e => (if w.isDirectory path then .ok () else .error e, w)

/-- Writes a file into a directory that exists. -/
def writeText (w : Workspace) (path content : String) : Except FileFault Workspace := do
  let l ← w.locate path
  match w.tree.lookup? l with
  | some .directory => .error .isDirectory
  | _ => .ok { w with tree := w.tree.set l (.file content.toUTF8) }

/-- The names of the directories in a directory; a file has none. -/
def directoriesIn (w : Workspace) (path : String) : Except FileFault (List String) := do
  let l ← w.locate path
  match w.tree.lookup? l with
  | none => .error .notFound
  | some _ => .ok (w.tree.entries.filterMap fun (l', e) ↦
      match e, l'.getLast? with
      | .directory, some name => if l'.dropLast = l then some name else none
      | _, _ => none)

end Workspace

end VersionedSite
