import VersionedSite.Calendar.Clock
import VersionedSite.CommandLine.Reach

/-!
# The program

The command line at work on the file system. The part of the file system that a command looks at
is taken into a tree, the command is run on the tree, and what is new in the tree afterwards is
made in the file system. Nothing else here decides anything.
-/

namespace VersionedSite.CommandLine

/-- The path of a location. -/
def pathOf (l : Location) : String := "/" ++ "/".intercalate l

/-- The tree with what stands at a location of the file system. What cannot be read is not there. -/
def observe (t : FileTree) (l : Location) : IO FileTree := do
  try
    let place := (← IO.currentDir) / pathOf l
    if ← place.isDir then return t.set l .directory
    else return t.set l (.file (← IO.FS.readBinFile place))
  catch _ => return t

/-- The workspace with what a path goes through. -/
def look (w : Workspace) (path : String) : IO Workspace := do
  return { w with tree := ← (w.passed path).foldlM observe w.tree }

/-- The workspace with the directories in a directory. A link to a directory is not one of them. -/
def list (w : Workspace) (path : String) : IO Workspace := do
  let w ← look w path
  match w.locate path with
  | .error _ => return w
  | .ok l =>
    try
      let mut t := w.tree
      for entry in ← ((← IO.currentDir) / pathOf l).readDir do
        if (← entry.path.symlinkMetadata).type == .dir then
          t := t.set (l ++ [entry.fileName]) .directory
      return { w with tree := t }
    catch _ => return w

/-- Makes what a tree has and the tree before it has not. -/
def commit (before after : FileTree) : IO Unit := do
  for (l, e) in after.entries do
    if before.lookup? l ≠ some e then
      match e with
      | .directory => IO.FS.createDir (pathOf l)
      | .file content => IO.FS.writeBinFile (pathOf l) content

/-- The seconds that the clock of the file system has counted. -/
def clock : IO Nat := do
  let (_, place) ← IO.FS.createTempFile
  let seconds := (← place.metadata).modified.sec
  IO.FS.removeFile place
  return seconds.toNat

/-- Runs an invocation on the file system. -/
def perform (i : Invocation) : IO UInt32 := do
  let cwd := ((← IO.currentDir).toString.splitOn "/").filter (· ≠ "")
  let w ← (i.configPaths cwd).foldlM look ⟨.empty, cwd⟩
  let w ← (i.outputPaths w).foldlM look w
  let w ← i.listedPaths.foldlM list w
  let now := Calendar.Moment.ofSeconds (← clock)
  let outcome := i.run now now.stamp (← (← IO.getStderr).isTty) w
  commit w.tree outcome.workspace.tree
  IO.print outcome.output
  IO.eprint outcome.log
  return outcome.code

end VersionedSite.CommandLine

open VersionedSite.CommandLine in
def main (words : List String) : IO UInt32 := do
  match Invocation.read words with
  | .ok i => perform i
  | .error .usage => IO.eprintln usage; return 2
  | .error .help => IO.println usage; return 0
  | .error .version => IO.println version; return 0
