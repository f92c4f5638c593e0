import VersionedSite.CommandLine.Run

/-!
# What a command looks at

A command works on a tree, and only on a small part of it: the files that may hold the
configuration, and then the files that it writes or the directory that it compares with. A path
reaches its location through others, which have to be known too.
-/

namespace VersionedSite

/-- The locations that a path goes through, the last one being its own. -/
def Workspace.passed (w : Workspace) (path : String) : List Location :=
  let start := if Path.isAbsolute path then [] else w.cwd
  let step := fun (done : List Location × Location) (piece : List Char) ↦
    let name := String.ofList piece
    let next :=
      if name = "" || name = "." then done.2
      else if name = ".." then done.2.dropLast
      else done.2 ++ [name]
    (next :: done.1, next)
  ((Text.splitAt ['/'] path.toList).foldl step ([start], start)).1.reverse.eraseDups

namespace CommandLine

/-- The files that may hold the configuration. -/
def Invocation.configPaths (i : Invocation) (cwd : Location) : List String :=
  match i.config with
  | some path => [path]
  | none =>
    (List.range (cwd.length + 1)).map fun n ↦
      Path.join ("/" ++ "/".intercalate (cwd.take n)) configFileName

/-- The files that a command writes, in a tree that holds its configuration. -/
def Invocation.outputPaths (i : Invocation) (w : Workspace) : List String :=
  match i.command, (loadSite i w).result with
  | .build destination, .ok s =>
    [homeFileName, versionsFileName].map (Path.join (destination.getD s.destination))
  | _, _ => []

/-- The directories whose entries a command compares. -/
def Invocation.listedPaths (i : Invocation) : List String :=
  match i.command with
  | .check published => [published]
  | _ => []

end CommandLine

end VersionedSite
