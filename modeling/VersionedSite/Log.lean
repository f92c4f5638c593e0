import VersionedSite.Text.Search

/-!
# Notes on a run

What a run tells about itself besides its answer. A note has a level and comes from a part of the
program; a run shows the notes up to a level of its own. At the usual levels a note is a short
line. A run that shows more than usual tells when each note was taken and where it comes from, and
sets the further lines of a note in.
-/

namespace VersionedSite

/-! ## Levels -/

/-- How much a note matters, most first. -/
inductive Level where
  | error
  | warn
  | info
  | debug
  | trace
  deriving DecidableEq, Repr

namespace Level

def rank : Level → Nat
  | error => 0
  | warn => 1
  | info => 2
  | debug => 3
  | trace => 4

/-- The level of a rank. Below the ranks there is none, and above them the last. -/
def ofRank? (rank : Int) : Option Level :=
  if rank < 0 then none
  else if rank = 0 then some error
  else if rank = 1 then some warn
  else if rank = 2 then some info
  else if rank = 3 then some debug
  else some trace

/-- The name in capitals, five wide. -/
def wide : Level → String
  | error => "ERROR"
  | warn => "WARN "
  | info => "INFO "
  | debug => "DEBUG"
  | trace => "TRACE"

def name : Level → String
  | error => "error"
  | warn => "warn"
  | info => "info"
  | debug => "debug"
  | trace => "trace"

/-- What turns a terminal to the colour of a level. -/
def color : Level → String
  | error => "\x1b[1m\x1b[31m"
  | warn => "\x1b[33m"
  | info => "\x1b[32m"
  | debug => "\x1b[34m"
  | trace => "\x1b[36m"

end Level

/-! ## Notes -/

/-- Something that a part of the program tells. -/
structure Note where
  level : Level
  source : String
  text : String
  deriving DecidableEq, Repr

/-- How a run shows its notes. -/
structure LogStyle where
  /-- The least that is shown; without one, nothing is. -/
  level : Option Level
  color : Bool
  deriving DecidableEq, Repr

namespace LogStyle

/-- Whether a note is shown. -/
def shows (s : LogStyle) (n : Note) : Bool :=
  match s.level with
  | none => false
  | some l => n.level.rank ≤ l.rank

/-- Whether notes tell when and where they were taken. -/
def isDetailed (s : LogStyle) : Bool :=
  match s.level with
  | none => false
  | some l => Level.info.rank < l.rank

/-- A text in a colour, if colours are shown. -/
def painted (s : LogStyle) (color text : String) : String :=
  if s.color then color ++ text ++ "\x1b[0m" else text

/-- A text whose further lines are set in. -/
def setIn (text : String) : String :=
  String.ofList (text.toList.flatMap fun c ↦ if c == '\n' then "\n    ".toList else [c])

/-- A note as a line, or a paragraph, that was taken at the given time. -/
def line (s : LogStyle) (time : String) (n : Note) : String :=
  if s.isDetailed then
    let gray := "\x1b[90m"
    s.painted gray "[" ++ time ++ " " ++ s.painted n.level.color n.level.wide ++ " " ++ n.source
      ++ s.painted gray "]" ++ " " ++ setIn n.text ++ "\n"
  else s.painted n.level.color ("[" ++ n.level.name ++ "]") ++ " " ++ n.text ++ "\n"

/-- What a run shows of its notes. -/
def log (s : LogStyle) (time : String) (notes : List Note) : String :=
  String.join ((notes.filter s.shows).map (s.line time))

end LogStyle

end VersionedSite
