import VersionedSite.CommandLine.Options
import VersionedSite.Log
import VersionedSite.Site.Install

/-!
# Invocations

The commands of the program and what a command line asks of them. Some options stand at every
level, and the one that stands closest to the command counts; the options that name a
configuration stand after the command.
-/

namespace VersionedSite.CommandLine

/-- What `debug` shows. -/
inductive DebugTopic where
  | config
  | profiles
  | features
  deriving DecidableEq, Repr

inductive Command where
  /-- Builds the site. -/
  | build (destination : Option String)
  /-- Prints an install command for the version that a request is about. -/
  | snippet (kind : SnippetKind) (request : Option String)
  /-- Prints the version that a request is about. -/
  | resolve (request : String)
  /-- Compares the declared versions with a directory of published ones. -/
  | check (published : String)
  | debug (topic : DebugTopic)
  deriving DecidableEq, Repr

/-- When to colour. -/
inductive ColorChoice where
  | auto
  | always
  | never
  deriving DecidableEq, Repr

/-- What a command line asks for. -/
structure Invocation where
  command : Command
  /-- The configuration file. -/
  config : Option String
  profile : Option String
  color : ColorChoice
  /-- The least level of notes that are shown. -/
  level : Option Level
  deriving DecidableEq, Repr

/-- What comes of a command line that is not run. -/
inductive Refusal where
  /-- It is not understood. -/
  | usage
  /-- It asks how to use the program. -/
  | help
  /-- It asks for the version of the program. -/
  | version
  deriving DecidableEq, Repr

/-- How the program is used. -/
def usage : String := "\n".intercalate [
  "Usage: docsite [OPTIONS] <COMMAND>",
  "",
  "Commands:",
  "  build [-d DIR]                        Render the home page and version manifest",
  "  snippet <KIND> [--request-path PATH]  Print an install snippet",
  "  resolve <PATH>                        Print the version that a request resolves to",
  "  check --published <DIR>               Compare the published versions with the catalog",
  "  debug <config|profiles|features>      Print what the configuration comes to",
  "",
  "Options:",
  "  -c, --config FILE   Config file to use",
  "      --profile NAME  Deployment profile to layer over the base config",
  "      --color WHEN    auto, always or never",
  "  -v, -q              More or fewer notes",
  "  -h, -V              This text, or the version"]

def version : String := "docsite 0.3.0"

/-! ## Options of every level -/

def commonOptions : List OptionSpec := [
  { name := "color", hasValue := true }, { name := "verbose", letter := 'v', hasValue := false },
  { name := "quiet", letter := 'q', hasValue := false },
  { name := "help", letter := 'h', hasValue := false },
  { name := "version", letter := 'V', hasValue := false }]

def configOptions : List OptionSpec := [
  { name := "config", letter := 'c', hasValue := true, nonempty := true },
  { name := "profile", hasValue := true }]

/-- What the options of a level say; those that are not given say nothing. -/
structure CommonOptions where
  color : Option ColorChoice := none
  verbose : Option Nat := none
  quiet : Option Nat := none
  deriving DecidableEq, Repr

def ColorChoice.ofName? : String → Option ColorChoice
  | "auto" => some .auto
  | "always" => some .always
  | "never" => some .never
  | _ => none

namespace CommonOptions

/-- The options of one level. To be more verbose and more quiet at once is refused. -/
def ofWords (w : Words) : Except Refusal CommonOptions :=
  let verbose := w.count "verbose"
  let quiet := w.count "quiet"
  if w.count "help" > 0 then .error .help
  else if w.count "version" > 0 then .error .version
  else if verbose > 0 && quiet > 0 then .error .usage
  else
    let counts := fun color ↦
      ⟨color, if verbose = 0 then none else some verbose, if quiet = 0 then none else some quiet⟩
    match w.value? "color" with
    | none => .ok (counts none)
    | some name =>
      match ColorChoice.ofName? name with
      | some c => .ok (counts (some c))
      | none => .error .usage

/-- The options with those of a level further in before them. -/
def under (outer inner : CommonOptions) : CommonOptions :=
  ⟨inner.color.or outer.color, inner.verbose.or outer.verbose, inner.quiet.or outer.quiet⟩

/-- The level of notes, which is `info` where nothing is said. -/
def level (o : CommonOptions) : Option Level :=
  Level.ofRank? ((Level.info.rank : Int) + o.verbose.getD 0 - o.quiet.getD 0)

end CommonOptions

/-! ## Commands -/

/-- The words after a command that has no commands of its own. -/
def readCommand (own : List OptionSpec) (outer : CommonOptions) (words : List String)
    (command : Words → Option Command) : Except Refusal Invocation :=
  match Words.read? (own ++ configOptions ++ commonOptions) false words with
  | none => .error .usage
  | some w => do
    let o := outer.under (← CommonOptions.ofWords w)
    match command w with
    | none => .error .usage
    | some c => return ⟨c, w.value? "config", w.value? "profile", o.color.getD .auto, o.level⟩

/-- A command without positional words. -/
def bare (c : Option Command) (w : Words) : Option Command :=
  if w.positional.isEmpty then c else none

/-- A command with exactly one positional word. -/
def one (f : String → Option Command) (w : Words) : Option Command :=
  match w.positional with
  | [word] => f word
  | _ => none

def DebugTopic.ofName? : String → Option DebugTopic
  | "config" => some .config
  | "profiles" => some .profiles
  | "features" => some .features
  | _ => none

/-- The words of a level that goes on with a command. -/
def readLevel (outer : CommonOptions) (words : List String) :
    Except Refusal (CommonOptions × String × List String) :=
  match Words.read? commonOptions true words with
  | none => .error .usage
  | some w => do
    let o := outer.under (← CommonOptions.ofWords w)
    match w.command with
    | none => .error .usage
    | some ("help", _) => .error .help
    | some (name, rest) => return (o, name, rest)

/-- What a command line asks for. -/
def Invocation.read (words : List String) : Except Refusal Invocation := do
  let (o, name, rest) ← readLevel {} words
  match name with
  | "build" =>
    let own : OptionSpec :=
      { name := "destination", letter := 'd', hasValue := true, nonempty := true }
    readCommand [own] o rest fun w ↦ bare (some (.build (w.value? "destination"))) w
  | "snippet" =>
    readCommand [{ name := "request-path", hasValue := true }] o rest fun w ↦
      one (fun k ↦ (SnippetKind.ofName? k).map (.snippet · (w.value? "request-path"))) w
  | "resolve" => readCommand [] o rest (one fun r ↦ some (.resolve r))
  | "check" =>
    readCommand [{ name := "published", hasValue := true, nonempty := true }] o rest fun w ↦
      bare ((w.value? "published").map .check) w
  | "debug" => do
    let (o, name, rest) ← readLevel o rest
    match DebugTopic.ofName? name with
    | none => .error .usage
    | some topic => readCommand [] o rest (bare (some (.debug topic)))
  | _ => .error .usage

end VersionedSite.CommandLine
