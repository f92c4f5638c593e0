import VersionedSite.Text.Blank
import VersionedSite.Yaml.Fault

/-!
# Reports of what went wrong

A failure is a chain of reasons, each caused by the next. Most reasons are a title with details
that name the field or value to blame; others come from the file system, from a document or from
a template. Every part of the program describes its own faults as reports; how a chain is shown
depends on who asks, so the chain itself is kept.
-/

namespace VersionedSite

/-- A title and named details. -/
structure Report where
  title : String
  details : List (String × String)
  deriving DecidableEq, Repr

namespace Report

/-- The report as a paragraph of its own: the title, and the details below two empty lines. -/
def text (r : Report) : String :=
  let lines := r.details.map fun (k, v) ↦ s!"{k}: {v}\n"
  r.title ++ "\n" ++ (if r.details.isEmpty then "" else "\n\n" ++ String.join lines) ++ "\n"

/-- The report without blanks at its end. -/
def trimmed (r : Report) : String := String.ofList (Text.trimEnd r.text.toList)

end Report

/-- What the file system refuses. -/
inductive FileFault where
  | notFound
  | isDirectory
  | notDirectory
  | alreadyExists
  | notText
  deriving DecidableEq, Repr

namespace FileFault

/-- The fault as the system describes it. -/
def message : FileFault → String
  | .notFound => "No such file or directory (os error 2)"
  | .isDirectory => "Is a directory (os error 21)"
  | .notDirectory => "Not a directory (os error 20)"
  | .alreadyExists => "File exists (os error 17)"
  | .notText => "stream did not contain valid UTF-8"

end FileFault

/-- One reason of a failure. -/
inductive Reason where
  | report (r : Report)
  /-- A step of the program that could not be taken. -/
  | step (what : String)
  | file (f : FileFault)
  | document (f : Yaml.Fault)
  /-- A template that cannot be read or rendered, and why. -/
  | template (why : String)
  deriving DecidableEq, Repr

namespace Reason

/-- The reason as a message shows it. -/
def text : Reason → String
  | report r => r.text
  | step what => what
  | file f => f.message
  | document f => f.message
  | template why => why

end Reason

/-- A reason and the reasons behind it. -/
structure Failure where
  reason : Reason
  causes : List Reason
  deriving DecidableEq, Repr

namespace Failure

def ofReport (r : Report) : Failure := ⟨.report r, []⟩

/-- The failure with a new first reason. -/
def because (reason : Reason) (f : Failure) : Failure := ⟨reason, f.reason :: f.causes⟩

/-- The whole chain. -/
def reasons (f : Failure) : List Reason := f.reason :: f.causes

/-- The whole chain as one message. -/
def text (f : Failure) : String := ": ".intercalate (f.reasons.map Reason.text)

end Failure

end VersionedSite
