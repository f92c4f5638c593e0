import VersionedSite.Liquid.Filter
import VersionedSite.Liquid.Value

/-!
# Templates

A template that has been read: a list of nodes, where blocks hold the nodes between their tags.
Names of filters have been looked up and the arguments of tags have been taken apart, so that a
template holds nothing that can only be refused.
-/

namespace VersionedSite.Liquid

/-- A literal, or the name of a variable followed by the indexes of a member. -/
inductive Expr where
  | literal (v : Value)
  | reference (name : String) (path : List Expr)

/-- A filter with its arguments. -/
structure FilterCall where
  filter : Filter
  arguments : List Expr

/-- An expression, and the filters that its value goes through. -/
structure Chain where
  entry : Expr
  calls : List FilterCall

inductive Comparison where
  | equal | notEqual | less | greater | lessOrEqual | greaterOrEqual | contains
  deriving DecidableEq, Repr

inductive Condition where
  /-- The value is there and true. -/
  | holds (e : Expr)
  | compare (c : Comparison) (left right : Expr)
  | both (left right : Condition)
  | either (left right : Condition)

/-- What a loop runs over: the items of a value, or the whole numbers of a range. -/
inductive LoopSource where
  | items (e : Expr)
  | range (first last : Expr)

/-- A loop without its body. -/
structure LoopHead where
  item : String
  source : LoopSource
  limit : Option Expr
  offset : Option Expr

inductive Node where
  | text (s : List Char)
  | output (c : Chain)
  | assign (name : String) (c : Chain)
  | capture (name : String) (body : List Node)
  /-- Prints a counter and adds one to it. -/
  | increment (name : String)
  /-- Takes one from a counter and prints it. -/
  | decrement (name : String)
  /-- Prints the values of a group in turn. -/
  | cycle (group : String) (values : List Expr)
  /-- `yes` if the condition has the expected truth, and `no` otherwise. -/
  | branch (c : Condition) (expected : Bool) (yes no : List Node)
  /-- The first body one of whose values is the target. -/
  | choose (target : Expr) (cases : List (List Expr × List Node)) (otherwise : List Node)
  | loop (head : LoopHead) (reversed : Bool) (body otherwise : List Node)
  | tableRows (head : LoopHead) (columns : Option Expr) (body : List Node)
  /-- The body, unless it renders to what such a block rendered to before. -/
  | ifChanged (body : List Node)
  /-- Another template in the scope of this one. The last of two parameters of a name counts. -/
  | include (name : Expr) (parameters : List (String × Expr))
  /-- Another template that sees its parameters alone. Given a source, it is rendered for each of
  its values, which goes by the name beside the source. -/
  | isolate (name : Expr) (parameters : List (String × Expr)) (each : Option (String × LoopSource))
  /-- Ends the loop. -/
  | leave
  /-- Goes on to the next item of the loop. -/
  | next

abbrev Template := List Node

end VersionedSite.Liquid
