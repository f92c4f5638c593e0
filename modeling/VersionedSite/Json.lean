import VersionedSite.Text.Quoted
import VersionedSite.Value

/-!
# Values as JSON

A value printed for people to read: a member or item a line, two spaces further in than what
holds it. An empty list or record stays on one line. Only quotes, backslashes and control
characters are escaped.
-/

namespace VersionedSite.Json

/-- One character of a text. -/
def escapeChar (c : Char) : List Char :=
  match c with
  | '"' => ['\\', '"']
  | '\\' => ['\\', '\\']
  | '\n' => ['\\', 'n']
  | '\r' => ['\\', 'r']
  | '\t' => ['\\', 't']
  | '\x08' => ['\\', 'b']
  | '\x0c' => ['\\', 'f']
  | c =>
    if c.toNat < 0x20 then
      ['\\', 'u', '0', '0', Text.hexDigit (c.toNat / 16), Text.hexDigit (c.toNat % 16)]
    else [c]

def quote (s : String) : List Char := '"' :: s.toList.flatMap escapeChar ++ ['"']

/-- A line break and the indentation of a depth. -/
def newline (depth : Nat) : List Char := '\n' :: List.replicate (2 * depth) ' '

mutual

/-- A value at a depth. -/
def chars (depth : Nat) : Value → List Char
  | .null => ['n', 'u', 'l', 'l']
  | .bool true => ['t', 'r', 'u', 'e']
  | .bool false => ['f', 'a', 'l', 's', 'e']
  | .number n => (toString n).toList
  | .text s => quote s
  | .list [] => ['[', ']']
  | .list (v :: rest) =>
    '[' :: newline (depth + 1) ++ chars (depth + 1) v ++ moreItems (depth + 1) rest
      ++ newline depth ++ [']']
  | .record [] => ['{', '}']
  | .record ((k, v) :: rest) =>
    '{' :: newline (depth + 1) ++ quote k ++ [':', ' '] ++ chars (depth + 1) v
      ++ moreFields (depth + 1) rest ++ newline depth ++ ['}']

/-- The items after the first one. -/
def moreItems (depth : Nat) : List Value → List Char
  | [] => []
  | v :: rest => ',' :: newline depth ++ chars depth v ++ moreItems depth rest

/-- The fields after the first one. -/
def moreFields (depth : Nat) : List (String × Value) → List Char
  | [] => []
  | (k, v) :: rest =>
    ',' :: newline depth ++ quote k ++ [':', ' '] ++ chars depth v ++ moreFields depth rest

end

/-- The value as a document. -/
def print (v : Value) : String := String.ofList (chars 0 v)

end VersionedSite.Json
