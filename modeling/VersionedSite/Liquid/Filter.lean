/-!
# Filters

The functions that an output may send its value through, by name, and how many arguments each
takes. A name that is none of these, and a wrong number of arguments, are refused when a template
is read, so that rendering never meets them.
-/

namespace VersionedSite.Liquid

inductive Filter where
  | abs | append | atLeast | atMost | capitalize | ceil | compact | concat | date | default
  | dividedBy | downcase | escape | escapeOnce | first | floor | join | last | leftStrip | map
  | minus | modulo | newlineToBreak | plus | prepend | remove | removeFirst | replace
  | replaceFirst | reverse | rightStrip | round | size | slice | sort | sortNatural | split | strip
  | stripHtml | stripNewlines | times | truncate | truncateWords | uniq | upcase | urlDecode
  | urlEncode | whereField
  deriving DecidableEq, Repr

namespace Filter

/-- The filters, their names, and the least and greatest number of arguments. -/
def table : List (String × Filter × Nat × Nat) := [
  ("abs", abs, 0, 0), ("append", append, 1, 1), ("at_least", atLeast, 1, 1),
  ("at_most", atMost, 1, 1), ("capitalize", capitalize, 0, 0), ("ceil", ceil, 0, 0),
  ("compact", compact, 0, 1), ("concat", concat, 1, 1), ("date", date, 1, 1),
  ("default", default, 1, 1), ("divided_by", dividedBy, 1, 1), ("downcase", downcase, 0, 0),
  ("escape", escape, 0, 0), ("escape_once", escapeOnce, 0, 0), ("first", first, 0, 0),
  ("floor", floor, 0, 0), ("join", join, 0, 1), ("last", last, 0, 0), ("lstrip", leftStrip, 0, 0),
  ("map", map, 1, 1), ("minus", minus, 1, 1), ("modulo", modulo, 1, 1),
  ("newline_to_br", newlineToBreak, 0, 0), ("plus", plus, 1, 1), ("prepend", prepend, 1, 1),
  ("remove", remove, 1, 1), ("remove_first", removeFirst, 1, 1), ("replace", replace, 1, 2),
  ("replace_first", replaceFirst, 1, 2), ("reverse", reverse, 0, 0), ("round", round, 0, 1),
  ("rstrip", rightStrip, 0, 0), ("size", size, 0, 0), ("slice", slice, 1, 2), ("sort", sort, 0, 1),
  ("sort_natural", sortNatural, 0, 1), ("split", split, 1, 1), ("strip", strip, 0, 0),
  ("strip_html", stripHtml, 0, 0), ("strip_newlines", stripNewlines, 0, 0),
  ("times", times, 1, 1), ("truncate", truncate, 0, 2), ("truncatewords", truncateWords, 0, 2),
  ("uniq", uniq, 0, 0), ("upcase", upcase, 0, 0), ("url_decode", urlDecode, 0, 0),
  ("url_encode", urlEncode, 0, 0), ("where", whereField, 1, 2)]

/-- The filter of a name, with the least and greatest number of its arguments. -/
def find? (name : String) : Option (Filter × Nat × Nat) :=
  (table.find? (·.1 == name)).map (·.2)

/-- The names of all filters, in order. -/
def names : List String := table.map (·.1)

end Filter

end VersionedSite.Liquid
