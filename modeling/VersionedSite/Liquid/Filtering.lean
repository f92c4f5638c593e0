import VersionedSite.Liquid.Filter
import VersionedSite.Liquid.Filtering.Number
import VersionedSite.Liquid.Filtering.Sequence
import VersionedSite.Liquid.Filtering.Text

/-!
# Applying filters

What each filter makes of a value and its arguments. A filter applies or it does not; which
arguments there are has been checked when the template was read.
-/

namespace VersionedSite.Liquid

namespace Filtering

/-- An argument that must be a whole number, with what it is when it is left out. -/
def wholeOr (usual : Int) : Option Value → Option Int
  | none => some usual
  | some v => v.toInt?

def nameOf (v : Value) : String := String.ofList v.chars

/-- The text of an argument, with what it is when it is left out. -/
def charsOr (usual : List Char) (v : Option Value) : List Char := (v.map Value.chars).getD usual

/-- The mark of a cut, unless another one is given. -/
def ellipsis : List Char := ['.', '.', '.']

end Filtering

open Filtering in
/-- The value of a filter that is given one value and `a`, and perhaps `b`, as arguments. -/
def Filter.applyTo (f : Filter) (now : Calendar.Moment) (v : Value) (a b : Option Value) :
    Option Value :=
  let given := a.getD .nil
  match f with
  | .abs => Filtering.abs v
  | .append => some (onText (· ++ given.chars) v)
  | .atLeast => Filtering.atLeast v given
  | .atMost => Filtering.atMost v given
  | .capitalize => some (onText Text.capitalized v)
  | .ceil => Filtering.ceil v
  | .compact => v.items?.bind (Filtering.compact · (a.map nameOf))
  | .concat => do return .list ((← v.items?) ++ (← given.items?))
  | .date => Filtering.date now v given.chars
  | .default => some (if v.isAbsent then given else v)
  | .dividedBy => Filtering.dividedBy v given
  | .downcase => some (onText Text.lower v)
  | .escape => some (onTextUnlessNil Text.escape v)
  | .escapeOnce => some (onTextUnlessNil Text.escapeOnce v)
  | .first => Filtering.first v
  | .floor => Filtering.floor v
  | .join => v.items?.map (Filtering.join · (charsOr [' '] a))
  | .last => Filtering.last v
  | .leftStrip => some (onText Text.trimStart v)
  | .map => v.items?.map (mapField · (nameOf given))
  | .minus => Filtering.minus v given
  | .modulo => Filtering.modulo v given
  | .newlineToBreak => some (onText Filtering.newlineToBreak v)
  | .plus => Filtering.plus v given
  | .prepend => some (onText (given.chars ++ ·) v)
  | .remove => some (onText (Text.replaceAll given.chars []) v)
  | .removeFirst => some (onText (Filtering.replaceFirst given.chars []) v)
  | .replace => some (onText (Text.replaceAll given.chars (charsOr [] b)) v)
  | .replaceFirst => some (onText (Filtering.replaceFirst given.chars (charsOr [] b)) v)
  | .reverse => v.items?.map fun items ↦ .list items.reverse
  | .rightStrip => some (onText Text.trimEnd v)
  | .round => (wholeOr 0 a).bind (Filtering.round v)
  | .size => some (Filtering.size v)
  | .slice => do Filtering.slice v (← given.toInt?) (← wholeOr 1 b)
  | .sort => Filtering.sort v (a.map nameOf)
  | .sortNatural => Filtering.sortNatural v (a.map nameOf)
  | .split => some (Filtering.split given.chars v.chars)
  | .strip => some (onText Text.trim v)
  | .stripHtml => some (onText Text.stripMarkup v)
  | .stripNewlines => some (onText Filtering.stripNewlines v)
  | .times => Filtering.times v given
  | .truncate => do
    return Filtering.truncate (← wholeOr 50 a) (charsOr ellipsis b) v
  | .truncateWords => do
    return Filtering.truncateWords (← wholeOr 50 a) (charsOr ellipsis b) v
  | .uniq => v.items?.map fun items ↦ .list (distinct [] items)
  | .upcase => some (onText Text.upper v)
  | .urlDecode => Filtering.urlDecode v
  | .urlEncode => some (onTextUnlessNil Filtering.urlEncode v)
  | .whereField => Filtering.whereField v (nameOf given) b

/-- The value of a filter with its arguments. -/
def Filter.apply (f : Filter) (now : Calendar.Moment) (v : Value) (arguments : List Value) :
    Option Value :=
  f.applyTo now v arguments[0]? arguments[1]?

end VersionedSite.Liquid
