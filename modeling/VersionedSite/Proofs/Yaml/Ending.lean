import VersionedSite.Yaml.Printer

/-!
# The end of a printed document

The last character of a printed document is that of the last scalar in it, whatever stands before
it and however deep it stands. `lastWritten` finds it in the value, without printing anything. A
text that is quoted ends in a quotation mark, and a text that is not in its own last character.
-/

namespace VersionedSite.Yaml

/-! ## Pages -/

namespace Page

variable (p : Page)

/-- The last character on the page. -/
def last? : Option Char := p.written.head?

theorem written_putAll (s : List Char) : (p.putAll s).written = s.reverse ++ p.written := by
  induction s generalizing p with
  | nil => rfl
  | cons c s ih =>
    rw [putAll, List.foldl_cons]
    refine (ih (p.put c)).trans ?_
    rw [List.reverse_cons, List.append_assoc]
    rfl

theorem last?_putAll {s : List Char} (hs : s ≠ []) : (p.putAll s).last? = s.getLast? := by
  rw [last?, written_putAll, List.head?_append, List.head?_reverse]
  cases h : s.getLast? with
  | none => exact absurd (List.getLast?_eq_none_iff.mp h) hs
  | some c => rfl

theorem last?_plain {s : List Char} (hs : s ≠ []) : (p.plain s).last? = s.getLast? :=
  last?_putAll _ hs

theorem last?_singleQuoted (indent : Int) (s : List Char) :
    (singleQuoted indent p s).last? = some '\'' := rfl

theorem last?_doubleQuoted (s : List Char) : (p.doubleQuoted s).last? = some '"' := rfl

/-- A block ends in the last character of its text, be it a break or not. -/
theorem last?_literal {s : List Char} (hs : s ≠ []) (indent : Int) :
    (literal indent p s).last? = s.getLast? := by
  obtain ⟨front, c, rfl⟩ := (List.eq_nil_or_concat s).resolve_left hs
  rw [List.concat_eq_append, literal, List.foldl_append, List.foldl_cons, List.foldl_nil,
    List.getLast?_concat]
  split
  · rfl
  · rfl

end Page

/-! ## Values -/

/-- The last character of a text as it is written. -/
def lastOfText (s : String) : Option Char :=
  match chosenStyle s false with
  | .singleQuoted => some '\''
  | .doubleQuoted => some '"'
  | .plain | .literal | .folded => s.toList.getLast?

mutual

/-- The last character of a printed value. -/
def lastWritten : Value → Option Char
  | .null => some 'l'
  | .bool _ => some 'e'
  | .number n => (toString n).toList.getLast?
  | .text s => lastOfText s
  | .list [] => some ']'
  | .list (x :: xs) => lastOfItems (x :: xs)
  | .record [] => some '\x7d'
  | .record (f :: fs) => lastOfFields (f :: fs)

def lastOfItems : List Value → Option Char
  | [] => none
  | [x] => lastWritten x
  | _ :: x :: xs => lastOfItems (x :: xs)

def lastOfFields : List (String × Value) → Option Char
  | [] => none
  | [(_, v)] => lastWritten v
  | _ :: f :: fs => lastOfFields (f :: fs)

end

theorem chosenStyle_empty : chosenStyle "" false = .singleQuoted := by decide

theorem last?_printText (indent : Int) (s : String) (p : Page) :
    (printText indent false s p).last? = lastOfText s := by
  -- without characters of its own a text ends in a quotation mark
  have hs : chosenStyle s false ≠ .singleQuoted → s.toList ≠ [] := by
    intro h hnil
    rw [String.toList_eq_nil_iff.mp hnil] at h
    exact h chosenStyle_empty
  rw [printText, lastOfText]
  cases h : chosenStyle s false with
  | plain => exact Page.last?_plain p (hs (by simp [h]))
  | singleQuoted => exact Page.last?_singleQuoted p _ _
  | doubleQuoted => exact Page.last?_doubleQuoted p _
  | literal => exact Page.last?_literal p (hs (by simp [h])) _
  | folded => exact Page.last?_literal p (hs (by simp [h])) _

mutual

theorem last?_printValue (indent : Int) (inMapping : Bool) :
    ∀ (v : Value) (p : Page), (printValue indent inMapping v p).last? = lastWritten v
  | .null, p => by
    rw [printValue, lastWritten]
    exact Page.last?_plain p (by decide)
  | .bool b, p => by
    rw [printValue, lastWritten]
    cases b <;> exact Page.last?_plain p (by decide)
  | .number n, p => by
    rw [printValue, lastWritten]
    exact Page.last?_plain p (by simp)
  | .text s, p => by
    rw [printValue, lastWritten]
    exact last?_printText indent s p
  | .list [], p => rfl
  | .list (x :: xs), p => by
    rw [printValue, lastWritten]
    exact last?_printItems _ (x :: xs) (by simp) p
  | .record [], p => rfl
  | .record (f :: fs), p => by
    rw [printValue, lastWritten]
    exact last?_printFields _ (f :: fs) (by simp) p

theorem last?_printItems (indent : Int) :
    ∀ xs ≠ [], ∀ p : Page, (printItems indent xs p).last? = lastOfItems xs
  | [], h, _ => absurd rfl h
  | [x], _, p => by
    -- nothing is written behind the last item
    rw [printItems, printItems, lastOfItems]
    exact last?_printValue indent false x _
  | _ :: x :: xs, _, p => by
    rw [printItems, lastOfItems]
    exact last?_printItems indent (x :: xs) (by simp) _

theorem last?_printFields (indent : Int) :
    ∀ fs ≠ [], ∀ p : Page, (printFields indent fs p).last? = lastOfFields fs
  | [], h, _ => absurd rfl h
  | [(_, v)], _, p => by
    rw [printFields, printFields, lastOfFields]
    exact last?_printValue indent true v _
  | _ :: f :: fs, _, p => by
    rw [printFields, lastOfFields]
    exact last?_printFields indent (f :: fs) (by simp) _

end

/-- **The end of a printed document** is found in the value that it prints. -/
theorem getLast?_print (v : Value) : (print v).getLast? = lastWritten v := by
  rw [print, List.getLast?_reverse]
  exact last?_printValue (-1) false v Page.blank

/-- A record ends as its last field does. -/
theorem lastWritten_record_append (fs : List (String × Value)) (k : String) (v : Value) :
    lastWritten (.record (fs ++ [(k, v)])) = lastWritten v := by
  have hfields (fs : List (String × Value)) : lastOfFields (fs ++ [(k, v)]) = lastWritten v := by
    induction fs with
    | nil => rfl
    | cons f fs ih =>
      obtain ⟨g, gs, hgs⟩ := List.exists_cons_of_ne_nil (l := fs ++ [(k, v)]) (by simp)
      rw [List.cons_append, hgs, lastOfFields, ← hgs, ih]
  cases fs with
  | nil => rfl
  | cons f fs => rw [List.cons_append, lastWritten, ← List.cons_append, hfields]

end VersionedSite.Yaml
