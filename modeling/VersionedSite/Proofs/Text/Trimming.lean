import VersionedSite.Proofs.Text.Affix
import VersionedSite.Text.Blank

/-!
# Trimming texts made of items

A text is often put together from items, and trimmed as a whole. Where every item is written with
blanks alone or else with no blank at either end, the text is trimmed by leaving out items: those of
the first kind in front of all others and behind them. So two texts that are made of the same items,
with the same of them blank, lose the same ones.
-/

namespace VersionedSite.Text

/-! ## Texts that are trimmed -/

theorem trimStart_eq_self_iff {s : List Char} :
    trimStart s = s ↔ s.head?.any isBlank = false := by
  rw [trimStart]
  cases s with
  | nil => simp
  | cons c rest =>
    rw [List.dropWhile_cons, List.head?_cons, Option.any_some]
    cases isBlank c with
    | false => simp
    | true =>
      simp only [if_true, Bool.true_eq_false, iff_false]
      intro h
      have hlength := (List.dropWhile_suffix isBlank (l := rest)).length_le
      rw [h, List.length_cons] at hlength
      omega

theorem trimEnd_eq_reverse (s : List Char) : trimEnd s = (trimStart s.reverse).reverse := rfl

theorem trimEnd_eq_self_iff {s : List Char} :
    trimEnd s = s ↔ s.getLast?.any isBlank = false := by
  rw [trimEnd_eq_reverse, List.reverse_eq_iff, trimStart_eq_self_iff, List.head?_reverse]

/-- What is left when the start is trimmed does not start with a blank. -/
theorem head?_trimStart (s : List Char) : (trimStart s).head?.any isBlank = false := by
  rw [Option.any_eq_false]
  intro c hc
  exact Bool.not_eq_true _ ▸ ended_dropWhile isBlank s c hc

theorem trimStart_trimStart (s : List Char) : trimStart (trimStart s) = trimStart s :=
  trimStart_eq_self_iff.mpr (head?_trimStart s)

theorem trimEnd_trimEnd (s : List Char) : trimEnd (trimEnd s) = trimEnd s := by
  rw [trimEnd_eq_reverse, trimEnd_eq_reverse, List.reverse_reverse, trimStart_trimStart]

/-- What is left when the end is trimmed starts as before. -/
theorem trimEnd_prefix (s : List Char) : trimEnd s <+: s := by
  rw [trimEnd_eq_reverse, ← List.reverse_suffix, List.reverse_reverse]
  exact List.dropWhile_suffix isBlank

theorem trim_trim (s : List Char) : trim (trim s) = trim s := by
  have hstart : trimStart (trimEnd (trimStart s)) = trimEnd (trimStart s) := by
    rw [trimStart_eq_self_iff]
    cases h : trimEnd (trimStart s) with
    | nil => rfl
    | cons c rest =>
      obtain ⟨after, hafter⟩ := trimEnd_prefix (trimStart s)
      have hhead := head?_trimStart s
      rw [h] at hafter
      rw [← hafter] at hhead
      exact hhead
  rw [trim, trim, hstart, trimEnd_trimEnd]

/-! ## Items -/

variable {α : Type} {p : α → Bool} {f : α → List Char} {l : List α} {a : α}

/-- An item that satisfies `p` is written with blanks alone, and any other with no blank at either
end. -/
structure WritesBlanks (p : α → Bool) (f : α → List Char) (a : α) : Prop where
  blank : p a = true → ∀ c ∈ f a, isBlank c = true
  head : p a = false → ∃ c ∈ (f a).head?, isBlank c = false
  last : p a = false → ∃ c ∈ (f a).getLast?, isBlank c = false

/-- The items that are left when those that satisfy `p` are taken off both ends. -/
def trimItems (p : α → Bool) (l : List α) : List α :=
  ((l.dropWhile p).reverse.dropWhile p).reverse

theorem mem_of_mem_dropWhile (h : a ∈ l.dropWhile p) : a ∈ l :=
  (List.dropWhile_suffix p).subset h

theorem mem_dropWhile_of_mem (h : a ∈ l) (ha : p a = false) : a ∈ l.dropWhile p := by
  have hsplit : a ∈ l.takeWhile p ++ l.dropWhile p := by
    rw [List.takeWhile_append_dropWhile]
    exact h
  rcases List.mem_append.mp hsplit with h | h
  · exact absurd ((List.mem_takeWhile_imp h).symm.trans ha) (by simp)
  · exact h

theorem mem_of_mem_trimItems (h : a ∈ trimItems p l) : a ∈ l :=
  mem_of_mem_dropWhile (List.mem_reverse.mp (mem_of_mem_dropWhile (List.mem_reverse.mp h)))

theorem mem_trimItems_of_mem (h : a ∈ l) (ha : p a = false) : a ∈ trimItems p l :=
  List.mem_reverse.mpr
    (mem_dropWhile_of_mem (List.mem_reverse.mpr (mem_dropWhile_of_mem h ha)) ha)

/-- What is dropped from the front of the text is written by items in front. -/
theorem dropWhile_flatMap {q : Char → Bool} (hall : ∀ a ∈ l, p a = true → ∀ c ∈ f a, q c = true)
    (hhead : ∀ a ∈ l, p a = false → ∃ c ∈ (f a).head?, q c = false) :
    (l.flatMap f).dropWhile q = (l.dropWhile p).flatMap f := by
  induction l with
  | nil => rfl
  | cons a l ih =>
    rw [List.flatMap_cons]
    cases ha : p a with
    | true =>
      rw [List.dropWhile_cons_of_pos ha,
        List.dropWhile_append_of_pos (hall a List.mem_cons_self ha)]
      exact ih (fun b hb ↦ hall b (List.mem_cons_of_mem _ hb))
        (fun b hb ↦ hhead b (List.mem_cons_of_mem _ hb))
    | false =>
      obtain ⟨c, hc, hnot⟩ := hhead a List.mem_cons_self ha
      obtain ⟨rest, hrest⟩ := List.head?_eq_some_iff.mp hc
      rw [List.dropWhile_cons_of_neg (by simp [ha]), List.flatMap_cons, hrest, List.cons_append,
        List.dropWhile_cons_of_neg (by simp [hnot])]

/-- **A text made of items is trimmed by its items.** -/
theorem trim_flatMap (h : ∀ a ∈ l, WritesBlanks p f a) :
    trim (l.flatMap f) = (trimItems p l).flatMap f := by
  have hstart : trimStart (l.flatMap f) = (l.dropWhile p).flatMap f :=
    dropWhile_flatMap (fun a ha ↦ (h a ha).blank) (fun a ha ↦ (h a ha).head)
  -- the end is the start of the reversed items, each of which is written from behind
  have hreversed : ∀ a ∈ (l.dropWhile p).reverse, WritesBlanks p f a := by
    intro a ha
    exact h a (mem_of_mem_dropWhile (List.mem_reverse.mp ha))
  have hend : trimStart ((l.dropWhile p).reverse.flatMap (List.reverse ∘ f)) =
      ((l.dropWhile p).reverse.dropWhile p).flatMap (List.reverse ∘ f) := by
    refine dropWhile_flatMap (fun a ha hp c hc ↦ ?_) (fun a ha hp ↦ ?_)
    · exact (hreversed a ha).blank hp c (List.mem_reverse.mp hc)
    · rw [Function.comp_apply, List.head?_reverse]
      exact (hreversed a ha).last hp
  rw [trim, hstart, trimEnd_eq_reverse, List.reverse_flatMap, hend, List.reverse_flatMap, trimItems]
  congr 1
  funext a
  simp

end VersionedSite.Text
