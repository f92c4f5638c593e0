import VersionedSite.Text.Blank

/-!
# Texts that differ in their words

Two texts that are made of the same characters, except that in some places one has a word where
the other has another word. Trimming and splitting into lines look at blanks alone, and a word has
none; so both texts are trimmed in the same way and have their line breaks in the same places.

`Reworded` is a relation and not a function because a text does not show where its words came
from: the same characters may stand there as they are or in the place of others.
-/

namespace VersionedSite.Text

/-- A text that is not empty and has no blank in it. -/
def IsWord (s : List Char) : Prop := s ≠ [] ∧ ∀ c ∈ s, isBlank c = false

instance (s : List Char) : Decidable (IsWord s) :=
  decidable_of_iff ((!s.isEmpty && s.all fun c ↦ !isBlank c) = true) (by simp [IsWord])

theorem IsWord.append {s t : List Char} (hs : IsWord s) (ht : ∀ c ∈ t, isBlank c = false) :
    IsWord (s ++ t) := by
  refine ⟨fun h ↦ hs.1 (List.append_eq_nil_iff.mp h).1, fun c hc ↦ ?_⟩
  rcases List.mem_append.mp hc with hc | hc
  · exact hs.2 c hc
  · exact ht c hc

theorem IsWord.reverse {s : List Char} (hs : IsWord s) : IsWord s.reverse :=
  ⟨fun h ↦ hs.1 (List.reverse_eq_nil_iff.mp h), fun c hc ↦ hs.2 c (List.mem_reverse.mp hc)⟩

theorem IsWord.not_mem_newline {s : List Char} (hs : IsWord s) : '\n' ∉ s :=
  fun h ↦ absurd (hs.2 _ h) (by decide)

theorem isBlank_eq_false_of_isDigit {c : Char} (h : c.isDigit = true) :
    isBlank c = false := by
  rw [Char.isDigit, Bool.and_eq_true, decide_eq_true_eq, decide_eq_true_eq, ge_iff_le,
    UInt32.le_iff_toNat_le, UInt32.le_iff_toNat_le] at h
  have hlow : 48 ≤ c.toNat := h.1
  have hhigh : c.toNat ≤ 57 := h.2
  simp only [isBlank, Bool.or_eq_false_iff, Bool.and_eq_false_iff, decide_eq_false_iff_not,
    beq_eq_false_iff_ne, ne_eq]
  omega

/-- A word stops what drops blanks. -/
theorem IsWord.trimStart_append {s : List Char} (hs : IsWord s) (t : List Char) :
    trimStart (s ++ t) = s ++ t := by
  obtain ⟨c, r, rfl⟩ := List.exists_cons_of_ne_nil hs.1
  have hc := hs.2 c List.mem_cons_self
  rw [trimStart, List.cons_append, List.dropWhile_cons_of_neg (by simp [hc])]

/-- The second text is the first with other words in some places. -/
inductive Reworded : List Char → List Char → Prop where
  | nil : Reworded [] []
  | char (c : Char) {s t : List Char} (h : Reworded s t) : Reworded (c :: s) (c :: t)
  | word {u v s t : List Char} (hu : IsWord u) (hv : IsWord v) (h : Reworded s t) :
      Reworded (u ++ s) (v ++ t)

namespace Reworded

variable {s t s' t' : List Char}

theorem refl (s : List Char) : Reworded s s := by
  induction s with
  | nil => exact .nil
  | cons c s ih => exact .char c ih

theorem ofWords {u v : List Char} (hu : IsWord u) (hv : IsWord v) : Reworded u v := by
  have h := Reworded.word hu hv .nil
  rwa [List.append_nil, List.append_nil] at h

theorem append (h : Reworded s t) (h' : Reworded s' t') : Reworded (s ++ s') (t ++ t') := by
  induction h with
  | nil => exact h'
  | char c _ ih => exact .char c ih
  | word hu hv _ ih =>
    rw [List.append_assoc, List.append_assoc]
    exact .word hu hv ih

theorem reverse (h : Reworded s t) : Reworded s.reverse t.reverse := by
  induction h with
  | nil => exact .nil
  | char c _ ih =>
    rw [List.reverse_cons, List.reverse_cons]
    exact ih.append (.refl [c])
  | word hu hv _ ih =>
    rw [List.reverse_append, List.reverse_append]
    exact ih.append (.ofWords hu.reverse hv.reverse)

/-- Where one text has a blank in front the other has it too, up to the first word. -/
theorem trimStart (h : Reworded s t) : Reworded (trimStart s) (trimStart t) := by
  induction h with
  | nil => exact .nil
  | @char c s t h ih =>
    by_cases hc : isBlank c = true
    · rw [Text.trimStart, Text.trimStart, List.dropWhile_cons_of_pos hc,
        List.dropWhile_cons_of_pos hc]
      exact ih
    · rw [Text.trimStart, Text.trimStart, List.dropWhile_cons_of_neg hc,
        List.dropWhile_cons_of_neg hc]
      exact .char c h
  | word hu hv h _ =>
    -- both sides stop here, so the induction hypothesis about the rest is not needed
    rw [hu.trimStart_append, hv.trimStart_append]
    exact .word hu hv h

theorem trimEnd (h : Reworded s t) : Reworded (trimEnd s) (trimEnd t) :=
  h.reverse.trimStart.reverse

theorem trim (h : Reworded s t) : Reworded (trim s) (trim t) := h.trimStart.trimEnd

/-- No line break is in a word. -/
theorem mem_newline_iff (h : Reworded s t) : '\n' ∈ s ↔ '\n' ∈ t := by
  induction h with
  | nil => rfl
  | char c _ ih => rw [List.mem_cons, List.mem_cons, ih]
  | word hu hv _ ih =>
    rw [List.mem_append, List.mem_append, ih, or_iff_right hu.not_mem_newline,
      or_iff_right hv.not_mem_newline]

end Reworded

end VersionedSite.Text
