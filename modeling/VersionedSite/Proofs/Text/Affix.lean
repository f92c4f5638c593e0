import Mathlib.Data.List.TakeWhile
import VersionedSite.Text.Search

/-!
# Taking a text off the front

What is left after a text has been taken off the front, and the piece up to the character that
ends it. Both are stated through `++`, so that a reader of addresses is related to the texts that
addresses are put together from, and not to its own recursion.
-/

namespace VersionedSite.Text

theorem dropStart?_eq_some_iff {p s r : List Char} : dropStart? p s = some r ↔ s = p ++ r := by
  induction p generalizing s with
  | nil => rw [dropStart?, Option.some_inj, List.nil_append]
  | cons c p ih =>
    cases s with
    | nil => simp [dropStart?]
    | cons d s =>
      rw [dropStart?, List.cons_append, List.cons.injEq]
      by_cases h : c = d
      · rw [if_pos h, ih, eq_comm (a := d), and_iff_right h]
      · rw [if_neg h]
        exact ⟨fun hn ↦ absurd hn (by simp), fun he ↦ absurd he.1.symm h⟩

@[simp] theorem dropStart?_append (p r : List Char) : dropStart? p (p ++ r) = some r :=
  dropStart?_eq_some_iff.mpr rfl

/-- A piece without a character that ends it is read up to the rest, if the rest is empty or
starts with one. -/
theorem takeWhile_append_of_ended {p : Char → Bool} {s t : List Char}
    (hs : ∀ c ∈ s, p c = true) (ht : ∀ c ∈ t.head?, p c = false) :
    (s ++ t).takeWhile p = s := by
  rw [List.takeWhile_append_of_pos hs]
  cases t with
  | nil => rw [List.takeWhile_nil, List.append_nil]
  | cons c t => rw [List.takeWhile_cons_of_neg (by simp [ht c rfl]), List.append_nil]

/-- What follows the piece is empty or starts with a character that ends it. -/
theorem ended_dropWhile (p : Char → Bool) (s : List Char) :
    ∀ c ∈ (s.dropWhile p).head?, p c = false := by
  intro c hc
  have h := List.head?_dropWhile_not p s
  rw [Option.mem_def.mp hc] at h
  exact h

/-- What is left when a character is taken off the front as often as it stands there. The text is
some number of it and then the rest, and the rest does not start with another one. -/
theorem dropWhile_beq_eq_iff {c : Char} {s rest : List Char} :
    s.dropWhile (· == c) = rest ↔
      ∃ n, s = List.replicate n c ++ rest ∧ rest.head? ≠ some c := by
  constructor
  · rintro rfl
    have hfront : s.takeWhile (· == c) =
        List.replicate (s.takeWhile (· == c)).length c :=
      List.eq_replicate_of_mem fun d hd ↦ by simpa using List.mem_takeWhile_imp hd
    refine ⟨(s.takeWhile (· == c)).length, ?_, fun h ↦ ?_⟩
    · rw [← hfront, List.takeWhile_append_dropWhile]
    · exact absurd (ended_dropWhile _ s c h) (by simp)
  · rintro ⟨n, rfl, hrest⟩
    rw [List.dropWhile_append_of_pos (by simp)]
    cases rest with
    | nil => rfl
    | cons d rest =>
      have hd : d ≠ c := fun he ↦ hrest (by rw [he]; rfl)
      exact List.dropWhile_cons_of_neg (by simpa using hd)

/-- A text is cut at the first occurrence of a character in one way. -/
theorem eq_and_eq_of_cut_first {c : Char} {a b r t : List Char} (ha : c ∉ a) (hb : c ∉ b)
    (h : a ++ c :: r = b ++ c :: t) : a = b ∧ r = t := by
  have hpiece {s after : List Char} (hs : c ∉ s) : (s ++ c :: after).takeWhile (· != c) = s := by
    refine takeWhile_append_of_ended (fun d hd ↦ ?_) (fun d hd ↦ ?_)
    · exact bne_iff_ne.mpr fun hdc ↦ hs (hdc ▸ hd)
    · rw [← Option.mem_some.mp hd]
      exact bne_self_eq_false c
  have hab : a = b := by
    rw [← hpiece ha, ← hpiece hb, h]
  subst hab
  exact ⟨rfl, (List.cons.inj (List.append_cancel_left h)).2⟩

/-- A text is cut at the last occurrence of a character in one way. -/
theorem eq_and_eq_of_cut_last {c : Char} {a b r t : List Char} (hr : c ∉ r) (ht : c ∉ t)
    (h : a ++ c :: r = b ++ c :: t) : a = b ∧ r = t := by
  have hreverse : r.reverse ++ c :: a.reverse = t.reverse ++ c :: b.reverse := by
    simpa using congrArg List.reverse h
  obtain ⟨hrt, hab⟩ := eq_and_eq_of_cut_first (by simpa using hr) (by simpa using ht) hreverse
  exact ⟨List.reverse_inj.mp hab, List.reverse_inj.mp hrt⟩

/-- Searching finds a text wherever it stands. -/
theorem occurs_eq_true_iff {p s : List Char} : occurs p s = true ↔ p <:+: s := by
  induction s with
  | nil => cases p <;> simp [occurs, cutAt?]
  | cons c s ih =>
    rw [occurs, cutAt?, List.infix_cons_iff]
    cases hstart : dropStart? p (c :: s) with
    | some rest =>
      have hstarts : p <+: c :: s := ⟨rest, (dropStart?_eq_some_iff.mp hstart).symm⟩
      simp [hstarts]
    | none =>
      have hstarts : ¬p <+: c :: s := by
        rintro ⟨rest, hrest⟩
        rw [dropStart?_eq_some_iff.mpr hrest.symm] at hstart
        exact absurd hstart (by simp)
      rw [or_iff_right hstarts, ← ih, occurs]
      simp

end VersionedSite.Text
