import Mathlib.Data.List.Forall2
import VersionedSite.Proofs.Liquid.Plain
import VersionedSite.Proofs.Text.Wording

/-!
# Templates on data that stands in for other data

A template is tried out on one set of data and used on others. `Twin` says when a value may stand
in for another: both print words, and the first is not the word `size`. The one thing that a
template can ask of a word is its size, and the one way to ask is an index whose text is `size`;
so where the first value answers, the second does, with a number that is a word again. An index
that reads `size` because of the data is what the second condition excludes: it would answer for
some data and not for others.

All values that a template computes are then the same on both sides or twins of each other, and
what it prints differs in its words at most.
-/

namespace VersionedSite.Liquid

open Text (Reworded)

/-! ## Words -/

/-- A value that prints a word: a text that is one, or the size of something. -/
inductive Value.IsWord : Value → Prop where
  | text {s : String} (h : Text.IsWord s.toList) : IsWord (.text s)
  | size (n : Nat) : IsWord (.int n)

theorem Value.chars_size (n : Nat) : (Value.int n).chars = Nat.toDigits 10 n := by
  rw [chars]
  exact Nat.toList_repr

theorem Value.isDigit_of_mem_chars_size {n : Nat} {c : Char} (h : c ∈ (Value.int n).chars) :
    c.isDigit = true := by
  rw [chars_size] at h
  exact Nat.isDigit_of_mem_toDigits (by decide) (by decide) h

theorem Value.IsWord.chars {v : Value} (h : v.IsWord) : Text.IsWord v.chars := by
  cases h with
  | text h => exact h
  | size n =>
    refine ⟨fun h ↦ ?_, fun c hc ↦ ?_⟩
    · rw [Value.chars_size] at h
      exact Nat.toDigits_ne_nil h
    · exact Text.isBlank_eq_false_of_isDigit (Value.isDigit_of_mem_chars_size hc)

theorem Value.ofList_chars_size_ne (n : Nat) : String.ofList (Value.int n).chars ≠ "size" := by
  intro h
  have hs : 's' ∈ (Value.int n).chars := by
    rw [← String.toList_ofList (l := (Value.int n).chars), h]
    decide
  exact absurd (Value.isDigit_of_mem_chars_size hs) (by decide)

/-- The only member of a word is its size. -/
theorem Value.IsWord.member?_eq {v : Value} (h : v.IsWord) (index : Value) :
    v.member? index =
      if String.ofList index.chars == "size" then some (.int v.byteSize) else none := by
  cases h with
  | text h => rfl
  | size n => rfl

theorem Value.IsWord.isScalar {v : Value} (h : v.IsWord) : v.isScalar = true := by
  cases h with
  | text h => rfl
  | size n => rfl

/-! ## Twins -/

/-- The first value may stand in for the second. -/
structure Twin (v w : Value) : Prop where
  left : v.IsWord
  right : w.IsWord
  ne_size : String.ofList v.chars ≠ "size"

/-- The values of an expression on data and on data that it stands in for. -/
def Alike (v w : Value) : Prop := v = w ∨ Twin v w

theorem Alike.isScalar {v w : Value} (h : Alike v w) : v.isScalar = w.isScalar := by
  rcases h with rfl | h
  · rfl
  · rw [h.left.isScalar, h.right.isScalar]

theorem Alike.reworded {v w : Value} (h : Alike v w) : Reworded v.chars w.chars := by
  rcases h with rfl | h
  · exact .refl _
  · exact .ofWords h.left.chars h.right.chars

/-- An index leads on from a twin only if it is written in the template, so it is the same index
on the other side. -/
theorem Twin.member? {v w i j m : Value} (h : Twin v w) (hi : Alike i j)
    (hm : v.member? i = some m) : ∃ m', w.member? j = some m' ∧ Twin m m' := by
  rw [h.left.member?_eq] at hm
  split at hm
  · next hsize =>
    have hij : i = j := hi.resolve_right fun ht ↦ ht.ne_size (beq_iff_eq.mp hsize)
    obtain rfl := Option.some.inj hm
    refine ⟨.int w.byteSize, ?_, .size _, .size _, Value.ofList_chars_size_ne _⟩
    rw [h.right.member?_eq, ← hij, if_pos hsize]
  · exact absurd hm (by simp)

theorem Twin.follow {v w m : Value} {is js : List Value} (h : Twin v w)
    (hi : List.Forall₂ Alike is js) (hm : v.follow is = .ok m) :
    ∃ m', w.follow js = .ok m' ∧ Twin m m' := by
  induction hi generalizing v w with
  | nil =>
    rw [Value.follow] at hm
    obtain rfl := Except.ok.inj hm
    exact ⟨w, rfl, h⟩
  | cons hij _ ih =>
    rw [Value.follow] at hm
    split at hm
    · next u hu =>
      obtain ⟨u', hu', ht⟩ := h.member? hij hu
      obtain ⟨m', hm', hmm⟩ := ih ht hm
      refine ⟨m', ?_, hmm⟩
      rw [Value.follow, hu']
      exact hm'
    · exact absurd hm (by simp)

theorem memberOf_eq_ok_iff {name : String} {v m : Value} {indexes : List Value} :
    memberOf name v indexes = .ok m ↔ v.follow indexes = .ok m := by
  rw [memberOf]
  cases v.follow indexes with
  | ok w => rw [Except.ok.injEq, Except.ok.injEq]
  | error e => simp

/-! ## Expressions -/

section

variable {look look' : String → Option Value}

/-- Every name has a value, on both sides twins, wherever it has one on the first. -/
def StandsIn (look look' : String → Option Value) : Prop :=
  ∀ name v, look name = some v → ∃ w, look' name = some w ∧ Twin v w

mutual

theorem Expr.value_alike (hl : StandsIn look look') :
    ∀ (e : Expr) {v : Value}, e.value look = .ok v → ∃ w, e.value look' = .ok w ∧ Alike v w
  | .literal u, v, h => by
    rw [Expr.value] at h ⊢
    exact ⟨u, rfl, .inl (Except.ok.inj h).symm⟩
  | .reference name path, v, h => by
    rw [Expr.value] at h
    -- the path comes first and may look up names itself, so its indexes are alike, not equal
    obtain ⟨is, his, h⟩ := Steps.bind_eq_ok_iff.mp h
    obtain ⟨js, hjs, hij⟩ := pathValues_alike hl path his
    cases hu : look name with
    | none =>
      rw [hu] at h
      exact absurd h (by simp)
    | some u =>
      rw [hu] at h
      obtain ⟨u', hu', ht⟩ := hl name u hu
      obtain ⟨w, hw, hvw⟩ := ht.follow hij (memberOf_eq_ok_iff.mp h)
      refine ⟨w, ?_, .inr hvw⟩
      rw [Expr.value, hjs, hu']
      exact memberOf_eq_ok_iff.mpr hw

theorem pathValues_alike (hl : StandsIn look look') :
    ∀ (path : List Expr) {vs : List Value}, pathValues look path = .ok vs →
      ∃ ws, pathValues look' path = .ok ws ∧ List.Forall₂ Alike vs ws
  | [], vs, h => by
    rw [pathValues] at h ⊢
    exact ⟨[], rfl, Except.ok.inj h ▸ .nil⟩
  | e :: path, vs, h => by
    rw [pathValues] at h
    obtain ⟨v, hv, h⟩ := Steps.bind_eq_ok_iff.mp h
    obtain ⟨w, hw, hvw⟩ := Expr.value_alike hl e hv
    split at h
    · next hscalar =>
      obtain ⟨rest, hrest, h⟩ := Steps.bind_eq_ok_iff.mp h
      obtain ⟨rest', hrest', hforall⟩ := pathValues_alike hl path hrest
      obtain rfl := Except.ok.inj h
      refine ⟨w :: rest', ?_, .cons hvw hforall⟩
      rw [pathValues, hw, hrest']
      simp only [bind, Except.bind]
      rw [if_pos (hvw.isScalar ▸ hscalar)]
      rfl
    · exact absurd h (by simp)

end

/-! ## Templates -/

/-- **A template that renders on data renders on all data that it stands in for**, to the same
text with other words in it. -/
theorem Template.printed_reworded (hl : StandsIn look look') {t : Template}
    (ht : ∀ n ∈ t, n.IsPlain) {out : List Char} (h : t.printed look = .ok out) :
    ∃ out', t.printed look' = .ok out' ∧ Reworded out out' := by
  induction t generalizing out with
  | nil => exact ⟨out, h, .refl out⟩
  | cons n t ih =>
    have ih {rest : List Char} (hrest : Template.printed look t = .ok rest) :=
      ih (fun m hm ↦ ht m (List.mem_cons_of_mem _ hm)) hrest
    cases ht n List.mem_cons_self with
    | text s =>
      rw [printed] at h ⊢
      obtain ⟨rest, hrest, h⟩ := Steps.bind_eq_ok_iff.mp h
      obtain rfl := Except.ok.inj h
      obtain ⟨rest', hrest', hr⟩ := ih hrest
      rw [hrest']
      exact ⟨s ++ rest', rfl, (Reworded.refl s).append hr⟩
    | output e =>
      rw [printed] at h ⊢
      obtain ⟨v, hv, h⟩ := Steps.bind_eq_ok_iff.mp h
      obtain ⟨rest, hrest, h⟩ := Steps.bind_eq_ok_iff.mp h
      obtain rfl := Except.ok.inj h
      obtain ⟨w, hw, hvw⟩ := Expr.value_alike hl e hv
      obtain ⟨rest', hrest', hr⟩ := ih hrest
      rw [hw, hrest']
      exact ⟨w.chars ++ rest', rfl, hvw.reworded.append hr⟩

end

end VersionedSite.Liquid
