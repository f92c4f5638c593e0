import VersionedSite.Text.Html

/-!
# Escaped text

Escaping writes the characters that mean something to markup as entities. No entity holds such a
character but the ampersand that it starts with, so escaped text neither opens nor closes a tag,
and ends no quoted value. A reader of the markup who puts the characters back in the place of their
entities has the text as it was, also where it holds what looks like an entity.
-/

namespace VersionedSite.Text

/-- The characters that open and close a tag, and that quote the value of an attribute. -/
def signs : List Char := ['<', '>', '"']

theorem forall_mem_signs {p : Char → Prop} : (∀ c ∈ signs, p c) ↔ p '<' ∧ p '>' ∧ p '"' := by
  simp [signs]

/-- The characters that are written as entities. -/
def named : List Char := ['<', '>', '\'', '"', '&']

theorem named_of_entity? {c : Char} {name : List Char} (h : entity? c = some name) :
    name ∈ entityNames ∧ c ∈ named := by
  unfold entity? at h
  split at h
  case h_6 => exact absurd h (by simp)
  all_goals
    obtain rfl := Option.some.inj h
    decide

/-- Nothing in the name of an entity has an entity itself. -/
theorem entity?_of_mem_entity? {c d : Char} {name : List Char} (h : entity? d = some name)
    (hc : c ∈ name) : entity? c = none := by
  have hnames : name ∈ entityNames := (named_of_entity? h).1
  have hall : (entityNames.all fun name ↦ name.all fun c ↦ (entity? c).isNone) = true := by decide
  have hchars := List.all_eq_true.mp hall name hnames
  exact Option.isNone_iff_eq_none.mp (List.all_eq_true.mp hchars c hc)

theorem not_mem_escape {c : Char} (hc : (entity? c).isSome = true) (hamp : c ≠ '&')
    (s : List Char) : c ∉ escape s := by
  rw [escape, List.mem_flatMap]
  rintro ⟨d, -, hd⟩
  rw [escapeChar] at hd
  split at hd
  · next name hname =>
    rcases List.mem_cons.mp hd with rfl | hmem
    · exact hamp rfl
    · rw [entity?_of_mem_entity? hname hmem] at hc
      exact absurd hc (by decide)
  · next hnone =>
    rw [List.mem_singleton.mp hd, hnone] at hc
    exact absurd hc (by decide)

theorem count_escape_eq_zero {c : Char} (hc : c ∈ signs) (s : List Char) :
    (escape s).count c = 0 := by
  have hsigns : ∀ c ∈ signs, (entity? c).isSome = true ∧ c ≠ '&' :=
    forall_mem_signs.mpr (by decide)
  exact List.count_eq_zero.mpr (not_mem_escape (hsigns c hc).1 (hsigns c hc).2 s)

/-! ## Reading escaped text back -/

theorem escape_cons (c : Char) (s : List Char) : escape (c :: s) = escapeChar c ++ escape s := by
  rw [escape, escape, List.flatMap_cons]

/-- The text that markup shows, with characters in the place of the five entities. -/
def unescape : List Char → List Char
  | '&' :: 'l' :: 't' :: ';' :: s => '<' :: unescape s
  | '&' :: 'g' :: 't' :: ';' :: s => '>' :: unescape s
  | '&' :: '#' :: '3' :: '9' :: ';' :: s => '\'' :: unescape s
  | '&' :: 'q' :: 'u' :: 'o' :: 't' :: ';' :: s => '"' :: unescape s
  | '&' :: 'a' :: 'm' :: 'p' :: ';' :: s => '&' :: unescape s
  | c :: s => c :: unescape s
  | [] => []

theorem unescape_cons {c : Char} (h : c ≠ '&') (s : List Char) :
    unescape (c :: s) = c :: unescape s := by
  rw [unescape]
  all_goals
    rintro - rfl
    exact absurd rfl h

/-- An entity is read as the character that it is written for. -/
theorem unescape_entity {c : Char} {name : List Char} (h : entity? c = some name)
    (s : List Char) : unescape ('&' :: name ++ s) = c :: unescape s := by
  unfold entity? at h
  split at h
  case h_6 => exact absurd h (by simp)
  all_goals
    obtain rfl := Option.some.inj h
    rfl

theorem unescape_escape (s : List Char) : unescape (escape s) = s := by
  induction s with
  | nil => rfl
  | cons c s ih =>
    rw [escape_cons, escapeChar]
    cases hc : entity? c with
    | none =>
      have hamp : c ≠ '&' := by
        rintro rfl
        exact absurd hc (by decide)
      dsimp only
      rw [List.singleton_append, unescape_cons hamp, ih]
    | some name =>
      dsimp only
      rw [unescape_entity hc, ih]

/-- Texts that are escaped to the same text are the same. -/
theorem escape_inj {s t : List Char} (h : escape s = escape t) : s = t := by
  rw [← unescape_escape s, h, unescape_escape]

end VersionedSite.Text
