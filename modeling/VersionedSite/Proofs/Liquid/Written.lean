import VersionedSite.Proofs.Liquid.Plain
import VersionedSite.Proofs.Text.Trimming
import VersionedSite.Proofs.Text.Wording

/-!
# Templates as they are written

The other direction of reading. A text that is written with characters and with names between
double braces is a template of the plain dialect: a node for every name, and a node for every run
of characters between them. What it prints is the text itself with a value in the place of each
name.

A literal is taken wherever one starts, so a name must not start with one, or it would be read as
the literal and a rest.
-/

namespace VersionedSite.Liquid

/-! ## Names -/

/-- A character that a name may start with. -/
def isNameStart (c : Char) : Bool := c.isAlpha || c == '_'

/-- A name of letters, digits and underscores that no literal starts. -/
structure IsName (n : String) : Prop where
  head : n.toList.head?.any isNameStart = true
  all : n.toList.all (fun c ↦ c.isAlphanum || c == '_') = true
  not_literal : ∀ w ∈ literalWords, ¬w.1 <+: n.toList

theorem IsName.exists_cons {n : String} (hn : IsName n) :
    ∃ c s, n.toList = c :: s ∧ isNameStart c = true := by
  have h := hn.head
  cases hs : n.toList with
  | nil => exact absurd h (by simp [hs])
  | cons c s =>
    rw [hs, List.head?_cons, Option.any_some] at h
    exact ⟨c, s, rfl, h⟩

theorem ne_of_isNameStart {c d : Char} (hc : isNameStart c = true) (hd : isNameStart d = false) :
    c ≠ d := by
  rintro rfl
  exact absurd (hc.symm.trans hd) (by simp)

theorem isDigit_eq_false_of_isNameStart {c : Char} (h : isNameStart c = true) :
    c.isDigit = false := by
  rw [isNameStart, Bool.or_eq_true, beq_iff_eq] at h
  rcases h with h | rfl
  · have hcode : (decide (c.val ≥ 'A'.val ∧ c.val ≤ 'Z'.val) ||
        (c.val ≥ 'a'.val && c.val ≤ 'z'.val)) = true := h
    simp only [Bool.or_eq_true, Bool.and_eq_true, decide_eq_true_eq, ge_iff_le,
      UInt32.le_iff_toNat_le] at hcode
    have hlow : 65 ≤ c.toNat := by
      rcases hcode with ⟨hupper, -⟩ | ⟨hlower, -⟩
      · exact hupper
      · exact Nat.le_trans (by decide) hlower
    rw [Char.isDigit, Bool.and_eq_false_iff]
    right
    rw [decide_eq_false_iff_not, UInt32.le_iff_toNat_le]
    exact fun hdigit ↦ absurd (Nat.le_trans hlow hdigit) (by decide)
  · rfl

theorem nameTail_append {s : List Char} (h : ∀ c ∈ s, (c.isAlphanum || c == '_') = true)
    (rest : List Char) : nameTail (s ++ ' ' :: rest) = (s, ' ' :: rest) := by
  induction s with
  | nil => rfl
  | cons c s ih =>
    have hc := h c List.mem_cons_self
    rw [List.cons_append, nameTail, if_pos (by rw [hc, Bool.true_or]),
      ih fun d hd ↦ h d (List.mem_cons_of_mem _ hd)]

theorem name?_append {n : String} (hn : IsName n) (rest : List Char) :
    name? (n.toList ++ ' ' :: rest) = some (n, ' ' :: rest) := by
  obtain ⟨c, s, hs, hc⟩ := hn.exists_cons
  have hall : ∀ d ∈ s, (d.isAlphanum || d == '_') = true := by
    intro d hd
    exact List.all_eq_true.mp hn.all d (hs ▸ List.mem_cons_of_mem _ hd)
  have hname : n = String.ofList (c :: s) := by
    rw [← hs, String.ofList_toList]
  rw [isNameStart] at hc
  rw [hs, List.cons_append, name?, if_pos (by rw [hc, Bool.true_or]), nameTail_append hall, hname]

/-- No literal has a space in it, so one that starts before a space ends before it. -/
theorem literalWord?_append {n : String} (hn : IsName n) (rest : List Char) :
    literalWord? (n.toList ++ ' ' :: rest) = none := by
  have hnone : ∀ w ∈ literalWords, Text.dropStart? w.1 (n.toList ++ ' ' :: rest) = none := by
    intro w hw
    have hspace : ' ' ∉ w.1 := (show ∀ w ∈ literalWords, ' ' ∉ w.1 by decide) w hw
    rw [Option.eq_none_iff_forall_ne_some]
    intro r hr
    have hstarts : w.1 <+: n.toList ++ ' ' :: rest := ⟨r, (Text.dropStart?_eq_some_iff.mp hr).symm⟩
    -- a literal that is longer than the name would hold the space behind it
    rcases Nat.lt_or_ge n.toList.length w.1.length with hlong | hshort
    · have hin : n.toList ++ [' '] <+: w.1 := by
        refine List.prefix_of_prefix_length_le ⟨rest, by simp⟩ hstarts ?_
        rw [List.length_append, List.length_singleton]
        exact hlong
      exact hspace (hin.subset (by simp))
    · exact hn.not_literal w hw
        (List.prefix_of_prefix_length_le hstarts (List.prefix_append _ _) hshort)
  rw [literalWord?, List.findSome?_eq_none_iff]
  intro w hw
  simp only [hnone w hw, Option.map_none]

theorem literal?_append {n : String} (hn : IsName n) (rest : List Char) :
    literal? (n.toList ++ ' ' :: rest) = none := by
  have hword := literalWord?_append hn rest
  obtain ⟨c, s, hs, hc⟩ := hn.exists_cons
  have hnumber : number? (c :: (s ++ ' ' :: rest)) = none := by
    rw [number?, unsigned?, List.takeWhile_cons_of_neg]
    · rfl
    · simp [isDigit_eq_false_of_isNameStart hc]
    · intro _ h
      exact ne_of_isNameStart hc (d := '+') (by decide) (List.cons.inj h).1
    · intro _ h
      exact ne_of_isNameStart hc (d := '-') (by decide) (List.cons.inj h).1
  rw [hs, List.cons_append] at hword ⊢
  rw [literal?, hword, Option.none_or, hnumber]
  · intro _ h
    exact ne_of_isNameStart hc (d := '\'') (by decide) (List.cons.inj h).1
  · intro _ h
    exact ne_of_isNameStart hc (d := '"') (by decide) (List.cons.inj h).1

theorem expr?_append {n : String} (hn : IsName n) (rest : List Char) :
    expr? (n.toList ++ ' ' :: rest) = some (.reference n [], ' ' :: rest) := by
  have hpath (fuel : Nat) : pathFuel fuel (' ' :: rest) = ([], ' ' :: rest) := by
    cases fuel <;> rfl
  rw [expr?, exprFuel?, literal?_append hn, name?_append hn]
  simp only [hpath]

/-! ## Marks -/

/-- The template with a text before it; an empty text is no node. -/
def Template.withText (t : Template) : List Char → Template
  | [] => t
  | c :: s => .text (c :: s) :: t

/-- What a plain template is written with. -/
inductive Mark where
  /-- A character that stands for itself. -/
  | char (c : Char)
  /-- A name that stands for its value. -/
  | name (n : String)

namespace Mark

/-- How the mark is written. -/
def source : Mark → List Char
  | char c => [c]
  | name n => '{' :: '{' :: ' ' :: (n.toList ++ [' ', '}', '}'])

/-- What the mark prints where names have the given values. -/
def chars (look : String → Option Value) : Mark → List Char
  | char c => [c]
  | name n => ((look n).map Value.chars).getD []

/-- The mark is a character that satisfies `p`. -/
def isChar (p : Char → Bool) : Mark → Bool
  | char c => p c
  | name _ => false

/-- The mark is read as what it stands for. -/
inductive IsReadable : Mark → Prop where
  | char {c : Char} (h : c ≠ '{') : IsReadable (.char c)
  | name {n : String} (h : IsName n) : IsReadable (.name n)

/-- The text in front of the first name, and the nodes from there on. -/
def run : List Mark → List Char × Template
  | [] => ([], [])
  | char c :: ms => (c :: (run ms).1, (run ms).2)
  | name n :: ms => ([], .output ⟨.reference n [], []⟩ :: (run ms).2.withText (run ms).1)

/-- The template that the marks are read as. -/
def template (ms : List Mark) : Template := (run ms).2.withText (run ms).1

end Mark

/-! ## Elements -/

/-- The elements of the text become the nodes of the template. -/
def ReadAs (s : List Char) (t : Template) : Prop :=
  ∀ fuel, s.length ≤ fuel → (elementsFuel fuel s).mapM (·.kind.plainNode) = .ok t

namespace ReadAs

variable {s rest : List Char} {t : Template} {c : Char}

theorem ofChars (h : ReadAs s t) : Template.ofChars .plain s = .ok t := by
  rw [Template.ofChars_plain, elements]
  exact h s.length (Nat.le_refl _)

theorem nil : ReadAs [] [] := by
  intro fuel _
  cases fuel <;> rfl

/-- What an element leaves is read with less fuel. -/
theorem cons {k : ElementKind} {n : Node} (hk : element c s = (k, rest)) (hn : k.plainNode = .ok n)
    (hlength : rest.length ≤ s.length) (h : ReadAs rest t) : ReadAs (c :: s) (n :: t) := by
  intro fuel hfuel
  rw [List.length_cons] at hfuel
  obtain ⟨fuel, rfl⟩ := Nat.exists_eq_add_one_of_ne_zero (Nat.ne_of_gt (Nat.zero_lt_of_lt hfuel))
  have hrest := h fuel (Nat.le_trans hlength (Nat.le_of_succ_le_succ hfuel))
  rw [elementsFuel, hk, List.mapM_cons, hn, hrest]
  rfl

end ReadAs

/-- A delimiter that opens an element and does not remove the blanks before it. -/
theorem dropOpening?_source_name (n : String) (rest : List Char) :
    dropOpening? '{' ((Mark.name n).source ++ rest) =
      some (' ' :: (n.toList ++ ' ' :: '}' :: '}' :: rest)) := by
  have htail : n.toList ++ [' ', '}', '}'] ++ rest = n.toList ++ ' ' :: '}' :: '}' :: rest := by
    rw [List.append_assoc]
    rfl
  rw [Mark.source, List.cons_append, List.cons_append, List.cons_append, htail]
  rfl

theorem isOpening_source_name (n : String) (rest : List Char) :
    isOpening ((Mark.name n).source ++ rest) = true := by
  rw [isOpening, dropOpening?_source_name]
  rfl

/-- A name between double braces is an output of its value. -/
theorem output?_source_name {n : String} (hn : IsName n) (rest : List Char) :
    output? ((Mark.name n).source ++ rest) = some (.output ⟨.reference n [], []⟩, rest) := by
  have hskip : skipBlanks (' ' :: (n.toList ++ ' ' :: '}' :: '}' :: rest)) =
      n.toList ++ ' ' :: '}' :: '}' :: rest := by
    obtain ⟨c, s, hs, hc⟩ := hn.exists_cons
    have hblank : isMarkupBlank c = false := by
      simp [isMarkupBlank, ne_of_isNameStart hc (d := ' ') (by decide),
        ne_of_isNameStart hc (d := '\n') (by decide), ne_of_isNameStart hc (d := '\r') (by decide)]
    rw [hs, skipBlanks, List.dropWhile_cons_of_pos (by decide), List.cons_append,
      List.dropWhile_cons_of_neg (by simp [hblank])]
  have hchain : chain? (n.toList ++ ' ' :: '}' :: '}' :: rest) =
      some (⟨.reference n [], []⟩, ' ' :: '}' :: '}' :: rest) := by
    rw [chain?, expr?_append hn]
    rfl
  rw [output?, dropOpening?_source_name]
  simp only [Option.bind_eq_bind, Option.bind_some, hskip, hchain]
  rfl

section

variable {ms : List Mark} {c : Char}

/-- Blanks in front of a written text are marks. -/
theorem skipBlanks_flatMap_source (ms : List Mark) :
    skipBlanks (ms.flatMap Mark.source) =
      (ms.dropWhile (Mark.isChar isMarkupBlank)).flatMap Mark.source := by
  refine Text.dropWhile_flatMap (fun m _ hm ↦ ?_) (fun m _ hm ↦ ?_)
  · cases m with
    | char c =>
      intro d hd
      rw [List.mem_singleton.mp hd]
      exact hm
    | name n => exact absurd hm (by simp [Mark.isChar])
  · cases m with
    | char c => exact ⟨c, rfl, hm⟩
    | name n => exact ⟨'{', rfl, rfl⟩

/-- No mark is written with a delimiter that has a hyphen. -/
theorem dropStart?_hyphen (hms : ∀ m ∈ ms, m.IsReadable) (mark : Char) :
    Text.dropStart? ['{', mark, '-'] (ms.flatMap Mark.source) = none := by
  cases ms with
  | nil => rfl
  | cons m ms =>
    cases hms m List.mem_cons_self with
    | char h =>
      rw [List.flatMap_cons, Mark.source, List.singleton_append, Text.dropStart?,
        if_neg (Ne.symm h)]
    | name h =>
      rw [List.flatMap_cons, Mark.source]
      simp [Text.dropStart?]

/-- A character opens nothing, even if it is a blank that a delimiter behind it could remove. -/
theorem isOpening_char (hms : ∀ m ∈ ms, m.IsReadable) (hc : c ≠ '{') :
    isOpening (c :: ms.flatMap Mark.source) = false := by
  have hreadable : ∀ m ∈ (Mark.char c :: ms).dropWhile (Mark.isChar isMarkupBlank),
      m.IsReadable := by
    intro m hm
    rcases List.mem_cons.mp (Text.mem_of_mem_dropWhile hm) with rfl | hm
    · exact .char hc
    · exact hms m hm
  have hnone (mark : Char) : dropOpening? mark (c :: ms.flatMap Mark.source) = none := by
    have hskip := skipBlanks_flatMap_source (.char c :: ms)
    rw [List.flatMap_cons, Mark.source, List.singleton_append] at hskip
    rw [dropOpening?, hskip, dropStart?_hyphen hreadable, Option.none_or, Text.dropStart?,
      if_neg hc.symm]
  rw [isOpening, hnone, hnone]
  rfl

end

theorem element_of_isOpening_eq_false {c : Char} {s : List Char} (h : isOpening (c :: s) = false) :
    element c s = (.text (c :: (plainText s).1), (plainText s).2) := by
  have hnone : dropOpening? '{' (c :: s) = none ∧ dropOpening? '%' (c :: s) = none := by
    simpa [isOpening] using h
  have houtput : output? (c :: s) = none := by
    rw [output?, hnone.1]
    rfl
  have htag : tag? (c :: s) = none := by
    rw [tag?, hnone.2]
    rfl
  rw [element, houtput, htag, Option.none_or]
  simp only [h, plainText]
  rfl

theorem plainText_append (s : List Char) : (plainText s).1 ++ (plainText s).2 = s := by
  induction s with
  | nil => rfl
  | cons c s ih =>
    rw [plainText]
    split
    · rfl
    · rw [List.cons_append, ih]

theorem ReadAs.name {n : String} {rest : List Char} {t : Template} (hn : IsName n)
    (h : ReadAs rest t) :
    ReadAs ((Mark.name n).source ++ rest) (.output ⟨.reference n [], []⟩ :: t) := by
  have houtput := output?_source_name hn rest
  rw [Mark.source, List.cons_append] at houtput ⊢
  refine .cons (k := .output ⟨.reference n [], []⟩) ?_ rfl ?_ h
  · rw [element, houtput, Option.some_or]
  · simp only [List.length_cons, List.length_append]
    omega

/-- Where plain text ends, the elements go on. -/
theorem ReadAs.withText {s : List Char} {t : Template} (h : ReadAs (plainText s).2 t) :
    ReadAs s (t.withText (plainText s).1) := by
  cases s with
  | nil => exact h
  | cons c s =>
    cases hopen : isOpening (c :: s) with
    | true =>
      rw [plainText, if_pos hopen] at h ⊢
      exact h
    | false =>
      rw [plainText, if_neg (by simp [hopen])] at h ⊢
      refine .cons (element_of_isOpening_eq_false hopen) rfl ?_ h
      have hlength := congrArg List.length (plainText_append s)
      rw [List.length_append] at hlength
      omega

namespace Mark

variable {ms : List Mark} {look : String → Option Value}

/-! ## Reading marks -/

/-- Plain text ends where the run of characters in front does, and the nodes go on from there. -/
theorem readAs_run (hms : ∀ m ∈ ms, m.IsReadable) :
    (plainText (ms.flatMap source)).1 = (run ms).1 ∧
      ReadAs (plainText (ms.flatMap source)).2 (run ms).2 := by
  induction ms with
  | nil => exact ⟨rfl, .nil⟩
  | cons m ms ih =>
    have hrest : ∀ m ∈ ms, m.IsReadable := fun m hm ↦ hms m (List.mem_cons_of_mem _ hm)
    obtain ⟨htext, hread⟩ := ih hrest
    cases hms m List.mem_cons_self with
    | @char c hc =>
      have hplain : plainText (c :: ms.flatMap source) =
          (c :: (plainText (ms.flatMap source)).1, (plainText (ms.flatMap source)).2) := by
        rw [plainText, isOpening_char hrest hc]
        rfl
      rw [List.flatMap_cons, source, List.singleton_append, hplain, run, htext]
      exact ⟨rfl, hread⟩
    | @name n hn =>
      -- there is no text in front of a name, and behind it a new run starts
      have hopen : plainText ((name n).source ++ ms.flatMap source) =
          ([], (name n).source ++ ms.flatMap source) := by
        rw [source, List.cons_append, plainText, if_pos]
        exact isOpening_source_name n _
      have htemplate : ReadAs (ms.flatMap source) (template ms) := by
        rw [template, ← htext]
        exact hread.withText
      rw [List.flatMap_cons, hopen]
      exact ⟨rfl, htemplate.name hn⟩

/-- **Marks are read as their template.** -/
theorem readAs_template (hms : ∀ m ∈ ms, m.IsReadable) :
    ReadAs (ms.flatMap source) (template ms) := by
  obtain ⟨htext, hread⟩ := readAs_run hms
  rw [template, ← htext]
  exact hread.withText

/-! ## Printing marks -/

theorem value_name (n : String) :
    (Expr.reference n []).value look =
      match look n with
      | none => .error (.unknownVariable n)
      | some v => .ok v := by
  rw [Expr.value, pathValues]
  cases look n with
  | none => rfl
  | some v => rfl

theorem printed_withText (s : List Char) (t : Template) :
    (t.withText s).printed look = (t.printed look).map (s ++ ·) := by
  cases s with
  | nil =>
    rw [Template.withText]
    cases t.printed look <;> rfl
  | cons c s =>
    rw [Template.withText, Template.printed]
    cases t.printed look <;> rfl

theorem printed_template_char (c : Char) (ms : List Mark) :
    (template (.char c :: ms)).printed look = ((template ms).printed look).map (c :: ·) := by
  rw [template, template, run, printed_withText, printed_withText]
  cases (run ms).2.printed look <;> rfl

theorem printed_template_name (n : String) (ms : List Mark) :
    (template (.name n :: ms)).printed look =
      match look n with
      | none => .error (.unknownVariable n)
      | some v => ((template ms).printed look).map (v.chars ++ ·) := by
  have hstep : (template (.name n :: ms)).printed look = (do
      let v ← (Expr.reference n []).value look
      return v.chars ++ (← (template ms).printed look)) := rfl
  rw [hstep, value_name]
  cases look n with
  | none => rfl
  | some v => cases (template ms).printed look <;> rfl

/-- **What marks print**: every character, and the value of every name. There is nothing to print
exactly if some name has no value. -/
theorem printed_template_eq_ok_iff {out : List Char} :
    (template ms).printed look = .ok out ↔
      (∀ n, .name n ∈ ms → (look n).isSome = true) ∧ out = ms.flatMap (chars look) := by
  induction ms generalizing out with
  | nil =>
    have hempty : (template []).printed look = .ok [] := rfl
    rw [hempty, Except.ok.injEq, List.flatMap_nil]
    exact ⟨fun h ↦ ⟨by simp, h.symm⟩, fun h ↦ h.2.symm⟩
  | cons m ms ih =>
    have hfront (front : List Char) :
        ((template ms).printed look).map (front ++ ·) = .ok out ↔
          (∀ n, .name n ∈ ms → (look n).isSome = true) ∧
            out = front ++ ms.flatMap (chars look) := by
      rw [Steps.map_eq_ok_iff]
      constructor
      · rintro ⟨rest, hrest, rfl⟩
        obtain ⟨hall, rfl⟩ := ih.mp hrest
        exact ⟨hall, rfl⟩
      · rintro ⟨hall, rfl⟩
        exact ⟨_, ih.mpr ⟨hall, rfl⟩, rfl⟩
    cases m with
    | char c =>
      have hknown : (∀ n, .name n ∈ .char c :: ms → (look n).isSome = true) ↔
          ∀ n, .name n ∈ ms → (look n).isSome = true := by simp
      rw [printed_template_char, hknown, List.flatMap_cons, chars]
      exact hfront [c]
    | name n =>
      rw [printed_template_name, List.flatMap_cons, chars]
      cases hv : look n with
      | none =>
        refine ⟨fun h ↦ absurd h (by simp), fun h ↦ ?_⟩
        exact absurd (h.1 n List.mem_cons_self) (by simp [hv])
      | some v =>
        have hknown : (∀ k, .name k ∈ .name n :: ms → (look k).isSome = true) ↔
            ∀ k, .name k ∈ ms → (look k).isSome = true := by simp [hv]
        rw [hknown]
        exact hfront v.chars

/-! ## Trimming marks -/

/-- Characters that stand for themselves are blank or not, and a name must be written without a
blank at either end. -/
theorem writesBlanks {f : Mark → List Char} {m : Mark} (hchar : ∀ c, f (.char c) = [c])
    (hhead : ∀ n, m = .name n → ∃ c ∈ (f m).head?, Text.isBlank c = false)
    (hlast : ∀ n, m = .name n → ∃ c ∈ (f m).getLast?, Text.isBlank c = false) :
    Text.WritesBlanks (isChar Text.isBlank) f m := by
  cases m with
  | char c =>
    refine ⟨fun h d hd ↦ ?_, fun h ↦ ⟨c, by simp [hchar], h⟩, fun h ↦ ⟨c, by simp [hchar], h⟩⟩
    rw [hchar] at hd
    rw [List.mem_singleton.mp hd]
    exact h
  | name n => exact ⟨fun h ↦ absurd h (by simp [isChar]), fun _ ↦ hhead n rfl, fun _ ↦ hlast n rfl⟩

/-- Some marks of a written text, without the blanks around them. -/
def trimmed (ms : List Mark) : List Mark := Text.trimItems (isChar Text.isBlank) ms

theorem name_mem_trimmed_iff {n : String} : .name n ∈ trimmed ms ↔ .name n ∈ ms :=
  ⟨Text.mem_of_mem_trimItems, fun h ↦ Text.mem_trimItems_of_mem h rfl⟩

theorem trim_flatMap_source (ms : List Mark) :
    Text.trim (ms.flatMap source) = (trimmed ms).flatMap source := by
  refine Text.trim_flatMap fun m _ ↦ writesBlanks (fun _ ↦ rfl) ?_ ?_
  · rintro n rfl
    exact ⟨'{', rfl, rfl⟩
  · rintro n rfl
    exact ⟨'}', by simp [source, List.getLast?_cons], rfl⟩

/-- Every name that is there has a word as its value. -/
def HasWords (look : String → Option Value) (ms : List Mark) : Prop :=
  ∀ n, .name n ∈ ms → ∃ v, look n = some v ∧ Text.IsWord v.chars

theorem HasWords.isWord_chars (h : HasWords look ms) {n : String} (hn : .name n ∈ ms) :
    Text.IsWord (chars look (.name n)) := by
  obtain ⟨v, hv, hword⟩ := h n hn
  rw [chars, hv]
  exact hword

/-- What is printed is trimmed as what is written. -/
theorem trim_flatMap_chars (h : HasWords look ms) :
    Text.trim (ms.flatMap (chars look)) = (trimmed ms).flatMap (chars look) := by
  refine Text.trim_flatMap fun m hm ↦ writesBlanks (fun _ ↦ rfl) ?_ ?_
  · rintro n rfl
    have hword := h.isWord_chars hm
    exact ⟨_, List.head?_eq_some_head hword.1, hword.2 _ (List.head_mem hword.1)⟩
  · rintro n rfl
    have hword := h.isWord_chars hm
    exact ⟨_, List.getLast?_eq_some_getLast hword.1, hword.2 _ (List.getLast_mem hword.1)⟩

/-- A character that no name is written with stands for itself. -/
theorem mem_flatMap_iff {f : Mark → List Char} {d : Char} (hchar : ∀ c, f (.char c) = [c])
    (hname : ∀ n, .name n ∈ ms → d ∉ f (.name n)) : d ∈ ms.flatMap f ↔ .char d ∈ ms := by
  rw [List.mem_flatMap]
  constructor
  · rintro ⟨m, hm, hd⟩
    cases m with
    | char c =>
      rw [hchar, List.mem_singleton] at hd
      rwa [hd]
    | name n => exact absurd hd (hname n hm)
  · intro h
    exact ⟨.char d, h, by rw [hchar]; exact List.mem_singleton_self d⟩

theorem newline_not_mem_source_name {n : String} (h : (name n).IsReadable) :
    '\n' ∉ (name n).source := by
  cases h with
  | name hn =>
    have hname : '\n' ∉ n.toList := fun h ↦ absurd (List.all_eq_true.mp hn.all _ h) (by decide)
    simp [source, hname]

/-- A line break is printed where one is written. -/
theorem newline_mem_trim_iff (hms : ∀ m ∈ ms, m.IsReadable) (h : HasWords look ms) :
    '\n' ∈ Text.trim (ms.flatMap (chars look)) ↔ '\n' ∈ Text.trim (ms.flatMap source) := by
  rw [trim_flatMap_chars h, trim_flatMap_source, mem_flatMap_iff (fun _ ↦ rfl),
    mem_flatMap_iff (fun _ ↦ rfl)]
  · intro n hn
    exact newline_not_mem_source_name (hms _ (name_mem_trimmed_iff.mp hn))
  · intro n hn
    exact (h.isWord_chars (name_mem_trimmed_iff.mp hn)).not_mem_newline

end Mark

end VersionedSite.Liquid
