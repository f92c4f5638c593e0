import VersionedSite.Proofs.Liquid.Footprint

/-!
# Templates that do not tell the time

What a template prints may depend on the moment at which it is rendered, but there is one way only:
the filter that writes dates, to which a text may say that it means the present. A template without
that filter, which embeds only templates without it, prints the same at any moment.
-/

namespace VersionedSite.Liquid

/-- Everything but the filter that writes dates. -/
def Footprint.timeless : Footprint where
  value _ := true
  filter g := g != .date
  template _ := true

/-- No filter in the template writes dates. -/
def Template.isTimeless (t : Template) : Bool := allWithin .timeless t

/-- The scopes are the same but for the moment. -/
def SameButMoment (sc sc' : Scope) : Prop := ∃ now, sc' = { sc with now }

theorem Filter.apply_of_ne_date {g : Filter} (h : g ≠ .date) (now now' : Calendar.Moment)
    (v : Value) (arguments : List Value) : g.apply now v arguments = g.apply now' v arguments := by
  rw [apply, apply]
  cases g
  case date => exact absurd rfl h
  all_goals rfl

theorem Footprint.timeless_hides : Footprint.timeless.Hides SameButMoment where
  value := by
    rintro sc _ e st ⟨now, rfl⟩ -
    rfl
  filter := by
    rintro sc _ g v arguments ⟨now, rfl⟩ hg
    exact Filter.apply_of_ne_date (bne_iff_ne.mp hg) sc.now now v arguments
  outer := by
    rintro sc _ st ⟨now, rfl⟩
    rfl
  push := by
    rintro sc _ names ⟨now, rfl⟩
    exact ⟨now, rfl⟩
  alone := by
    rintro sc _ names ⟨now, rfl⟩
    exact ⟨now, rfl⟩

namespace Library

variable {l : Library}

/-- No template of the library writes dates. -/
def IsTimeless (l : Library) : Prop := ∀ ⦃name t⦄, l.find name = .ok t → t.isTimeless = true

/-- A library holds the same templates at any moment. -/
theorem renderAt_atMoment (l : Library) (now : Calendar.Moment) (depth : Nat) :
    (l.atMoment now).renderAt depth = l.renderAt depth := by
  induction depth with
  | zero => rfl
  | succ depth ih =>
    funext t sc st
    rw [renderAt, renderAt, ih]
    rfl

/-- **Without dates the moment does not matter.** -/
theorem render_atMoment (hl : l.IsTimeless) {t : Template} (ht : t.isTimeless = true)
    (data : List (String × Value)) (now now' : Calendar.Moment) :
    (l.atMoment now).render t data = (l.atMoment now').render t data := by
  have hwithin : l.Within .timeless := by
    rintro e look name t - - (hfind | hfind)
    · exact hl hfind
    · exact hl hfind
  have hsame := same_renderAt Footprint.timeless_hides hwithin maxDepth ht
  have hnow : SameButMoment { data, now } { data, now := now' } := ⟨now', rfl⟩
  rw [render, render, renderAt_atMoment, renderAt_atMoment]
  exact congrArg (· >>= _) (hsame _ _ {} hnow)

end Library

end VersionedSite.Liquid
