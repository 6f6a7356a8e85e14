import Mathlib.Data.List.Infix

/-!
# Runs whose steps meet a condition

The steps of a run are applied from left to right.  A condition on the state and
the step is met by the run if it is met by every step in the state it is taken
in; what such a step keeps is kept by the run.
-/

namespace VehicleRecorder.Runs

variable {σ ε : Type*} {step : σ → ε → σ} {meets : σ → ε → Prop}

/-- Every step of a run meets the condition. -/
def Meeting (step : σ → ε → σ) (meets : σ → ε → Prop) : σ → List ε → Prop
  | _, [] => True
  | s, e :: es => meets s e ∧ Meeting step meets (step s e) es

instance decidableMeeting [∀ s e, Decidable (meets s e)] :
    (s : σ) → (es : List ε) → Decidable (Meeting step meets s es)
  | _, [] => isTrue trivial
  | s, e :: es =>
      have : Decidable (Meeting step meets (step s e) es) :=
        decidableMeeting (step s e) es
      inferInstanceAs (Decidable (_ ∧ _))

/-- What a step that meets the condition keeps is kept by the run. -/
theorem Meeting.invariant {inv : σ → Prop}
    (hstep : ∀ s e, inv s → meets s e → inv (step s e)) {s : σ} (hs : inv s)
    {es : List ε} (h : Meeting step meets s es) : inv (es.foldl step s) := by
  induction es generalizing s with
  | nil => exact hs
  | cons e es ih => exact ih (hstep s e hs h.1) h.2

theorem Meeting.imp {meets' : σ → ε → Prop}
    (himp : ∀ s e, meets s e → meets' s e) {s : σ} {es : List ε}
    (h : Meeting step meets s es) : Meeting step meets' s es := by
  induction es generalizing s with
  | nil => trivial
  | cons e es ih => exact ⟨himp s e h.1, ih h.2⟩

theorem Meeting.of_prefix {s : σ} {es₁ es : List ε}
    (h : Meeting step meets s es) (hpre : es₁ <+: es) :
    Meeting step meets s es₁ := by
  induction es₁ generalizing s es with
  | nil => trivial
  | cons e es₁ ih =>
      obtain ⟨es₂, rfl⟩ := hpre
      exact ⟨h.1, ih h.2 (List.prefix_append es₁ es₂)⟩

/-- The condition holds of every step wherever the run has got to. -/
def Throughout (step : σ → ε → σ) (meets : σ → ε → Prop) (s : σ)
    (es : List ε) : Prop :=
  ∀ es₁ e, es₁ ++ [e] <+: es → meets (es₁.foldl step s) e

theorem throughout_cons {s : σ} {e : ε} {es : List ε} :
    Throughout step meets s (e :: es) ↔
      meets s e ∧ Throughout step meets (step s e) es := by
  constructor
  · intro h
    refine ⟨h [] e (List.cons_prefix_cons.mpr ⟨rfl, List.nil_prefix⟩), ?_⟩
    intro es₁ e' hpre
    exact h (e :: es₁) e' (List.cons_prefix_cons.mpr ⟨rfl, hpre⟩)
  · rintro ⟨hfirst, hrest⟩ es₁ e' hpre
    cases es₁ with
    | nil =>
        obtain ⟨rfl, -⟩ := List.cons_prefix_cons.mp hpre
        exact hfirst
    | cons e₁ es₁ =>
        obtain ⟨rfl, htail⟩ := List.cons_prefix_cons.mp hpre
        exact hrest es₁ e' htail

theorem throughout_nil (s : σ) : Throughout step meets s [] := by
  intro es₁ e hpre
  exact absurd (List.prefix_nil.mp hpre) (by simp)

/-- A property of the steps holds throughout a run exactly when every step meets
a condition, if the two are equivalent under an invariant which the steps that
meet the condition keep. -/
theorem throughout_iff_meeting_of_invariant {holds : σ → ε → Prop}
    {inv : σ → Prop} (hstep : ∀ s e, inv s → (holds s e ↔ meets s e))
    (hkeep : ∀ s e, inv s → meets s e → inv (step s e)) {s : σ} (hs : inv s)
    (es : List ε) : Throughout step holds s es ↔ Meeting step meets s es := by
  induction es generalizing s with
  | nil => exact iff_of_true (throughout_nil s) trivial
  | cons e es ih =>
      rw [throughout_cons, hstep s e hs]
      exact and_congr_right fun hmeets => ih (hkeep s e hs hmeets)

/-- The same for a condition that is equivalent to the property in every
state. -/
theorem throughout_iff_meeting {holds : σ → ε → Prop}
    (hstep : ∀ s e, holds s e ↔ meets s e) (s : σ) (es : List ε) :
    Throughout step holds s es ↔ Meeting step meets s es :=
  throughout_iff_meeting_of_invariant (fun s e (_ : True) => hstep s e)
    (fun _ _ _ _ => trivial) trivial es

end VehicleRecorder.Runs
