import VehicleRecorder.Lib.Runs

/-!
# Counting along a run

Every step of a run counts a number that depends on the state it is taken in.
What the steps count is compared through a number kept in the state: where no
step gains more than it counts elsewhere, the run does not either.
-/

namespace VehicleRecorder.Runs

variable {σ ε : Type*} {step : σ → ε → σ} {meets : σ → ε → Prop}

/-- The sum of what the steps of a run count. -/
def tally (step : σ → ε → σ) (count : σ → ε → ℕ) : σ → List ε → ℕ
  | _, [] => 0
  | s, e :: es => count s e + tally step count (step s e) es

@[simp] theorem tally_nil (count : σ → ε → ℕ) (s : σ) :
    tally step count s [] = 0 := rfl

@[simp] theorem tally_cons (count : σ → ε → ℕ) (s : σ) (e : ε) (es : List ε) :
    tally step count s (e :: es) = count s e + tally step count (step s e) es :=
  rfl

/-- What the steps spend is covered by what they earn and what the state held at
the start; the rest is what it holds at the end. -/
theorem Meeting.tally_le {spent earned : σ → ε → ℕ} (held : σ → ℕ)
    (hstep : ∀ s e, meets s e → spent s e + held (step s e) ≤
      held s + earned s e) {s : σ} {es : List ε}
    (h : Meeting step meets s es) :
    tally step spent s es + held (es.foldl step s) ≤
      held s + tally step earned s es := by
  induction es generalizing s with
  | nil => exact Nat.le_of_eq (Nat.zero_add _)
  | cons e es ih =>
      have hfirst := hstep s e h.1
      have hrest := ih h.2
      rw [tally_cons, tally_cons, List.foldl_cons]
      omega

/-! ## Conditions that come and go -/

/-- A step counts one if it makes a condition hold that did not. -/
def rises (step : σ → ε → σ) (p : σ → Bool) (s : σ) (e : ε) : ℕ :=
  (!p s && p (step s e)).toNat

/-- A condition that holds behind a run but not in front of it began to hold at
some step for the last time. -/
theorem exists_last_rise {p : σ → Prop} {s : σ} {es : List ε} (hs : ¬ p s)
    (h : p (es.foldl step s)) :
    ∃ es₁ e es₂, es = es₁ ++ e :: es₂ ∧ ¬ p (es₁.foldl step s) ∧
      ∀ es₃, es₃ <+: es₂ → p ((es₁ ++ e :: es₃).foldl step s) := by
  induction es using List.reverseRecOn with
  | nil => exact absurd h hs
  | append_singleton es e ih =>
      by_cases hp : p (es.foldl step s)
      · obtain ⟨es₁, e₁, es₂, rfl, hbefore, hafter⟩ := ih hp
        refine ⟨es₁, e₁, es₂ ++ [e], by simp, hbefore, fun es₃ hpre => ?_⟩
        rcases List.prefix_concat_iff.mp hpre with rfl | hpre
        · simpa using h
        · exact hafter es₃ hpre
      · refine ⟨es, e, [], rfl, hp, fun es₃ hpre => ?_⟩
        rw [List.prefix_nil.mp hpre]
        exact h

/-- The conditions of a list that a step makes hold. -/
def risesOf {κ : Type*} (step : σ → ε → σ) (p : κ → σ → Bool) (ks : List κ)
    (s : σ) (e : ε) : ℕ :=
  ks.countP fun k => !p k s && p k (step s e)

/-- A step adds at most what it makes hold to the conditions of a list that
hold. -/
theorem countP_step_le {κ : Type*} (step : σ → ε → σ) (p : κ → σ → Bool)
    (ks : List κ) (s : σ) (e : ε) :
    ks.countP (fun k => p k (step s e)) ≤
      ks.countP (fun k => p k s) + risesOf step p ks s e := by
  induction ks with
  | nil => exact Nat.zero_le _
  | cons k ks ih =>
      simp only [risesOf, List.countP_cons] at ih ⊢
      cases p k s <;> cases p k (step s e) <;> simp <;> omega

end VehicleRecorder.Runs
