import Mathlib.Data.Nat.Notation
import Mathlib.Data.List.Range

/-!
# Loops that are left early

A loop over numbers, each turn of which may leave it.  A turn that raises a flag
leaves the loop, and some turns leave it without doing so.
-/

namespace VehicleRecorder.EarlyExit

variable {σ : Type*}

/-- The turns in order, up to the first that leaves the loop. -/
def loop (turn : ℕ → σ → σ × Bool) : List ℕ → σ → σ
  | [], s => s
  | i :: is, s =>
      if (turn i s).2 then (turn i s).1 else loop turn is (turn i s).1

variable {turn : ℕ → σ → σ × Bool} {raised : σ → Prop} {raises stops : ℕ → Prop}

/-- The flag is up behind the loop if it was before, or if some turn raises it and
none in front of that turn stops the loop. -/
theorem raised_loop_range' {a n : ℕ}
    (hraised : ∀ i, a ≤ i → i < a + n → ∀ s,
      (raised (turn i s).1 ↔ raised s ∨ raises i))
    (hleft : ∀ i, a ≤ i → i < a + n → ∀ s,
      ((turn i s).2 = true ↔ raises i ∨ stops i)) (s : σ) :
    raised (loop turn (List.range' a n) s) ↔
      raised s ∨ ∃ i, a ≤ i ∧ i < a + n ∧ raises i ∧
        ∀ j, a ≤ j → j < i → ¬ stops j := by
  induction n generalizing a s with
  | zero =>
      refine ⟨.inl, ?_⟩
      rintro (h | ⟨i, hlo, hhi, -⟩)
      · exact h
      · omega
  | succ n ih =>
      have hraised' := hraised a le_rfl (by omega) s
      have hleft' := hleft a le_rfl (by omega) s
      rw [List.range'_succ, loop]
      by_cases hraise : raises a
      · rw [if_pos (hleft'.mpr (.inl hraise)), hraised']
        refine or_congr_right (iff_of_true hraise ?_)
        exact ⟨a, le_rfl, by omega, hraise, fun j hlo hhi => by omega⟩
      by_cases hstop : stops a
      · rw [if_pos (hleft'.mpr (.inr hstop)), hraised']
        refine or_congr_right (iff_of_false hraise ?_)
        rintro ⟨i, hlo, -, hi, hpass⟩
        rcases Nat.eq_or_lt_of_le hlo with rfl | hlt
        · exact hraise hi
        · exact hpass a le_rfl hlt hstop
      · have hstay : ¬ (turn a s).2 = true := by
          rw [hleft', not_or]
          exact ⟨hraise, hstop⟩
        have hrest := @ih (a + 1) (fun i hlo hhi => hraised i (by omega) (by omega))
          (fun i hlo hhi => hleft i (by omega) (by omega)) (turn a s).1
        rw [if_neg hstay, hrest, hraised', or_iff_left hraise]
        refine or_congr_right ⟨?_, ?_⟩
        · rintro ⟨i, hlo, hhi, hi, hpass⟩
          refine ⟨i, by omega, by omega, hi, fun j hj hji => ?_⟩
          rcases Nat.eq_or_lt_of_le hj with rfl | hlt
          · exact hstop
          · exact hpass j hlt hji
        · rintro ⟨i, hlo, hhi, hi, hpass⟩
          rcases Nat.eq_or_lt_of_le hlo with rfl | hlt
          · exact absurd hi hraise
          · exact ⟨i, hlt, by omega, hi,
              fun j hj hji => hpass j (Nat.le_of_succ_le hj) hji⟩

/-- The loop over the first numbers. -/
theorem raised_loop_range {n : ℕ}
    (hraised : ∀ i < n, ∀ s, (raised (turn i s).1 ↔ raised s ∨ raises i))
    (hleft : ∀ i < n, ∀ s, ((turn i s).2 = true ↔ raises i ∨ stops i))
    (s : σ) :
    raised (loop turn (List.range n) s) ↔
      raised s ∨ ∃ i < n, raises i ∧ ∀ j < i, ¬ stops j := by
  rw [List.range_eq_range', raised_loop_range'
    (fun i _ hi => hraised i (Nat.zero_add n ▸ hi))
    (fun i _ hi => hleft i (Nat.zero_add n ▸ hi))]
  simp

end VehicleRecorder.EarlyExit
