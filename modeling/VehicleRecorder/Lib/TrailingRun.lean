import Mathlib.Data.List.DropRight
import Mathlib.Data.Nat.Notation

/-!
# Runs at the end of a list

`List.rtakeWhile p` is the run of elements with `p` that a list ends in.  A
counter that is reset by an element without `p` holds the length of this run.
-/

namespace VehicleRecorder.TrailingRun

variable {α : Type*} {p : α → Bool}

theorem length_concat (xs : List α) (x : α) :
    ((xs ++ [x]).rtakeWhile p).length =
      if p x then (xs.rtakeWhile p).length + 1 else 0 := by
  rw [List.rtakeWhile_concat]
  split
  · exact List.length_append
  · rfl

theorem rtakeWhile_append_of_forall (xs : List α) {ys : List α}
    (h : ∀ y ∈ ys, p y) :
    (xs ++ ys).rtakeWhile p = xs.rtakeWhile p ++ ys := by
  induction ys using List.reverseRecOn with
  | nil => rw [List.append_nil, List.append_nil]
  | append_singleton ys y ih =>
      have hinit : ∀ z ∈ ys, p z :=
        fun z hz => h z (List.mem_append_left _ hz)
      have hlast : p y := h y (List.mem_append_right _ List.mem_cons_self)
      rw [← List.append_assoc, List.rtakeWhile_concat_pos _ _ _ hlast,
        ih hinit, List.append_assoc]

/-- A list has only short runs exactly when each of its beginnings ends in a
short one. -/
theorem forall_infix_length_lt_iff (xs : List α) (n : ℕ) :
    (∀ w, w <:+: xs → (∀ x ∈ w, p x) → w.length < n) ↔
      ∀ ys, ys <+: xs → (ys.rtakeWhile p).length < n := by
  constructor
  · intro h ys hys
    have hinfix : ys.rtakeWhile p <:+: xs :=
      (List.rtakeWhile_suffix p ys).isInfix.trans hys.isInfix
    exact h _ hinfix fun x hx => List.mem_rtakeWhile_imp hx
  · rintro h w ⟨before, behind, rfl⟩ hw
    have hlt := h (before ++ w) (List.prefix_append _ _)
    rw [rtakeWhile_append_of_forall before hw, List.length_append] at hlt
    exact lt_of_le_of_lt (Nat.le_add_left _ _) hlt

end VehicleRecorder.TrailingRun
