import Mathlib.Data.Nat.Notation
import Mathlib.Data.List.Basic

/-!
# At-least-once queues

A sender hands the oldest entry that is not yet acknowledged to a link, and
hands it again when no acknowledgement arrives.  What the link sees is the
sequence of saved entries with repetitions: nothing is skipped, nothing comes
out of order, and the sender is never more than one entry ahead of the
acknowledgements.
-/

namespace VehicleRecorder.AtLeastOnce

variable {α : Type*}

/-- `xs` lists the entries of `ys` in order, each one or more times in a
row. -/
inductive Stutters : List α → List α → Prop
  | nil : Stutters [] []
  | next {xs ys : List α} (a : α) :
      Stutters xs ys → Stutters (xs ++ [a]) (ys ++ [a])
  | again {xs ys : List α} (a : α) :
      Stutters xs (ys ++ [a]) → Stutters (xs ++ [a]) (ys ++ [a])

theorem Stutters.mem {xs ys : List α} (h : Stutters xs ys) {a : α}
    (ha : a ∈ ys) : a ∈ xs := by
  induction h with
  | nil => exact ha
  | next b _ ih =>
      rcases List.mem_append.mp ha with hold | hnew
      · exact List.mem_append_left _ (ih hold)
      · exact List.mem_append_right _ hnew
  | again b _ ih => exact List.mem_append_left _ (ih ha)

/-- Entries that are changed one by one are repeated as before. -/
theorem Stutters.map {β : Type*} {xs ys : List α} (h : Stutters xs ys)
    (f : α → β) : Stutters (xs.map f) (ys.map f) := by
  induction h with
  | nil => exact .nil
  | next a _ ih =>
      rw [List.map_append, List.map_append]
      exact .next (f a) ih
  | again a _ ih =>
      rw [List.map_append] at ih
      rw [List.map_append, List.map_append]
      exact .again (f a) ih

/-- The entries saved so far, the number acknowledged, whether the oldest
unacknowledged one is on its way, and everything handed to the link. -/
structure Queue (α : Type*) where
  saved : List α
  advanced : ℕ
  inFlight : Bool
  handed : List α

def Queue.empty : Queue α := ⟨[], 0, false, []⟩

inductive Op (α : Type*)
  | save (a : α)
  | hand
  | acknowledge
  | giveUp

/-- One operation of the queue. -/
def Queue.step (q : Queue α) : Op α → Queue α
  | .save a => { q with saved := q.saved ++ [a] }
  | .hand =>
      match q.saved[q.advanced]? with
      | some a => { q with handed := q.handed ++ [a], inFlight := true }
      | none => q
  | .acknowledge =>
      if q.inFlight then
        { q with advanced := q.advanced + 1, inFlight := false }
      else q
  | .giveUp => { q with inFlight := false }

/-- The link has seen the first `d` entries. -/
structure Queue.Delivered (q : Queue α) (d : ℕ) : Prop where
  advanced_le : q.advanced ≤ d
  le_advanced : d ≤ q.advanced + 1
  le_saved : d ≤ q.saved.length
  inFlight : q.inFlight = true → d = q.advanced + 1
  stutters : Stutters q.handed (q.saved.take d)

theorem delivered_empty : (Queue.empty : Queue α).Delivered 0 where
  advanced_le := Nat.le_refl 0
  le_advanced := Nat.zero_le _
  le_saved := Nat.le_refl 0
  inFlight := by
    intro h
    exact absurd h Bool.false_ne_true
  stutters := .nil

/-- Handing an entry either repeats the last one or delivers the next. -/
theorem Queue.Delivered.hand {q : Queue α} {d : ℕ} (h : q.Delivered d) :
    ∃ d', (q.step .hand).Delivered d' := by
  have hle := h.advanced_le
  have hge := h.le_advanced
  by_cases hlt : q.advanced < q.saved.length
  · have hget := List.getElem?_eq_getElem hlt
    have htake : q.saved.take (q.advanced + 1) =
        q.saved.take q.advanced ++ [q.saved[q.advanced]] := by
      rw [List.take_add_one, hget, Option.toList_some]
    refine ⟨q.advanced + 1, ?_⟩
    simp only [Queue.step, hget]
    refine ⟨Nat.le_succ _, Nat.le_refl _, hlt, fun _ => rfl, ?_⟩
    have hstutters := h.stutters
    rw [htake]
    by_cases hd : d = q.advanced
    · rw [hd] at hstutters
      exact .next _ hstutters
    · obtain rfl : d = q.advanced + 1 := by omega
      rw [htake] at hstutters
      exact .again _ hstutters
  · have hget := List.getElem?_eq_none (Nat.le_of_not_lt hlt)
    refine ⟨d, ?_⟩
    simp only [Queue.step, hget]
    exact h

/-- Every operation keeps the link in step with the queue. -/
theorem Queue.Delivered.step {q : Queue α} {d : ℕ} (h : q.Delivered d)
    (op : Op α) : ∃ d', (q.step op).Delivered d' := by
  cases op with
  | save a =>
      have hle := h.le_saved
      refine ⟨d, h.advanced_le, h.le_advanced, ?_, h.inFlight, ?_⟩
      · simp only [Queue.step, List.length_append]
        omega
      · simp only [Queue.step]
        rw [List.take_append_of_le_length hle]
        exact h.stutters
  | hand => exact h.hand
  | acknowledge =>
      simp only [Queue.step]
      by_cases hflight : q.inFlight = true
      · have hd := h.inFlight hflight
        rw [if_pos hflight]
        refine ⟨d, ?_, ?_, h.le_saved, ?_, h.stutters⟩
        · exact Nat.le_of_eq hd.symm
        · simp only
          omega
        · intro hfalse
          exact absurd hfalse Bool.false_ne_true
      · rw [if_neg hflight]
        exact ⟨d, h⟩
  | giveUp =>
      refine ⟨d, h.advanced_le, h.le_advanced, h.le_saved, ?_, h.stutters⟩
      intro hfalse
      exact absurd hfalse Bool.false_ne_true

/-- After any run the link has seen the first entries in order. -/
theorem exists_delivered_foldl {q : Queue α} {d : ℕ} (h : q.Delivered d)
    (ops : List (Op α)) : ∃ d', (ops.foldl Queue.step q).Delivered d' := by
  induction ops generalizing q d with
  | nil => exact ⟨d, h⟩
  | cons op ops ih =>
      obtain ⟨d', h'⟩ := h.step op
      exact ih h'

/-- When everything is acknowledged, everything was handed over. -/
theorem Queue.Delivered.of_advanced_eq {q : Queue α} {d : ℕ}
    (h : q.Delivered d) (hall : q.advanced = q.saved.length) :
    Stutters q.handed q.saved := by
  have hd : d = q.saved.length := by
    have hle := h.advanced_le
    have hge := h.le_saved
    omega
  have hstutters := h.stutters
  rwa [hd, List.take_length] at hstutters

end VehicleRecorder.AtLeastOnce
