import Mathlib.Data.List.Basic
import Mathlib.Data.Nat.Notation
import Mathlib.Logic.Function.Basic

/-!
# The window of a ring

A ring of `N` slots keeps the last `N` values: each new one goes over the oldest.
A reader goes through the slots with a cursor of its own, which it sets to 0 when
it is behind a bound.
-/

namespace VehicleRecorder.RingWindow

variable {α : Type*} {N : ℕ}

/-! ## The values -/

/-- The values from the oldest to the newest; the slot `c` is overwritten next. -/
def window (N : ℕ) (f : ℕ → α) (c : ℕ) : List α :=
  (List.range N).map fun i => f ((c + i) % N)

theorem length_window (f : ℕ → α) (c : ℕ) : (window N f c).length = N := by
  rw [window, List.length_map, List.length_range]

theorem getElem?_window (f : ℕ → α) (c : ℕ) {i : ℕ} (hi : i < N) :
    (window N f c)[i]? = some (f ((c + i) % N)) := by
  rw [window, List.getElem?_map, List.getElem?_range hi]
  rfl

/-- A ring and the slot that is overwritten next. -/
structure SlotRing (α : Type*) where
  slots : ℕ → α
  next : ℕ

/-- A value goes over the oldest one. -/
def SlotRing.put (N : ℕ) (r : SlotRing α) (x : α) : SlotRing α where
  slots := Function.update r.slots r.next x
  next := (r.next + 1) % N

/-- With a new value the window is moved on by one. -/
theorem window_put {r : SlotRing α} (hnext : r.next < N) (x : α) :
    window N (r.put N x).slots (r.put N x).next =
      (window N r.slots r.next).drop 1 ++ [x] := by
  have hlen : (window N r.slots r.next).length = N := length_window _ _
  refine List.ext_getElem? fun i => ?_
  rcases Nat.lt_trichotomy (i + 1) N with hi | hi | hi
  · have hplace : ((r.next + 1) % N + i) % N = (r.next + (1 + i)) % N := by
      rw [Nat.mod_add_mod, Nat.add_assoc]
    have hne : (r.next + (1 + i)) % N ≠ r.next := by
      by_cases hin : r.next + (1 + i) < N
      · rw [Nat.mod_eq_of_lt hin]
        omega
      · rw [Nat.mod_eq_sub_mod (Nat.not_lt.mp hin), Nat.mod_eq_of_lt (by omega)]
        omega
    rw [getElem?_window _ _ (Nat.lt_of_succ_lt hi),
      List.getElem?_append_left (by rw [List.length_drop, hlen]; omega),
      List.getElem?_drop, getElem?_window _ _ (by omega)]
    have hput : (r.put N x).slots (((r.next + 1) % N + i) % N) =
        r.slots ((r.next + (1 + i)) % N) := by
      rw [hplace]
      exact Function.update_of_ne hne x r.slots
    exact congrArg some hput
  · have hplace : ((r.next + 1) % N + i) % N = r.next := by
      rw [Nat.mod_add_mod, Nat.add_assoc, Nat.add_comm 1 i, hi,
        Nat.add_mod_right, Nat.mod_eq_of_lt hnext]
    rw [getElem?_window _ _ (by omega),
      List.getElem?_append_right (by rw [List.length_drop, hlen]; omega),
      List.length_drop, hlen]
    have hlast : i - (N - 1) = 0 := by omega
    rw [hlast]
    have hput : (r.put N x).slots (((r.next + 1) % N + i) % N) = x := by
      rw [hplace]
      exact Function.update_self r.next x r.slots
    exact congrArg some hput
  · rw [List.getElem?_eq_none (by rw [length_window]; omega),
      List.getElem?_eq_none (by
        rw [List.length_append, List.length_drop, hlen, List.length_singleton]
        omega)]

/-- After any values the window holds the last of them, and in front of these
what was left of the earlier ones. -/
theorem window_puts {r : SlotRing α} (hnext : r.next < N) (xs : List α) :
    window N (xs.foldl (SlotRing.put N) r).slots
        (xs.foldl (SlotRing.put N) r).next =
      (window N r.slots r.next ++ xs).drop xs.length := by
  induction xs generalizing r with
  | nil => rw [List.append_nil]; rfl
  | cons x xs ih =>
      have hpos : 0 < N := Nat.zero_lt_of_lt hnext
      have hput : (r.put N x).next < N := Nat.mod_lt _ hpos
      have hone : 1 ≤ (window N r.slots r.next).length := by
        rw [length_window]
        exact hpos
      rw [List.foldl_cons, ih hput, window_put hnext, List.append_assoc,
        List.singleton_append, ← List.drop_append_of_le_length hone,
        List.drop_drop, List.length_cons, Nat.add_comm 1]

/-- After as many values as there are slots the window holds the last of them. -/
theorem window_puts_of_le {r : SlotRing α} (hnext : r.next < N) {xs : List α}
    (hxs : N ≤ xs.length) :
    window N (xs.foldl (SlotRing.put N) r).slots
        (xs.foldl (SlotRing.put N) r).next =
      xs.drop (xs.length - N) := by
  rw [window_puts hnext, List.drop_append, List.drop_of_length_le
    (by rw [length_window]; exact hxs), List.nil_append, length_window]

/-! ## The reader -/

/-- The slots that a reader visits in `n` steps: behind the bound it goes on
with 0. -/
def sweep (bound : ℕ) : ℕ → ℕ → List ℕ
  | _, 0 => []
  | c, n + 1 => c :: sweep bound (if c + 1 > bound then 0 else c + 1) n

/-- The reader goes round a ring of one slot more than its bound. -/
theorem sweep_eq {bound c : ℕ} (hc : c ≤ bound) (n : ℕ) :
    sweep bound c n = (List.range n).map fun i => (c + i) % (bound + 1) := by
  induction n generalizing c with
  | zero => rfl
  | succ n ih =>
      have hnext : (if c + 1 > bound then 0 else c + 1) =
          (c + 1) % (bound + 1) := by
        by_cases hlast : c = bound
        · rw [if_pos (by omega), hlast, Nat.mod_self]
        · rw [if_neg (by omega), Nat.mod_eq_of_lt (by omega)]
      have hle : (c + 1) % (bound + 1) ≤ bound :=
        Nat.le_of_lt_succ (Nat.mod_lt _ (Nat.succ_pos bound))
      have hfirst : (c + 0) % (bound + 1) = c :=
        Nat.mod_eq_of_lt (Nat.lt_succ_of_le hc)
      rw [sweep, hnext, ih hle, List.range_succ_eq_map, List.map_cons, hfirst,
        List.map_map]
      congr 1
      refine List.map_congr_left fun i _ => ?_
      change ((c + 1) % (bound + 1) + i) % (bound + 1) =
        (c + (i + 1)) % (bound + 1)
      rw [Nat.mod_add_mod, Nat.add_assoc, Nat.add_comm 1 i]

/-- A bound one too high makes the reader leave the ring, unless it starts at
slot 0. -/
theorem forall_mem_sweep_lt_iff {c : ℕ} (hc : c < N) :
    (∀ k ∈ sweep N c N, k < N) ↔ c = 0 := by
  have hle : c ≤ N := Nat.le_of_lt hc
  rw [sweep_eq hle]
  constructor
  · intro h
    by_contra hpos
    have hmem : (c + (N - c)) % (N + 1) ∈
        (List.range N).map fun i => (c + i) % (N + 1) :=
      List.mem_map_of_mem (List.mem_range.mpr (by omega))
    have hlt := h _ hmem
    rw [Nat.add_sub_cancel' hle, Nat.mod_eq_of_lt (Nat.lt_succ_self N)] at hlt
    exact absurd hlt (Nat.lt_irrefl N)
  · rintro rfl k hk
    obtain ⟨i, hi, rfl⟩ := List.mem_map.mp hk
    have hlt := List.mem_range.mp hi
    rw [Nat.zero_add, Nat.mod_eq_of_lt (by omega)]
    exact hlt

/-- From slot 0 on the reader finds the values in their order. -/
theorem map_sweep_zero (f : ℕ → α) : (sweep N 0 N).map f = window N f 0 := by
  rw [sweep_eq (Nat.zero_le N), List.map_map, window]
  refine List.map_congr_left fun i hi => ?_
  have hlt := List.mem_range.mp hi
  change f ((0 + i) % (N + 1)) = f ((0 + i) % N)
  rw [Nat.zero_add, Nat.mod_eq_of_lt (by omega), Nat.mod_eq_of_lt hlt]

end VehicleRecorder.RingWindow
