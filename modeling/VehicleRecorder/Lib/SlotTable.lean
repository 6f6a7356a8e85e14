import Mathlib.Data.Nat.Notation
import Mathlib.Data.List.Induction

/-!
# Tables of overwritten slots

A table holds an unbounded string of cells for every key.  Writing a string
under a key replaces the front of the slot and keeps what lies behind it.

A cell after any history of writes holds what the last write that reached it
put there.  Whether a string survives the writes that follow it is thus a
matter of comparing it with those of the writes that share its slot.
-/

namespace VehicleRecorder.SlotTable

variable {ι α : Type*}

/-- The cells of every slot. -/
abbrev Table (ι α : Type*) := ι → ℕ → α

/-- The front of a slot. -/
def read (t : Table ι α) (k : ι) (n : ℕ) : List α :=
  (List.range n).map (t k)

@[simp] theorem read_length (t : Table ι α) (k : ι) (n : ℕ) :
    (read t k n).length = n := by
  simp [read]

theorem getElem?_read {t : Table ι α} {k : ι} {n i : ℕ} (hi : i < n) :
    (read t k n)[i]? = some (t k i) := by
  rw [read, List.getElem?_map, List.getElem?_range hi, Option.map_some]

variable [DecidableEq ι]

/-- Replace the front of a slot. -/
def write (t : Table ι α) (w : ι × List α) : Table ι α :=
  fun k i => if k = w.1 then w.2.getD i (t k i) else t k i

/-- Perform a history of writes. -/
def writeAll (t : Table ι α) (ws : List (ι × List α)) : Table ι α :=
  ws.foldl write t

/-- What the last write that reached the cell put there. -/
def lastAt (ws : List (ι × List α)) (k : ι) (i : ℕ) : Option α :=
  (ws.filterMap fun w => if k = w.1 then w.2[i]? else none).getLast?

@[simp] theorem writeAll_nil (t : Table ι α) : writeAll t [] = t := rfl

theorem writeAll_append (t : Table ι α) (xs ys : List (ι × List α)) :
    writeAll t (xs ++ ys) = writeAll (writeAll t xs) ys :=
  List.foldl_append

theorem writeAll_concat (t : Table ι α) (ws : List (ι × List α))
    (w : ι × List α) : writeAll t (ws ++ [w]) = write (writeAll t ws) w := by
  rw [writeAll_append]
  rfl

/-- A cell after a history, from the last write that reached it. -/
theorem writeAll_apply (t : Table ι α) (ws : List (ι × List α)) (k : ι)
    (i : ℕ) : writeAll t ws k i = (lastAt ws k i).getD (t k i) := by
  induction ws using List.reverseRecOn with
  | nil => rfl
  | append_singleton ws w ih =>
      rw [writeAll_concat, write, ih, lastAt, lastAt, List.filterMap_append]
      by_cases hk : k = w.1
      · rcases hi : w.2[i]? with _ | a
        · simp [hk, hi]
        · simp [hk, hi]
      · simp [hk]

/-- A string just written is read back. -/
theorem read_write (t : Table ι α) (k : ι) (xs : List α) :
    read (write t (k, xs)) k xs.length = xs := by
  apply List.ext_getElem?
  intro i
  rcases Nat.lt_or_ge i xs.length with hi | hi
  · rw [getElem?_read hi]
    simp [write, hi]
  · rw [List.getElem?_eq_none (by simpa using hi),
      List.getElem?_eq_none hi]

/-- Every cell of the string is left alone by the writes `ws`, or gets the
same content. -/
def Survives (ws : List (ι × List α)) (k : ι) (xs : List α) : Prop :=
  ∀ i a, i < xs.length → lastAt ws k i = some a → xs[i]? = some a

/-- A string reads back after further writes exactly if it survives them. -/
theorem read_writeAll_iff (t : Table ι α) (k : ι) (xs : List α)
    (ws : List (ι × List α)) :
    read (writeAll (write t (k, xs)) ws) k xs.length = xs ↔
      Survives ws k xs := by
  have hcell (i : ℕ) (hi : i < xs.length) :
      write t (k, xs) k i = xs[i] := by
    simp [write, hi]
  constructor
  · intro h i a hi hlast
    have hread := getElem?_read (t := writeAll (write t (k, xs)) ws) (k := k) hi
    rw [h, writeAll_apply, hlast] at hread
    exact hread
  · intro h
    apply List.ext_getElem?
    intro i
    rcases Nat.lt_or_ge i xs.length with hi | hi
    · rw [getElem?_read hi, writeAll_apply]
      rcases hlast : lastAt ws k i with _ | a
      · rw [Option.getD_none, hcell i hi, List.getElem?_eq_getElem hi]
      · rw [Option.getD_some, h i a hi hlast]
    · rw [List.getElem?_eq_none (by simpa using hi),
        List.getElem?_eq_none hi]

end VehicleRecorder.SlotTable
