import VehicleRecorder.Lib.Bytes
import Mathlib.Logic.Function.Basic

/-!
# Writing at a cursor

A buffer is filled by single bytes put at a cursor and by strings copied to it,
with the cursor moved on by hand.  What has been written from a position on is
followed step by step: a step that moves the cursor past the string copied takes
over what lay in the buffer before.
-/

namespace VehicleRecorder

open Bytes

/-- A buffer and the cursor into it. -/
structure CursorWriter where
  buf : ℕ → UInt8
  wr : ℕ

namespace CursorWriter

variable {w : CursorWriter} {start : ℕ} {xs ys : List UInt8}

/-- `buf[wr++]=b`. -/
def put (w : CursorWriter) (b : UInt8) : CursorWriter :=
  ⟨Function.update w.buf w.wr b, w.wr + 1⟩

/-- Several bytes put one behind the other. -/
def puts (w : CursorWriter) (bs : List UInt8) : CursorWriter := bs.foldl put w

/-- `memcpy(buf+wr,xs,len)`. -/
def copy (w : CursorWriter) (xs : List UInt8) : CursorWriter :=
  { w with buf := fun i =>
      if i < w.wr then w.buf i else (xs[i - w.wr]?).getD (w.buf i) }

/-- `wr+=n`. -/
def advance (w : CursorWriter) (n : ℕ) : CursorWriter :=
  { w with wr := w.wr + n }

/-- `buf[wr-k]=b`. -/
def patch (w : CursorWriter) (k : ℕ) (b : UInt8) : CursorWriter :=
  { w with buf := Function.update w.buf (w.wr - k) b }

/-- `buf[i]=b`. -/
def store (w : CursorWriter) (i : ℕ) (b : UInt8) : CursorWriter :=
  { w with buf := Function.update w.buf i b }

/-- What lies between a position and the cursor. -/
def writtenFrom (w : CursorWriter) (start : ℕ) : List UInt8 :=
  readBytes w.buf start (w.wr - start)

/-- From `start` to the cursor lies `xs`. -/
structure Holds (w : CursorWriter) (start : ℕ) (xs : List UInt8) : Prop where
  wr : w.wr = start + xs.length
  read : readBytes w.buf start xs.length = xs

theorem holds_nil (w : CursorWriter) : w.Holds w.wr [] := ⟨rfl, rfl⟩

theorem Holds.writtenFrom_eq (h : w.Holds start xs) :
    w.writtenFrom start = xs := by
  rw [writtenFrom, h.wr, Nat.add_sub_cancel_left, h.read]

/-- Cells in front of the cursor and unchanged. -/
theorem Holds.extend {w' : CursorWriter} (h : w.Holds start xs)
    (hwr : w'.wr = w.wr + ys.length)
    (hold : ∀ i, start ≤ i → i < w.wr → w'.buf i = w.buf i)
    (hnew : readBytes w'.buf w.wr ys.length = ys) :
    w'.Holds start (xs ++ ys) := by
  constructor
  · rw [hwr, h.wr, List.length_append, Nat.add_assoc]
  · have hread : readBytes w'.buf start xs.length = xs := by
      rw [← h.read]
      conv_lhs => rw [h.read]
      refine readBytes_congr fun i hlo hhi => hold i hlo ?_
      rw [h.wr]
      exact hhi
    rw [List.length_append, readBytes_add, hread, ← h.wr, hnew]

theorem Holds.put (h : w.Holds start xs) (b : UInt8) :
    (w.put b).Holds start (xs ++ [b]) := by
  refine h.extend rfl (fun i _ hi => ?_) ?_
  · exact Function.update_of_ne (Nat.ne_of_lt hi) b w.buf
  · change [Function.update w.buf w.wr b w.wr] = [b]
    rw [Function.update_self]

theorem Holds.puts (h : w.Holds start xs) (bs : List UInt8) :
    (w.puts bs).Holds start (xs ++ bs) := by
  induction bs generalizing w xs with
  | nil =>
      rw [List.append_nil]
      exact h
  | cons b bs ih =>
      have hput := ih (h.put b)
      rw [List.append_assoc, List.singleton_append] at hput
      exact hput

theorem copy_buf_of_lt {i : ℕ} (hi : i < w.wr) : (w.copy xs).buf i = w.buf i :=
  if_pos hi

theorem copy_buf_of_le {i : ℕ} (hi : w.wr + xs.length ≤ i) :
    (w.copy xs).buf i = w.buf i := by
  change (if i < w.wr then _ else _) = _
  rw [if_neg (by omega), List.getElem?_eq_none (by omega), Option.getD_none]

theorem readBytes_copy : readBytes (w.copy xs).buf w.wr xs.length = xs := by
  refine readBytes_of_getElem? fun i hi => ?_
  have hcell : (w.copy xs).buf (w.wr + i) = xs[i] := by
    change (if w.wr + i < w.wr then _ else _) = _
    rw [if_neg (by omega), Nat.add_sub_cancel_left,
      List.getElem?_eq_getElem hi, Option.getD_some]
  rw [hcell, List.getElem?_eq_getElem hi]

/-- A string copied and the cursor moved behind it. -/
theorem Holds.copy (h : w.Holds start xs) (ys : List UInt8) {n : ℕ}
    (hn : n = ys.length) :
    ((w.copy ys).advance n).Holds start (xs ++ ys) := by
  subst hn
  exact h.extend rfl (fun i _ hi => copy_buf_of_lt hi) readBytes_copy

/-- The cursor moved to within the string copied. -/
theorem Holds.copy_take (h : w.Holds start xs) {n : ℕ} (hn : n ≤ ys.length) :
    ((w.copy ys).advance n).Holds start (xs ++ ys.take n) := by
  have hlen : (ys.take n).length = n := List.length_take_of_le hn
  have hread : readBytes (w.copy ys).buf w.wr n = ys.take n := by
    have hall : readBytes (w.copy ys).buf w.wr ys.length = ys := readBytes_copy
    have hsplit : ys.length = n + (ys.length - n) := by omega
    rw [hsplit, readBytes_add] at hall
    have htake := congrArg (List.take n) hall
    rwa [List.take_append_of_le_length (by rw [readBytes_length]),
      List.take_of_length_le (by rw [readBytes_length])] at htake
  refine h.extend ?_ (fun i _ hi => copy_buf_of_lt hi) ?_
  · rw [hlen]
    rfl
  · rw [hlen]
    exact hread

/-- The cursor moved past the string copied: the bytes behind it stay what they
were. -/
theorem Holds.copy_stale (h : w.Holds start xs) (ys : List UInt8) (n : ℕ) :
    ((w.copy ys).advance (ys.length + n)).Holds start
      (xs ++ (ys ++ readBytes w.buf (w.wr + ys.length) n)) := by
  have hstale : readBytes (w.copy ys).buf (w.wr + ys.length) n =
      readBytes w.buf (w.wr + ys.length) n :=
    readBytes_congr fun i hlo _ => copy_buf_of_le hlo
  refine h.extend ?_ (fun i _ hi => copy_buf_of_lt hi) ?_
  · rw [List.length_append, readBytes_length]
    rfl
  · rw [List.length_append, readBytes_length, readBytes_add]
    change readBytes (w.copy ys).buf _ _ ++ readBytes (w.copy ys).buf _ _ = _
    rw [readBytes_copy, hstale]

/-- The cursor moved on: the bytes passed are taken over. -/
theorem Holds.advance (h : w.Holds start xs) (n : ℕ) :
    (w.advance n).Holds start (xs ++ readBytes w.buf w.wr n) := by
  refine h.extend ?_ (fun _ _ _ => rfl) ?_
  · rw [readBytes_length]
    rfl
  · rw [readBytes_length]
    rfl

/-- The first of two strings. -/
theorem Holds.read_front (h : w.Holds start (xs ++ ys)) :
    readBytes w.buf start xs.length = xs := by
  have hread := h.read
  rw [List.length_append, readBytes_add] at hread
  exact (List.append_inj hread (readBytes_length _ _ _)).1

/-- What lies behind the first of two strings. -/
theorem Holds.drop (h : w.Holds start (xs ++ ys)) :
    w.Holds (start + xs.length) ys := by
  have hread := h.read
  rw [List.length_append, readBytes_add] at hread
  constructor
  · rw [h.wr, List.length_append, Nat.add_assoc]
  · exact (List.append_inj hread (readBytes_length _ _ _)).2

/-- A byte stored over one written before. -/
theorem Holds.store (h : w.Holds start xs) {k : ℕ} (hk : k < xs.length)
    (b : UInt8) : (w.store (start + k) b).Holds start (xs.set k b) := by
  constructor
  · rw [List.length_set]
    exact h.wr
  · rw [List.length_set]
    apply List.ext_getElem?
    intro i
    have hi := congrArg (·[i]?) h.read
    simp only [getElem?_readBytes] at hi
    rw [getElem?_readBytes, List.getElem?_set, ← hi]
    change (if i < xs.length then
      some (Function.update w.buf (start + k) b (start + i)) else none) = _
    by_cases hpos : k = i
    · rw [hpos, Function.update_self, if_pos rfl, if_pos (hpos ▸ hk)]
    · rw [Function.update_of_ne (by omega), if_neg hpos]

/-- A byte put over one written before. -/
theorem Holds.patch (h : w.Holds start xs) {k : ℕ} (hlo : 1 ≤ k)
    (hhi : k ≤ xs.length) (b : UInt8) :
    (w.patch k b).Holds start (xs.set (xs.length - k) b) := by
  have hwr := h.wr
  have haddr : start + (xs.length - k) = w.wr - k := by omega
  have hstore := h.store (k := xs.length - k) (by omega) b
  rw [haddr] at hstore
  exact hstore

/-- The byte behind a string stored anew. -/
theorem Holds.store_behind {a : UInt8} (h : w.Holds start (xs ++ a :: ys))
    (b : UInt8) :
    (w.store (start + xs.length) b).Holds start (xs ++ b :: ys) := by
  have hpos : xs.length < (xs ++ a :: ys).length := by
    rw [List.length_append, List.length_cons]
    omega
  have hstore := h.store hpos b
  rw [List.set_append_right _ _ le_rfl, Nat.sub_self, List.set_cons_zero]
    at hstore
  exact hstore

/-- The last byte written anew. -/
theorem Holds.patch_last {a : UInt8} (h : w.Holds start (xs ++ [a]))
    (b : UInt8) : (w.patch 1 b).Holds start (xs ++ [b]) := by
  have hwr : w.wr - 1 = start + xs.length := by
    rw [h.wr, List.length_append, List.length_singleton]
    omega
  have hstore := h.store_behind b
  rw [← hwr] at hstore
  exact hstore

/-! ## What lies behind the cursor -/

/-- Behind the cursor the buffer is that of `f`. -/
def Untouched (w : CursorWriter) (f : ℕ → UInt8) : Prop :=
  ∀ i, w.wr ≤ i → w.buf i = f i

theorem Untouched.put {f : ℕ → UInt8} (h : w.Untouched f) (b : UInt8) :
    (w.put b).Untouched f := by
  intro i hi
  have hi : w.wr + 1 ≤ i := hi
  have hne : i ≠ w.wr := by omega
  have hold : (w.put b).buf i = w.buf i := Function.update_of_ne hne _ _
  rw [hold, h i (by omega)]

theorem Untouched.puts {f : ℕ → UInt8} (h : w.Untouched f) (bs : List UInt8) :
    (w.puts bs).Untouched f := by
  induction bs generalizing w with
  | nil => exact h
  | cons b bs ih => exact ih (h.put b)

theorem Untouched.copy {f : ℕ → UInt8} (h : w.Untouched f) (ys : List UInt8)
    {n : ℕ} (hn : ys.length ≤ n) :
    ((w.copy ys).advance n).Untouched f := by
  intro i hi
  have hi : w.wr + n ≤ i := hi
  have hold : ((w.copy ys).advance n).buf i = w.buf i :=
    copy_buf_of_le (by omega)
  rw [hold, h i (by omega)]

theorem Untouched.patch {f : ℕ → UInt8} (h : w.Untouched f) {k : ℕ}
    (hlo : 1 ≤ k) (hwr : 1 ≤ w.wr) (b : UInt8) : (w.patch k b).Untouched f := by
  intro i hi
  have hi : w.wr ≤ i := hi
  have hne : i ≠ w.wr - k := by omega
  have hold : (w.patch k b).buf i = w.buf i := Function.update_of_ne hne _ _
  rw [hold, h i hi]

/-! ## What lies in front of a position -/

/-- The cursor has passed a position, and in front of it the buffer is that of
`f`. -/
structure Settled (w : CursorWriter) (n : ℕ) (f : ℕ → UInt8) : Prop where
  passed : n ≤ w.wr
  buf : ∀ i < n, w.buf i = f i

section Settled

variable {n : ℕ} {f : ℕ → UInt8}

theorem Settled.put (h : w.Settled n f) (b : UInt8) : (w.put b).Settled n f := by
  refine ⟨Nat.le_succ_of_le h.passed, fun i hi => ?_⟩
  have hne : i ≠ w.wr := Nat.ne_of_lt (Nat.lt_of_lt_of_le hi h.passed)
  have hold : (w.put b).buf i = w.buf i := Function.update_of_ne hne _ _
  rw [hold, h.buf i hi]

theorem Settled.puts (h : w.Settled n f) (bs : List UInt8) :
    (w.puts bs).Settled n f := by
  induction bs generalizing w with
  | nil => exact h
  | cons b bs ih => exact ih (h.put b)

theorem Settled.copy (h : w.Settled n f) (ys : List UInt8) (m : ℕ) :
    ((w.copy ys).advance m).Settled n f := by
  refine ⟨Nat.le_add_right_of_le h.passed, fun i hi => ?_⟩
  have hold : ((w.copy ys).advance m).buf i = w.buf i :=
    copy_buf_of_lt (Nat.lt_of_lt_of_le hi h.passed)
  rw [hold, h.buf i hi]

theorem Settled.patch (h : w.Settled n f) {k : ℕ} (hk : n + k ≤ w.wr)
    (b : UInt8) : (w.patch k b).Settled n f := by
  refine ⟨h.passed, fun i hi => ?_⟩
  have hne : i ≠ w.wr - k := by omega
  have hold : (w.patch k b).buf i = w.buf i := Function.update_of_ne hne _ _
  rw [hold, h.buf i hi]

/-- What was written first stands in front of what is written behind it. -/
theorem Holds.append {w' : CursorWriter} (h : w.Holds start xs)
    (hsettled : w'.Settled w.wr w.buf) (h' : w'.Holds w.wr ys) :
    w'.Holds start (xs ++ ys) :=
  h.extend h'.wr (fun i _ hi => hsettled.buf i hi) h'.read

end Settled

end CursorWriter

end VehicleRecorder
