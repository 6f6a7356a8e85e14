import Mathlib.Data.Nat.Notation
import Mathlib.Data.List.Basic

/-!
# Byte stuffing

A frame between two flag symbols must not contain the flag.  A stuffing code
replaces the flag and the escape symbol inside the frame by two symbols each,
the escape symbol followed by a code for the one it stands for.

The decoder tolerates an escape symbol that no code follows and keeps it, so it
is defined on every string and looks one symbol ahead.
-/

namespace VehicleRecorder.ByteStuffing

variable {α : Type*} [DecidableEq α]

/-- A stuffing code. -/
structure Code (α : Type*) where
  flag : α
  esc : α
  flagCode : α
  escCode : α
  flag_ne_esc : flag ≠ esc
  flagCode_ne_escCode : flagCode ≠ escCode
  flagCode_ne_flag : flagCode ≠ flag
  escCode_ne_flag : escCode ≠ flag

namespace Code

variable (c : Code α)

/-- Replace the flag and the escape symbol. -/
def encode : List α → List α
  | [] => []
  | a :: m =>
      if a = c.flag then c.esc :: c.flagCode :: encode m
      else if a = c.esc then c.esc :: c.escCode :: encode m
      else a :: encode m

/-- Undo the replacement. -/
def decode : List α → List α
  | [] => []
  | [a] => [a]
  | a :: b :: s =>
      if a = c.esc ∧ b = c.flagCode then c.flag :: decode s
      else if a = c.esc ∧ b = c.escCode then c.esc :: decode s
      else a :: decode (b :: s)

@[simp] theorem encode_nil : c.encode [] = [] := rfl

theorem encode_flag (m : List α) :
    c.encode (c.flag :: m) = c.esc :: c.flagCode :: c.encode m :=
  if_pos rfl

theorem encode_esc (m : List α) :
    c.encode (c.esc :: m) = c.esc :: c.escCode :: c.encode m := by
  rw [encode, if_neg c.flag_ne_esc.symm, if_pos rfl]

theorem encode_plain {a : α} (hflag : a ≠ c.flag) (hesc : a ≠ c.esc)
    (m : List α) : c.encode (a :: m) = a :: c.encode m := by
  rw [encode, if_neg hflag, if_neg hesc]

theorem decode_flagCode (s : List α) :
    c.decode (c.esc :: c.flagCode :: s) = c.flag :: c.decode s := by
  rw [decode, if_pos ⟨rfl, rfl⟩]

theorem decode_escCode (s : List α) :
    c.decode (c.esc :: c.escCode :: s) = c.esc :: c.decode s := by
  have hcode : ¬ (c.esc = c.esc ∧ c.escCode = c.flagCode) := fun h =>
    c.flagCode_ne_escCode h.2.symm
  rw [decode, if_neg hcode, if_pos ⟨rfl, rfl⟩]

theorem decode_plain {a : α} (hesc : a ≠ c.esc) (s : List α) :
    c.decode (a :: s) = a :: c.decode s := by
  cases s with
  | nil => rfl
  | cons b s =>
      rw [decode, if_neg (fun h => hesc h.1), if_neg (fun h => hesc h.1)]

/-- Decoding an encoded string, whatever follows it. -/
theorem decode_encode_append (m s : List α) :
    c.decode (c.encode m ++ s) = m ++ c.decode s := by
  induction m with
  | nil => rfl
  | cons a m ih =>
      by_cases hflag : a = c.flag
      · rw [hflag, encode_flag, List.cons_append, List.cons_append,
          decode_flagCode, ih, List.cons_append]
      · by_cases hesc : a = c.esc
        · rw [hesc, encode_esc, List.cons_append, List.cons_append,
            decode_escCode, ih, List.cons_append]
        · rw [encode_plain c hflag hesc, List.cons_append,
            decode_plain c hesc, ih, List.cons_append]

/-- An encoded string does not contain the flag. -/
theorem flag_not_mem_encode (m : List α) : c.flag ∉ c.encode m := by
  induction m with
  | nil => exact List.not_mem_nil
  | cons a m ih =>
      by_cases hflag : a = c.flag
      · rw [hflag, encode_flag, List.mem_cons, List.mem_cons]
        rintro (h | h | h)
        · exact c.flag_ne_esc h
        · exact c.flagCode_ne_flag h.symm
        · exact ih h
      · by_cases hesc : a = c.esc
        · rw [hesc, encode_esc, List.mem_cons, List.mem_cons]
          rintro (h | h | h)
          · exact c.flag_ne_esc h
          · exact c.escCode_ne_flag h.symm
          · exact ih h
        · rw [encode_plain c hflag hesc, List.mem_cons]
          rintro (h | h)
          · exact hflag h.symm
          · exact ih h

/-- The symbols that are replaced. -/
def special (a : α) : Bool := a = c.flag ∨ a = c.esc

/-- Every symbol replaced makes the string longer by one. -/
theorem length_encode (m : List α) :
    (c.encode m).length = m.length + m.countP c.special := by
  induction m with
  | nil => rfl
  | cons a m ih =>
      by_cases hflag : a = c.flag
      · have hspecial : c.special a = true := decide_eq_true (.inl hflag)
        rw [List.countP_cons_of_pos hspecial, hflag, encode_flag]
        simp only [List.length_cons, ih]
        omega
      · by_cases hesc : a = c.esc
        · have hspecial : c.special a = true := decide_eq_true (.inr hesc)
          rw [List.countP_cons_of_pos hspecial, hesc, encode_esc]
          simp only [List.length_cons, ih]
          omega
        · have hplain : ¬ c.special a = true := by
            rw [special, decide_eq_true_iff, not_or]
            exact ⟨hflag, hesc⟩
          rw [List.countP_cons_of_neg hplain, encode_plain c hflag hesc]
          simp only [List.length_cons, ih]
          omega

/-! ## Frames -/

/-- A string between two flags. -/
def frame (m : List α) : List α := c.flag :: (c.encode m ++ [c.flag])

theorem length_frame (m : List α) :
    (c.frame m).length = m.length + m.countP c.special + 2 := by
  rw [frame, List.length_cons, List.length_append, length_encode]
  rfl

/-- Decoding a frame gives the string between the flags. -/
theorem decode_frame (m : List α) :
    c.decode (c.frame m) = c.flag :: (m ++ [c.flag]) := by
  rw [frame, decode_plain c c.flag_ne_esc, decode_encode_append]
  rfl

/-- A frame contains the flag at its two ends and nowhere else. -/
theorem getElem?_frame_eq_flag (m : List α) (i : ℕ) :
    (c.frame m)[i]? = some c.flag ↔ i = 0 ∨ i + 1 = (c.frame m).length := by
  have hlen : (c.frame m).length = (c.encode m).length + 2 := by
    simp [frame]
  cases i with
  | zero => exact ⟨fun _ => Or.inl rfl, fun _ => rfl⟩
  | succ i =>
      rw [frame, List.getElem?_cons_succ, ← frame, hlen]
      rcases Nat.lt_trichotomy i (c.encode m).length with hlt | heq | hgt
      · rw [List.getElem?_append_left hlt]
        constructor
        · intro h
          exact absurd (List.mem_of_getElem? h) (c.flag_not_mem_encode m)
        · rintro (h | h) <;> omega
      · rw [heq, List.getElem?_concat_length]
        exact ⟨fun _ => Or.inr rfl, fun _ => rfl⟩
      · rw [List.getElem?_eq_none (by simp; omega)]
        constructor
        · intro h
          cases h
        · rintro (h | h) <;> omega

end Code

end VehicleRecorder.ByteStuffing
