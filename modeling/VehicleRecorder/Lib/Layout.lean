import Mathlib.Data.List.Flatten
import VehicleRecorder.Lib.Bytes

/-!
# Fields laid end to end

The fields of a message are strings that lie one behind the other in memory.
Each is then found at the sum of the lengths in front of it.
-/

namespace VehicleRecorder.Layout

open Bytes

/-- The strings lie end to end from an address on. -/
def Laid (f : ℕ → UInt8) : ℕ → List (List UInt8) → Prop
  | _, [] => True
  | addr, xs :: fields =>
      readBytes f addr xs.length = xs ∧ Laid f (addr + xs.length) fields

variable {f : ℕ → UInt8} {addr : ℕ}

/-- Fields lie end to end exactly when the string they make lies there. -/
theorem laid_iff {fields : List (List UInt8)} :
    Laid f addr fields ↔
      readBytes f addr fields.flatten.length = fields.flatten := by
  induction fields generalizing addr with
  | nil => exact iff_of_true trivial rfl
  | cons xs fields ih =>
      rw [Laid, ih, List.flatten_cons, List.length_append, readBytes_add]
      constructor
      · rintro ⟨hfirst, hrest⟩
        rw [hfirst, hrest]
      · intro h
        exact List.append_inj h (readBytes_length f addr xs.length)

/-- Strings of the same lengths make the same string only if they are the
same. -/
theorem flatten_inj {α : Type*} {xss yss : List (List α)}
    (h : xss.map List.length = yss.map List.length) :
    xss.flatten = yss.flatten ↔ xss = yss := by
  rw [List.eq_iff_flatten_eq]
  exact ⟨fun heq => ⟨heq, h⟩, fun heq => heq.1⟩

theorem readBytes_one_eq_iff {b : UInt8} :
    readBytes f addr 1 = [b] ↔ f addr = b :=
  List.singleton_inj

/-- A string is the one that lies a byte further exactly when all its bytes and
the next are the same. -/
theorem readBytes_eq_succ_iff {n : ℕ} :
    readBytes f addr n = readBytes f (addr + 1) n ↔
      ∀ i ≤ n, f (addr + i) = f addr := by
  induction n with
  | zero =>
      refine iff_of_true rfl fun i hi => ?_
      rw [Nat.le_zero.mp hi, Nat.add_zero]
  | succ n ih =>
      have hlast : readBytes f (addr + n) 1 = readBytes f (addr + 1 + n) 1 ↔
          f (addr + (n + 1)) = f (addr + n) := by
        rw [Nat.add_right_comm, Nat.add_assoc]
        exact ⟨fun h => (List.cons.inj h).1.symm, fun h => by
          rw [readBytes, readBytes, readBytes, readBytes, h]⟩
      have hsplit : readBytes f addr (n + 1) = readBytes f (addr + 1) (n + 1) ↔
          readBytes f addr n = readBytes f (addr + 1) n ∧
            readBytes f (addr + n) 1 = readBytes f (addr + 1 + n) 1 := by
        rw [readBytes_add, readBytes_add]
        refine ⟨fun h => List.append_inj h ?_, fun h => by rw [h.1, h.2]⟩
        rw [readBytes_length, readBytes_length]
      rw [hsplit, ih, hlast]
      constructor
      · rintro ⟨hsame, hnext⟩ i hi
        rcases Nat.le_succ_iff.mp hi with hi | rfl
        · exact hsame i hi
        · exact hnext.trans (hsame n le_rfl)
      · intro h
        refine ⟨fun i hi => h i (Nat.le_succ_of_le hi), ?_⟩
        exact (h (n + 1) le_rfl).trans (h n (Nat.le_succ n)).symm

/-! ## Words of two bytes -/

/-- The two bytes of a word, most significant first. -/
def beBytes2 (v : ℕ) : List UInt8 := [UInt8.ofNat (v / 256), UInt8.ofNat v]

@[simp] theorem beBytes2_length (v : ℕ) : (beBytes2 v).length = 2 := rfl

theorem be16_lt (f : ℕ → UInt8) (addr : ℕ) : be16 f addr < 65536 := by
  have h0 := (f addr).toNat_lt
  have h1 := (f (addr + 1)).toNat_lt
  rw [be16]
  omega

/-- A word has a value exactly if its bytes are those of the value. -/
theorem be16_eq_iff {v : ℕ} (hv : v < 65536) (f : ℕ → UInt8) (addr : ℕ) :
    be16 f addr = v ↔ readBytes f addr 2 = beBytes2 v := by
  have h0 := (f addr).toNat_lt
  have h1 := (f (addr + 1)).toNat_lt
  simp only [readBytes, beBytes2, be16, List.cons.injEq, and_true,
    ← UInt8.toNat_inj, UInt8.toNat_ofNat']
  omega

/-! ## Words stored least significant first -/

theorem leBytes_eq_iff {n v w : ℕ} (hv : v < 256 ^ n) (hw : w < 256 ^ n) :
    leBytes n v = leBytes n w ↔ v = w := by
  refine ⟨fun h => ?_, fun h => by rw [h]⟩
  have hvalue := congrArg leValue h
  rwa [leValue_leBytes, leValue_leBytes, Nat.mod_eq_of_lt hv,
    Nat.mod_eq_of_lt hw] at hvalue

/-- A word read as four bytes is stored as a value exactly if its bytes are those
of the value. -/
theorem leBytes_be32_eq_iff {v : ℕ} (hv : v < 4294967296) (f : ℕ → UInt8)
    (addr : ℕ) :
    leBytes 4 (be32 f addr) = leBytes 4 v ↔ readBytes f addr 4 = beBytes4 v := by
  rw [leBytes_eq_iff (be32_lt f addr) hv, be32_eq_iff hv]

/-- A word read as two bytes is stored as a value exactly if its bytes are those
of the value. -/
theorem leBytes_be16_eq_iff {v : ℕ} (hv : v < 65536) (f : ℕ → UInt8)
    (addr : ℕ) :
    leBytes 2 (be16 f addr) = leBytes 2 v ↔ readBytes f addr 2 = beBytes2 v := by
  rw [leBytes_eq_iff (be16_lt f addr) hv, be16_eq_iff hv]

end VehicleRecorder.Layout
