import Mathlib.Data.Nat.Notation
import Mathlib.Data.List.Basic
import Mathlib.Tactic.Ring

/-!
# Byte strings

Little-endian words as they lie in memory, the XOR checksum of a byte string,
strings made of rows of one width, and the strings a memory holds.
-/

namespace VehicleRecorder.Bytes

/-- The XOR of all bytes. -/
def xorSum (bs : List UInt8) : UInt8 := bs.foldl (· ^^^ ·) 0

theorem xorSum_append (xs ys : List UInt8) :
    xorSum (xs ++ ys) = xorSum xs ^^^ xorSum ys := by
  have hfold (a : UInt8) : ys.foldl (· ^^^ ·) a = a ^^^ xorSum ys := by
    rw [xorSum]
    induction ys generalizing a with
    | nil => exact UInt8.xor_zero.symm
    | cons y ys ih =>
        rw [List.foldl_cons, List.foldl_cons, ih, ih (0 ^^^ y), UInt8.zero_xor,
          UInt8.xor_assoc]
  rw [xorSum, List.foldl_append, hfold]
  rfl

/-- The value of a little-endian word. -/
def leValue : List UInt8 → ℕ
  | [] => 0
  | b :: bs => b.toNat + 256 * leValue bs

/-- The `n` low bytes of a value, least significant first. -/
def leBytes : ℕ → ℕ → List UInt8
  | 0, _ => []
  | n + 1, v => UInt8.ofNat v :: leBytes n (v / 256)

@[simp] theorem leBytes_length (n v : ℕ) : (leBytes n v).length = n := by
  induction n generalizing v with
  | zero => rfl
  | succ n ih => simp [leBytes, ih]

theorem leValue_leBytes (n v : ℕ) : leValue (leBytes n v) = v % 256 ^ n := by
  induction n generalizing v with
  | zero => simp [leBytes, leValue, Nat.mod_one]
  | succ n ih =>
      have hsplit : v % 256 ^ (n + 1) =
          v % 256 + 256 * (v / 256 % 256 ^ n) := by
        rw [Nat.pow_succ, Nat.mul_comm, Nat.mod_mul]
      simp [leBytes, leValue, ih, hsplit]

theorem leValue_lt (bs : List UInt8) : leValue bs < 256 ^ bs.length := by
  induction bs with
  | nil => exact Nat.one_pos
  | cons b bs ih =>
      have hb := b.toNat_lt
      rw [leValue, List.length_cons, Nat.pow_succ']
      omega

/-- Words of one length are determined by their value. -/
theorem leValue_inj {xs ys : List UInt8} (hlen : xs.length = ys.length)
    (h : leValue xs = leValue ys) : xs = ys := by
  induction xs generalizing ys with
  | nil => exact (List.length_eq_zero_iff.mp hlen.symm).symm
  | cons x xs ih =>
      cases ys with
      | nil => exact absurd hlen (by simp)
      | cons y ys =>
          have hx := x.toNat_lt
          have hy := y.toNat_lt
          simp only [leValue] at h
          have hhead : x.toNat = y.toNat := by omega
          have htail : leValue xs = leValue ys := by omega
          rw [UInt8.toNat_inj.mp hhead, ih (by simpa using hlen) htail]

theorem length_flatMap_range {α : Type*} {g : ℕ → List α} {w : ℕ}
    (hg : ∀ i, (g i).length = w) (n : ℕ) :
    ((List.range n).flatMap g).length = n * w := by
  rw [List.length_flatMap, List.map_congr_left fun i _ => hg i]
  simp

/-- An element of rows of width `w` laid one behind the other. -/
theorem getElem?_flatMap_range {α : Type*} (g : ℕ → List α) {w m j k : ℕ}
    (hg : ∀ i, (g i).length = w) (hj : j < m) (hk : k < w) :
    ((List.range m).flatMap g)[j * w + k]? = (g j)[k]? := by
  have hlen (n : ℕ) : ((List.range n).flatMap g).length = n * w :=
    length_flatMap_range hg n
  induction m with
  | zero => exact absurd hj (Nat.not_lt_zero j)
  | succ m ih =>
      rw [List.range_succ, List.flatMap_append, List.flatMap_singleton]
      rcases Nat.lt_or_ge j m with hlt | hge
      · have hin : j * w + k < m * w := by
          calc j * w + k < j * w + w := Nat.add_lt_add_left hk _
            _ = (j + 1) * w := by rw [Nat.add_mul, Nat.one_mul]
            _ ≤ m * w := Nat.mul_le_mul_right w hlt
        rw [List.getElem?_append_left (by rw [hlen]; exact hin)]
        exact ih hlt
      · obtain rfl : j = m := by omega
        rw [List.getElem?_append_right (by rw [hlen]; omega), hlen,
          Nat.add_sub_cancel_left]

/-! ## Strings in a memory -/

/-- The `n` bytes from `addr` on. -/
def readBytes (f : ℕ → UInt8) : ℕ → ℕ → List UInt8
  | _, 0 => []
  | addr, n + 1 => f addr :: readBytes f (addr + 1) n

@[simp] theorem readBytes_length (f : ℕ → UInt8) (addr n : ℕ) :
    (readBytes f addr n).length = n := by
  induction n generalizing addr with
  | zero => rfl
  | succ n ih => simp [readBytes, ih]

theorem getElem?_readBytes (f : ℕ → UInt8) (addr n i : ℕ) :
    (readBytes f addr n)[i]? = if i < n then some (f (addr + i)) else none := by
  induction n generalizing addr i with
  | zero => simp [readBytes]
  | succ n ih =>
      cases i with
      | zero => simp [readBytes]
      | succ i =>
          have hadd : addr + 1 + i = addr + (i + 1) := by omega
          simp [readBytes, ih, hadd]

/-- A string stored at an address lies there. -/
theorem readBytes_of_getElem? {f : ℕ → UInt8} {addr : ℕ} {xs : List UInt8}
    (h : ∀ i < xs.length, xs[i]? = some (f (addr + i))) :
    readBytes f addr xs.length = xs := by
  refine List.ext_getElem? fun i => ?_
  rw [getElem?_readBytes]
  split
  · rename_i hi
    exact (h i hi).symm
  · rename_i hi
    exact (List.getElem?_eq_none (Nat.not_lt.mp hi)).symm

theorem forall_mem_readBytes {f : ℕ → UInt8} {addr n : ℕ} {p : UInt8 → Prop} :
    (∀ b ∈ readBytes f addr n, p b) ↔ ∀ i < n, p (f (addr + i)) := by
  simp only [List.mem_iff_getElem?, getElem?_readBytes]
  constructor
  · intro h i hi
    exact h _ ⟨i, if_pos hi⟩
  · rintro h b ⟨i, hi⟩
    split at hi
    · rename_i hlt
      rw [← Option.some.inj hi]
      exact h i hlt
    · exact absurd hi.symm (Option.some_ne_none b)

theorem readBytes_add (f : ℕ → UInt8) (addr n m : ℕ) :
    readBytes f addr (n + m) =
      readBytes f addr n ++ readBytes f (addr + n) m := by
  induction n generalizing addr with
  | zero => simp [readBytes]
  | succ n ih =>
      have hnm : n + 1 + m = n + m + 1 := by omega
      have hadd : addr + 1 + n = addr + (n + 1) := by omega
      rw [hnm, readBytes, ih, hadd, readBytes, List.cons_append]

/-- A string read in pieces of `w` bytes, the last of them shorter. -/
theorem flatMap_readBytes (f : ℕ → UInt8) (addr w size k : ℕ) :
    (List.range k).flatMap (fun i =>
      readBytes f (addr + i * w) (min w (size - i * w))) =
        readBytes f addr (min (k * w) size) := by
  induction k with
  | zero => simp [readBytes]
  | succ k ih =>
      have hmul : (k + 1) * w = k * w + w := by ring
      rw [List.range_succ, List.flatMap_append, ih, List.flatMap_singleton]
      rcases Nat.le_total (k * w) size with hle | hge
      · have hsplit : min ((k + 1) * w) size =
            k * w + min w (size - k * w) := by omega
        rw [hsplit, readBytes_add, Nat.min_eq_left hle]
      · have hnone : min w (size - k * w) = 0 := by omega
        have hall : min ((k + 1) * w) size = min (k * w) size := by omega
        rw [hnone, hall, readBytes, List.append_nil]

/-- Reading depends only on the bytes read. -/
theorem readBytes_congr {f g : ℕ → UInt8} {addr n : ℕ}
    (h : ∀ x, addr ≤ x → x < addr + n → f x = g x) :
    readBytes f addr n = readBytes g addr n := by
  induction n generalizing addr with
  | zero => rfl
  | succ n ih =>
      have hhead : f addr = g addr := h addr (by omega) (by omega)
      have htail : readBytes f (addr + 1) n = readBytes g (addr + 1) n := by
        apply ih
        intro x hlo hhi
        exact h x (by omega) (by omega)
      rw [readBytes, readBytes, hhead, htail]

theorem readBytes_shift (f : ℕ → UInt8) (k addr n : ℕ) :
    readBytes (fun i => f (k + i)) addr n = readBytes f (k + addr) n := by
  induction n generalizing addr with
  | zero => rfl
  | succ n ih => rw [readBytes, readBytes, ih, Nat.add_assoc]

/-- A string tells the bytes read. -/
theorem readBytes_inj {f g : ℕ → UInt8} {addr n i : ℕ}
    (h : readBytes f addr n = readBytes g addr n) (hlo : addr ≤ i)
    (hhi : i < addr + n) : f i = g i := by
  have hi := congrArg (fun xs => xs[i - addr]?) h
  simp only [getElem?_readBytes] at hi
  rw [if_pos (by omega), if_pos (by omega), Nat.add_sub_cancel' hlo] at hi
  exact Option.some.inj hi

/-- The big-endian 16-bit word at `addr`. -/
def be16 (f : ℕ → UInt8) (addr : ℕ) : ℕ :=
  (f addr).toNat * 256 + (f (addr + 1)).toNat

/-- The big-endian 32-bit word at `addr`. -/
def be32 (f : ℕ → UInt8) (addr : ℕ) : ℕ :=
  (f addr).toNat * 16777216 + (f (addr + 1)).toNat * 65536 +
    (f (addr + 2)).toNat * 256 + (f (addr + 3)).toNat

theorem be32_lt (f : ℕ → UInt8) (a : ℕ) : be32 f a < 256 ^ 4 := by
  have h0 := (f a).toNat_lt
  have h1 := (f (a + 1)).toNat_lt
  have h2 := (f (a + 2)).toNat_lt
  have h3 := (f (a + 3)).toNat_lt
  rw [be32]
  omega

/-- The four bytes of a word, most significant first. -/
def beBytes4 (v : ℕ) : List UInt8 := (leBytes 4 v).reverse

@[simp] theorem beBytes4_length (v : ℕ) : (beBytes4 v).length = 4 := by
  rw [beBytes4, List.length_reverse, leBytes_length]

theorem be32_eq_leValue (f : ℕ → UInt8) (addr : ℕ) :
    be32 f addr = leValue (readBytes f addr 4).reverse := by
  simp only [be32, readBytes, leValue, List.reverse_cons, List.reverse_nil,
    List.nil_append, List.cons_append, Nat.add_assoc, Nat.reduceAdd]
  ring

/-- A word has a value exactly if its bytes are those of the value. -/
theorem be32_eq_iff {v : ℕ} (hv : v < 4294967296) (f : ℕ → UInt8) (addr : ℕ) :
    be32 f addr = v ↔ readBytes f addr 4 = beBytes4 v := by
  have hvalue : leValue (leBytes 4 v) = v := by
    rw [leValue_leBytes]
    exact Nat.mod_eq_of_lt hv
  rw [be32_eq_leValue, beBytes4]
  constructor
  · intro h
    have hlen : (readBytes f addr 4).reverse.length = (leBytes 4 v).length := by
      rw [List.length_reverse, readBytes_length, leBytes_length]
    rw [← leValue_inj hlen (h.trans hvalue.symm), List.reverse_reverse]
  · intro h
    rw [h, List.reverse_reverse]
    exact hvalue

theorem beBytes4_be32 (f : ℕ → UInt8) (addr : ℕ) :
    beBytes4 (be32 f addr) = readBytes f addr 4 :=
  ((be32_eq_iff (be32_lt f addr) f addr).mp rfl).symm

theorem beBytes4_inj {v w : ℕ} (hv : v < 4294967296) (hw : w < 4294967296)
    (h : beBytes4 v = beBytes4 w) : v = w := by
  have hbytes : leBytes 4 v = leBytes 4 w := List.reverse_injective h
  have hvalue := congrArg leValue hbytes
  rw [leValue_leBytes, leValue_leBytes] at hvalue
  omega

/-- The memory with a string stored from its first byte on. -/
def overlay (f : ℕ → UInt8) (xs : List UInt8) : ℕ → UInt8 :=
  fun i => (xs[i]?).getD (f i)

end VehicleRecorder.Bytes
