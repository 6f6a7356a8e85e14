import VehicleRecorder.Lib.Bytes

/-!
# NOR flash

A NOR flash cell array understands two commands.  Programming a byte can only
clear bits, so the new content is the bitwise AND of the old content and the
operand; erasing restores every byte of the erase sector that contains the
given address to `0xFF`.

The module fixes neither the sector size nor the size of the part: a flash is
a total function from addresses to bytes, and the sector size is a parameter.
The facts below are those a driver proof needs: which bytes a command can
reach, that everything else is framed, and that bytes programmed into an
erased range read back unchanged.
-/

namespace VehicleRecorder.NorFlash

open Bytes

/-- The content of the cell array. -/
abbrev Flash := ℕ → UInt8

/-- The part as it leaves the factory. -/
def blank : Flash := fun _ => 0xFF

/-- One command on the bus. -/
inductive Cmd
  | program (addr : ℕ) (byte : UInt8)
  | erase (addr : ℕ)
  deriving DecidableEq, Repr

variable (size : ℕ)

/-- The effect of one command; `size` is the number of bytes of an erase
sector. -/
def exec (f : Flash) : Cmd → Flash
  | .program addr byte => fun x => if x = addr then f x &&& byte else f x
  | .erase addr => fun x => if x / size = addr / size then 0xFF else f x

/-- The effect of a sequence of commands. -/
def execAll (f : Flash) (cmds : List Cmd) : Flash :=
  cmds.foldl (exec size) f

/-- `c.Touches size x` when command `c` may change byte `x`. -/
def Cmd.Touches : Cmd → ℕ → Prop
  | .program addr _, x => x = addr
  | .erase addr, x => x / size = addr / size

instance (c : Cmd) (x : ℕ) : Decidable (c.Touches size x) :=
  match c with
  | .program addr _ => inferInstanceAs (Decidable (x = addr))
  | .erase addr => inferInstanceAs (Decidable (x / size = addr / size))

/-- No command of the sequence may change byte `x`. -/
def Untouched (cmds : List Cmd) (x : ℕ) : Prop :=
  ∀ c ∈ cmds, ¬ c.Touches size x

instance (cmds : List Cmd) (x : ℕ) : Decidable (Untouched size cmds x) :=
  inferInstanceAs (Decidable (∀ c ∈ cmds, ¬ c.Touches size x))

/-- The commands that program consecutive bytes from `addr` on. -/
def programBytes : ℕ → List UInt8 → List Cmd
  | _, [] => []
  | addr, b :: bs => .program addr b :: programBytes (addr + 1) bs

/-- The `n` bytes from `addr` on are all erased. -/
def Erased (f : Flash) (addr n : ℕ) : Prop :=
  ∀ x, addr ≤ x → x < addr + n → f x = 0xFF

/-- An erased byte takes whatever is programmed. -/
@[simp] theorem erased_and (b : UInt8) : 0xFF &&& b = b :=
  UInt8.neg_one_and

/-! ## Framing -/

@[simp] theorem execAll_nil (f : Flash) : execAll size f [] = f := rfl

@[simp] theorem execAll_cons (f : Flash) (c : Cmd) (cmds : List Cmd) :
    execAll size f (c :: cmds) = execAll size (exec size f c) cmds := rfl

theorem execAll_append (f : Flash) (xs ys : List Cmd) :
    execAll size f (xs ++ ys) = execAll size (execAll size f xs) ys :=
  List.foldl_append

theorem exec_of_not_touches {f : Flash} {c : Cmd} {x : ℕ}
    (h : ¬ c.Touches size x) : exec size f c x = f x := by
  cases c with
  | program addr byte => exact if_neg h
  | erase addr => exact if_neg h

theorem untouched_nil (x : ℕ) : Untouched size [] x := by
  intro c hc
  exact absurd hc List.not_mem_nil

theorem untouched_append {xs ys : List Cmd} {x : ℕ} :
    Untouched size (xs ++ ys) x ↔
      Untouched size xs x ∧ Untouched size ys x :=
  List.forall_mem_append

theorem untouched_cons {c : Cmd} {cmds : List Cmd} {x : ℕ} :
    Untouched size (c :: cmds) x ↔
      ¬ c.Touches size x ∧ Untouched size cmds x :=
  List.forall_mem_cons

/-- A byte no command touches keeps its content. -/
theorem execAll_of_untouched {f : Flash} {cmds : List Cmd} {x : ℕ}
    (h : Untouched size cmds x) : execAll size f cmds x = f x := by
  induction cmds generalizing f with
  | nil => rfl
  | cons c cmds ih =>
      rw [untouched_cons] at h
      rw [execAll_cons, ih h.2, exec_of_not_touches size h.1]

/-- The content of a byte depends on its own content before. -/
theorem execAll_congr_at {f g : Flash} {x : ℕ} (h : f x = g x)
    (cmds : List Cmd) : execAll size f cmds x = execAll size g cmds x := by
  induction cmds generalizing f g with
  | nil => exact h
  | cons c cmds ih =>
      apply ih
      cases c <;> simp [exec, h]

/-- Of several command sequences carried out one after the other, only one
reaches the byte. -/
theorem execAll_flatMap_range (f : Flash) (g : ℕ → List Cmd) {n j x : ℕ}
    (hj : j < n) (h : ∀ i < n, i ≠ j → Untouched size (g i) x) :
    execAll size f ((List.range n).flatMap g) x = execAll size f (g j) x := by
  have hbefore (m : ℕ) (hm : m ≤ j) :
      execAll size f ((List.range m).flatMap g) x = f x := by
    apply execAll_of_untouched
    intro c hc
    obtain ⟨i, hi, hc⟩ := List.mem_flatMap.mp hc
    have hi : i < m := List.mem_range.mp hi
    exact h i (by omega) (by omega) c hc
  induction n with
  | zero => exact absurd hj (Nat.not_lt_zero j)
  | succ n ih =>
      rw [List.range_succ, List.flatMap_append, execAll_append,
        List.flatMap_singleton]
      rcases Nat.lt_or_ge j n with hlt | hge
      · rw [execAll_of_untouched size (h n (by omega) (by omega))]
        exact ih hlt fun i hi => h i (by omega)
      · obtain rfl : j = n := by omega
        exact execAll_congr_at size (hbefore j (Nat.le_refl j)) _

/-! ## Reading -/

theorem readBytes_of_untouched {f : Flash} {cmds : List Cmd} {addr n : ℕ}
    (h : ∀ x, addr ≤ x → x < addr + n → Untouched size cmds x) :
    readBytes (execAll size f cmds) addr n = readBytes f addr n := by
  apply readBytes_congr
  intro x hlo hhi
  exact execAll_of_untouched size (h x hlo hhi)

/-! ## Programming a range -/

theorem mem_programBytes {addr : ℕ} {bs : List UInt8} {c : Cmd}
    (h : c ∈ programBytes addr bs) :
    ∃ x b, c = .program x b ∧ addr ≤ x ∧ x < addr + bs.length := by
  induction bs generalizing addr with
  | nil => exact absurd h List.not_mem_nil
  | cons b bs ih =>
      rcases List.mem_cons.mp h with rfl | h
      · exact ⟨addr, b, rfl, Nat.le_refl addr, by simp⟩
      · obtain ⟨x, b', rfl, hlo, hhi⟩ := ih h
        refine ⟨x, b', rfl, by omega, ?_⟩
        rw [List.length_cons]
        omega

/-- Programming a range leaves everything outside it alone. -/
theorem untouched_programBytes {addr : ℕ} {bs : List UInt8} {x : ℕ}
    (h : x < addr ∨ addr + bs.length ≤ x) :
    Untouched size (programBytes addr bs) x := by
  intro c hc
  obtain ⟨y, b, rfl, hlo, hhi⟩ := mem_programBytes hc
  intro hxy
  have hxy : x = y := hxy
  omega

/-- Programming a range touches every byte of it. -/
theorem untouched_programBytes_iff {addr : ℕ} {bs : List UInt8} {x : ℕ} :
    Untouched size (programBytes addr bs) x ↔
      x < addr ∨ addr + bs.length ≤ x := by
  refine ⟨?_, untouched_programBytes size⟩
  induction bs generalizing addr with
  | nil =>
      intro _
      exact Nat.lt_or_ge x addr
  | cons b bs ih =>
      intro h
      rw [programBytes, untouched_cons] at h
      have hne : x ≠ addr := h.1
      rw [List.length_cons]
      rcases ih h.2 with hlo | hhi <;> omega

/-- A programmed byte holds the AND of its old content and the operand. -/
theorem execAll_programBytes {f : Flash} {addr : ℕ} {bs : List UInt8} {i : ℕ}
    (hi : i < bs.length) :
    execAll size f (programBytes addr bs) (addr + i) =
      f (addr + i) &&& bs[i] := by
  induction bs generalizing f addr i with
  | nil => exact absurd hi (Nat.not_lt_zero i)
  | cons b bs ih =>
      cases i with
      | zero =>
          have hrest : Untouched size (programBytes (addr + 1) bs) addr :=
            untouched_programBytes size (Or.inl (Nat.lt_succ_self addr))
          rw [Nat.add_zero, programBytes, execAll_cons,
            execAll_of_untouched size hrest]
          simp [exec]
      | succ i =>
          have hadd : addr + (i + 1) = addr + 1 + i := by omega
          have hne : addr + 1 + i ≠ addr := by omega
          rw [programBytes, execAll_cons, hadd, ih (by simpa using hi)]
          simp [exec, hne]

/-- What programming a range does to a byte. -/
def operand (addr : ℕ) (bs : List UInt8) (x : ℕ) : UInt8 :=
  if addr ≤ x then (bs[x - addr]?).getD 0xFF else 0xFF

theorem and_erased (b : UInt8) : b &&& 0xFF = b := UInt8.and_neg_one

/-- Programming a range is the AND with its operand. -/
theorem execAll_programBytes_apply (f : Flash) (addr : ℕ) (bs : List UInt8)
    (x : ℕ) :
    execAll size f (programBytes addr bs) x = f x &&& operand addr bs x := by
  by_cases hin : addr ≤ x ∧ x - addr < bs.length
  · obtain ⟨hlo, hlt⟩ := hin
    have hx : addr + (x - addr) = x := Nat.add_sub_cancel' hlo
    have h : execAll size f (programBytes addr bs) (addr + (x - addr)) = _ :=
      execAll_programBytes size hlt
    rw [hx] at h
    rw [h, operand, if_pos hlo, List.getElem?_eq_getElem hlt, Option.getD_some]
  · have hout : operand addr bs x = 0xFF := by
      rw [operand]
      split
      · rw [List.getElem?_eq_none (by omega), Option.getD_none]
      · rfl
    rw [hout, and_erased,
      execAll_of_untouched size (untouched_programBytes size (by omega))]

/-- Bytes programmed into an erased range read back as they were given. -/
theorem readBytes_programBytes {f : Flash} {addr : ℕ} {bs : List UInt8}
    (h : Erased f addr bs.length) :
    readBytes (execAll size f (programBytes addr bs)) addr bs.length = bs := by
  refine readBytes_of_getElem? fun i hi => ?_
  rw [execAll_programBytes size hi, h _ (by omega) (by omega),
    List.getElem?_eq_getElem hi, erased_and]

/-- Every bit that the bytes set is set in the flash. -/
def Fits (f : Flash) (addr : ℕ) (bs : List UInt8) : Prop :=
  ∀ i b, bs[i]? = some b → f (addr + i) &&& b = b

theorem Erased.fits {f : Flash} {addr : ℕ} {bs : List UInt8}
    (h : Erased f addr bs.length) : Fits f addr bs := by
  intro i b hi
  have hlt := (List.getElem?_eq_some_iff.mp hi).1
  rw [h _ (Nat.le_add_right addr i) (Nat.add_lt_add_left hlt addr), erased_and]

/-- Programmed bytes read back as they were given exactly if every bit that they
set was set before. -/
theorem readBytes_eq_iff_fits {f g : Flash} {addr : ℕ} {bs : List UInt8}
    (h : ∀ i b, bs[i]? = some b → g (addr + i) = f (addr + i) &&& b) :
    readBytes g addr bs.length = bs ↔ Fits f addr bs := by
  constructor
  · intro hread i b hi
    have hlt := (List.getElem?_eq_some_iff.mp hi).1
    have hget := getElem?_readBytes g addr bs.length i
    rw [hread, hi, if_pos hlt, h i b hi] at hget
    exact (Option.some.inj hget).symm
  · intro hfits
    refine readBytes_of_getElem? fun i hi => ?_
    have hget := List.getElem?_eq_getElem hi
    rw [h i _ hget, hfits i _ hget, hget]

/-! ## Erasing -/

theorem exec_erase_of_div_eq {f : Flash} {addr x : ℕ}
    (h : x / size = addr / size) : exec size f (.erase addr) x = 0xFF :=
  if_pos h

/-- Sectors erased one after the other. -/
theorem execAll_erases {size : ℕ} (hsize : 0 < size) (f : Flash) (b n x : ℕ) :
    execAll size f ((List.range n).map fun i => .erase ((b + i) * size)) x =
      if b ≤ x / size ∧ x / size < b + n then 0xFF else f x := by
  induction n with
  | zero =>
      have hno : ¬ (b ≤ x / size ∧ x / size < b + 0) := by omega
      rw [if_neg hno, List.range_zero, List.map_nil, execAll_nil]
  | succ n ih =>
      rw [List.range_succ, List.map_append, execAll_append, List.map_singleton,
        execAll_cons, execAll_nil, exec]
      dsimp only
      rw [ih, Nat.mul_div_cancel _ hsize]
      by_cases hlast : x / size = b + n
      · rw [if_pos hlast, if_pos (by omega)]
      · rw [if_neg hlast]
        congr 1
        simp only [eq_iff_iff]
        omega

theorem Erased.mono {f : Flash} {addr n addr' n' : ℕ} (h : Erased f addr n)
    (hlo : addr ≤ addr') (hhi : addr' + n' ≤ addr + n) :
    Erased f addr' n' := by
  intro x hx hx'
  exact h x (by omega) (by omega)

/-- A range untouched by a command sequence stays erased. -/
theorem Erased.of_untouched {f : Flash} {cmds : List Cmd} {addr n : ℕ}
    (h : Erased f addr n)
    (hu : ∀ x, addr ≤ x → x < addr + n → Untouched size cmds x) :
    Erased (execAll size f cmds) addr n := by
  intro x hlo hhi
  rw [execAll_of_untouched size (hu x hlo hhi)]
  exact h x hlo hhi

/-- An erase erases no less. -/
theorem Erased.erase {f : Flash} {addr n : ℕ} (h : Erased f addr n) (a : ℕ) :
    Erased (exec size f (.erase a)) addr n := by
  intro x hlo hhi
  by_cases hx : x / size = a / size
  · exact exec_erase_of_div_eq size hx
  · exact (if_neg hx).trans (h x hlo hhi)

theorem readBytes_of_erased {f : Flash} {addr n : ℕ} (h : Erased f addr n) :
    readBytes f addr n = List.replicate n 0xFF := by
  induction n generalizing addr with
  | zero => rfl
  | succ n ih =>
      have hhead : f addr = 0xFF := h addr (Nat.le_refl addr) (by omega)
      have htail : Erased f (addr + 1) n := h.mono (by omega) (by omega)
      rw [readBytes, hhead, ih htail, List.replicate_succ]

end VehicleRecorder.NorFlash
