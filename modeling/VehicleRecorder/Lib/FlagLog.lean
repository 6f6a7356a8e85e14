import VehicleRecorder.Lib.NorFlash

/-!
# A wear-levelled slot log on NOR flash

One erase sector holds a head of flag bytes followed by as many content slots.
A commit marks the first unused flag and fills the slot of the same index; when
every flag is used the sector is erased and filling starts over.  The last
committed content is found again by counting flags.

The layout is a parameter.  `Filled` is the invariant of a completed log:
exactly the first `n` flags are used, and everything behind them is erased.
The last part follows a commit that is cut short after some of its commands.
-/

namespace VehicleRecorder.FlagLog

open NorFlash Bytes

/-- Layout of a log inside one erase sector of `size` bytes: `slots` flag bytes
from `head` on, and behind them `slots` slots of `width` bytes each. -/
structure Layout where
  size : ℕ
  head : ℕ
  slots : ℕ
  width : ℕ
  slotAddr : ℕ → ℕ
  flag : UInt8
  slots_pos : 0 < slots
  flag_ne : flag ≠ 0xFF
  flag_sector : ∀ i < slots, (head + i) / size = head / size
  slot_sector : ∀ i < slots, ∀ x, slotAddr i ≤ x → x < slotAddr i + width →
    x / size = head / size
  flag_slot : ∀ i < slots, head + slots ≤ slotAddr i
  slot_slot : ∀ i j, i < j → j < slots → slotAddr i + width ≤ slotAddr j

variable (g : Layout)

/-- The number of leading flags that are used, as a scan of the head finds it. -/
def used (f : Flash) : ℕ :=
  (readBytes f g.head g.slots).findIdx (· == 0xFF)

/-- The commands that mark flag `i` and fill its slot. -/
def fillSlot (i : ℕ) (bs : List UInt8) : List Cmd :=
  .program (g.head + i) g.flag :: programBytes (g.slotAddr i) bs

/-- The commands of one commit. -/
def commit (f : Flash) (bs : List UInt8) : List Cmd :=
  if used g f = g.slots then .erase g.head :: fillSlot g 0 bs
  else fillSlot g (used g f) bs

/-- The content of the last used slot. -/
def latest (f : Flash) : List UInt8 :=
  readBytes f (g.slotAddr (used g f - 1)) g.width

/-- Exactly the first `n` flags are used and what lies behind them is
erased. -/
structure Filled (f : Flash) (n : ℕ) : Prop where
  le : n ≤ g.slots
  flags_used : ∀ i < n, f (g.head + i) = g.flag
  flags_free : ∀ i, n ≤ i → i < g.slots → f (g.head + i) = 0xFF
  slots_free : ∀ i, n ≤ i → i < g.slots → Erased f (g.slotAddr i) g.width

/-- The number of used flags after one more commit. -/
def advance (n : ℕ) : ℕ := if n = g.slots then 1 else n + 1

/-! ## Reading a filled log -/

theorem used_of_filled {f : Flash} {n : ℕ} (h : Filled g f n) :
    used g f = n := by
  have hle := h.le
  unfold used
  by_cases hn : n < g.slots
  · rw [List.findIdx_eq (by simpa using hn)]
    constructor
    · have hget := getElem?_readBytes f g.head g.slots n
      rw [if_pos hn, List.getElem?_eq_getElem (by simpa using hn)] at hget
      rw [Option.some.inj hget, h.flags_free n (Nat.le_refl n) hn]
      decide
    · intro i hi
      have hget := getElem?_readBytes f g.head g.slots i
      rw [if_pos (by omega),
        List.getElem?_eq_getElem (by simp; omega)] at hget
      rw [Option.some.inj hget, h.flags_used i hi]
      simpa using g.flag_ne
  · have hall : ∀ b ∈ readBytes f g.head g.slots, (b == 0xFF) = false := by
      intro b hb
      obtain ⟨i, hi⟩ := List.mem_iff_getElem?.mp hb
      rw [getElem?_readBytes] at hi
      split at hi
      · rename_i his
        rw [← Option.some.inj hi, h.flags_used i (by omega)]
        simpa using g.flag_ne
      · exact absurd hi (by simp)
    rw [List.findIdx_eq_length.mpr hall, readBytes_length]
    omega

theorem filled_zero_of_erased {f : Flash}
    (h : ∀ x, x / g.size = g.head / g.size → f x = 0xFF) :
    Filled g f 0 where
  le := Nat.zero_le _
  flags_used := by
    intro i hi
    exact absurd hi (Nat.not_lt_zero i)
  flags_free := by
    intro i _ hi
    exact h _ (g.flag_sector i hi)
  slots_free := by
    intro i _ hi x hlo hhi
    exact h x (g.slot_sector i hi x hlo hhi)

/-- Commands that stay out of the sector leave the log as it is. -/
theorem Filled.of_untouched {f : Flash} {n : ℕ} {cmds : List Cmd}
    (h : Filled g f n)
    (hu : ∀ x, x / g.size = g.head / g.size → Untouched g.size cmds x) :
    Filled g (execAll g.size f cmds) n where
  le := h.le
  flags_used := by
    intro i hi
    have hle := h.le
    rw [execAll_of_untouched g.size (hu _ (g.flag_sector i (by omega)))]
    exact h.flags_used i hi
  flags_free := by
    intro i hni hi
    rw [execAll_of_untouched g.size (hu _ (g.flag_sector i hi))]
    exact h.flags_free i hni hi
  slots_free := by
    intro i hni hi
    apply (h.slots_free i hni hi).of_untouched
    intro x hlo hhi
    exact hu x (g.slot_sector i hi x hlo hhi)

theorem slot_of_untouched {f : Flash} {cmds : List Cmd} {i : ℕ}
    (hi : i < g.slots)
    (hu : ∀ x, x / g.size = g.head / g.size → Untouched g.size cmds x) :
    readBytes (execAll g.size f cmds) (g.slotAddr i) g.width =
      readBytes f (g.slotAddr i) g.width := by
  apply readBytes_of_untouched
  intro x hlo hhi
  exact hu x (g.slot_sector i hi x hlo hhi)

theorem latest_of_filled {f : Flash} {n : ℕ} (h : Filled g f (n + 1)) :
    latest g f = readBytes f (g.slotAddr n) g.width := by
  rw [latest, used_of_filled g h, Nat.add_sub_cancel]

theorem latest_of_untouched {f : Flash} {n : ℕ} {cmds : List Cmd}
    (h : Filled g f (n + 1))
    (hu : ∀ x, x / g.size = g.head / g.size → Untouched g.size cmds x) :
    latest g (execAll g.size f cmds) = latest g f := by
  rw [latest_of_filled g h, latest_of_filled g (h.of_untouched g hu)]
  exact slot_of_untouched g h.le hu

theorem filled_zero_of_erase (f : Flash) :
    Filled g (exec g.size f (.erase g.head)) 0 := by
  apply filled_zero_of_erased
  intro x hx
  exact exec_erase_of_div_eq g.size hx

/-! ## Filling a slot -/

theorem untouched_fillSlot {i x : ℕ} {bs : List UInt8} (hflag : x ≠ g.head + i)
    (hslot : x < g.slotAddr i ∨ g.slotAddr i + bs.length ≤ x) :
    Untouched g.size (fillSlot g i bs) x := by
  rw [fillSlot, untouched_cons]
  exact ⟨hflag, untouched_programBytes g.size hslot⟩

/-- Filling the first unused slot, completely or with only a leading part of
its content, uses one more flag. -/
theorem Filled.fillSlot {f : Flash} {n : ℕ} {bs : List UInt8}
    (h : Filled g f n) (hn : n < g.slots) (hbs : bs.length ≤ g.width) :
    Filled g (execAll g.size f (fillSlot g n bs)) (n + 1) where
  le := hn
  flags_used := by
    intro i hi
    have hbehind := g.flag_slot n hn
    by_cases hin : i = n
    · subst hin
      have hslot : Untouched g.size (programBytes (g.slotAddr i) bs)
          (g.head + i) :=
        untouched_programBytes g.size (Or.inl (by omega))
      rw [FlagLog.fillSlot, execAll_cons, execAll_of_untouched g.size hslot]
      simp [exec, h.flags_free i (Nat.le_refl i) hn]
    · rw [execAll_of_untouched g.size
        (untouched_fillSlot g (by omega) (Or.inl (by omega)))]
      exact h.flags_used i (by omega)
  flags_free := by
    intro i hni hi
    have hbehind := g.flag_slot n hn
    rw [execAll_of_untouched g.size
      (untouched_fillSlot g (by omega) (Or.inl (by omega)))]
    exact h.flags_free i (by omega) hi
  slots_free := by
    intro i hni hi
    apply (h.slots_free i (by omega) hi).of_untouched
    intro x hlo _
    have hbehind := g.flag_slot i hi
    have hafter := g.slot_slot n i (by omega) hi
    exact untouched_fillSlot g (by omega) (Or.inr (by omega))

theorem slot_fillSlot {f : Flash} {n : ℕ} {bs : List UInt8}
    (h : Filled g f n) (hn : n < g.slots) (hbs : bs.length ≤ g.width) :
    readBytes (execAll g.size f (fillSlot g n bs)) (g.slotAddr n) g.width =
      bs ++ List.replicate (g.width - bs.length) 0xFF := by
  have hbehind := g.flag_slot n hn
  have hflag : ∀ x, g.slotAddr n ≤ x → x < g.slotAddr n + g.width →
      Untouched g.size [.program (g.head + n) g.flag] x := by
    intro x hlo _ c hc
    obtain rfl := List.mem_singleton.mp hc
    intro htouch
    have htouch : x = g.head + n := htouch
    omega
  have herased := (h.slots_free n (Nat.le_refl n) hn).of_untouched g.size hflag
  have hwidth : g.width = bs.length + (g.width - bs.length) := by omega
  have hrest : Erased (execAll g.size
        (execAll g.size f [.program (g.head + n) g.flag])
        (programBytes (g.slotAddr n) bs))
      (g.slotAddr n + bs.length) (g.width - bs.length) := by
    apply (herased.mono (by omega) (by omega)).of_untouched
    intro x hlo _
    exact untouched_programBytes g.size (Or.inr hlo)
  rw [hwidth, readBytes_add, ← hwidth]
  congr 1
  · exact readBytes_programBytes g.size
      (herased.mono (Nat.le_refl _) (by omega))
  · exact readBytes_of_erased hrest

/-! ## Commits -/

/-- A commit uses one more flag, or the first one of the erased sector. -/
theorem Filled.commit {f : Flash} {n : ℕ} {bs : List UInt8}
    (h : Filled g f n) (hbs : bs.length ≤ g.width) :
    Filled g (execAll g.size f (commit g f bs)) (advance g n) := by
  have hle := h.le
  rw [FlagLog.commit, used_of_filled g h, advance]
  by_cases hn : n = g.slots
  · rw [if_pos hn, if_pos hn, execAll_cons]
    exact (filled_zero_of_erase g f).fillSlot g g.slots_pos hbs
  · rw [if_neg hn, if_neg hn]
    exact h.fillSlot g (by omega) hbs

/-- After a commit the last used slot holds what was committed. -/
theorem latest_commit {f : Flash} {n : ℕ} {bs : List UInt8}
    (h : Filled g f n) (hbs : bs.length = g.width) :
    latest g (execAll g.size f (commit g f bs)) = bs := by
  have hle := h.le
  have hpad : bs ++ List.replicate (g.width - bs.length) 0xFF = bs := by
    simp [hbs]
  rw [latest, used_of_filled g (h.commit g (Nat.le_of_eq hbs)), advance,
    FlagLog.commit, used_of_filled g h]
  by_cases hn : n = g.slots
  · rw [if_pos hn, if_pos hn, execAll_cons]
    exact (slot_fillSlot g (filled_zero_of_erase g f) g.slots_pos
      (Nat.le_of_eq hbs)).trans hpad
  · rw [if_neg hn, if_neg hn]
    exact (slot_fillSlot g h (by omega) (Nat.le_of_eq hbs)).trans hpad

theorem used_le (f : Flash) : used g f ≤ g.slots := by
  have hle : used g f ≤ (readBytes f g.head g.slots).length :=
    List.findIdx_le_length
  rwa [readBytes_length] at hle

/-- A commit stays inside its sector, whatever the sector holds. -/
theorem untouched_commit {f : Flash} {x : ℕ} {bs : List UInt8}
    (hbs : bs.length ≤ g.width) (hx : x / g.size ≠ g.head / g.size) :
    Untouched g.size (commit g f bs) x := by
  have hle := used_le g f
  have hfill : ∀ i < g.slots, Untouched g.size (fillSlot g i bs) x := by
    intro i hi
    apply untouched_fillSlot g
    · rintro rfl
      exact hx (g.flag_sector i hi)
    · by_cases hlo : x < g.slotAddr i
      · exact Or.inl hlo
      · refine Or.inr ?_
        by_contra hhi
        exact hx (g.slot_sector i hi x (by omega) (by omega))
  unfold FlagLog.commit
  by_cases hn : used g f = g.slots
  · rw [if_pos hn, untouched_cons]
    exact ⟨hx, hfill 0 g.slots_pos⟩
  · rw [if_neg hn]
    exact hfill _ (by omega)

theorem advance_count (c : ℕ) :
    advance g (c % g.slots + 1) = (c + 1) % g.slots + 1 := by
  have hpos := g.slots_pos
  have hlt := Nat.mod_lt c hpos
  unfold advance
  rw [Nat.add_mod c 1]
  by_cases hroll : c % g.slots + 1 = g.slots
  · rw [if_pos hroll]
    by_cases hone : g.slots = 1
    · rw [hone, Nat.mod_one]
    · rw [Nat.mod_eq_of_lt (show 1 < g.slots by omega), hroll, Nat.mod_self]
  · rw [if_neg hroll, Nat.mod_eq_of_lt (show 1 < g.slots by omega),
      Nat.mod_eq_of_lt (show c % g.slots + 1 < g.slots by omega)]

/-- The number of used flags after `c` commits to an erased sector. -/
def usedAfter : ℕ → ℕ
  | 0 => 0
  | c + 1 => c % g.slots + 1

theorem advance_usedAfter (c : ℕ) :
    advance g (usedAfter g c) = usedAfter g (c + 1) := by
  have hpos := g.slots_pos
  cases c with
  | zero =>
      have hne : 0 ≠ g.slots := by omega
      simp [usedAfter, advance, hne]
  | succ c => exact advance_count g c

/-! ## A commit cut short -/

/-- The content of a slot of which only the first `j` bytes were programmed. -/
def torn (j : ℕ) (bs : List UInt8) : List UInt8 :=
  bs.take j ++ List.replicate (bs.length - j) 0xFF

theorem take_programBytes (j addr : ℕ) (bs : List UInt8) :
    (programBytes addr bs).take j = programBytes addr (bs.take j) := by
  induction bs generalizing j addr with
  | nil => simp [programBytes]
  | cons b bs ih =>
      cases j with
      | zero => simp [programBytes]
      | succ j => simp [programBytes, ih]

theorem take_fillSlot (j i : ℕ) (bs : List UInt8) :
    (fillSlot g i bs).take (j + 1) = fillSlot g i (bs.take j) := by
  rw [fillSlot, List.take_succ_cons, take_programBytes, fillSlot]

theorem slot_take_fillSlot {f : Flash} {n j : ℕ} {bs : List UInt8}
    (h : Filled g f n) (hn : n < g.slots) (hbs : bs.length = g.width) :
    readBytes (execAll g.size f (fillSlot g n (bs.take j)))
      (g.slotAddr n) g.width = torn j bs := by
  have hlen : (bs.take j).length ≤ g.width := by
    rw [List.length_take]
    omega
  rw [slot_fillSlot g h hn hlen, torn, List.length_take]
  congr 2
  omega

/-- Cut short with flags to spare, the log shows the old content until the
flag is set and a torn slot from then on. -/
theorem filled_take_commit {f : Flash} {n j : ℕ} {bs : List UInt8}
    (h : Filled g f n) (hn : n < g.slots) (hbs : bs.length = g.width) :
    let f' := execAll g.size f ((commit g f bs).take (j + 1))
    Filled g f' (n + 1) ∧
      readBytes f' (g.slotAddr n) g.width = torn j bs := by
  have hlen : (bs.take j).length ≤ g.width := by
    rw [List.length_take]
    omega
  rw [commit, used_of_filled g h, if_neg (by omega), take_fillSlot]
  exact ⟨h.fillSlot g hn hlen, slot_take_fillSlot g h hn hbs⟩

/-- Cut short at the roll-over, the log is first empty and then shows a torn
first slot. -/
theorem filled_take_commit_full {f : Flash} {j : ℕ} {bs : List UInt8}
    (h : Filled g f g.slots) (hbs : bs.length = g.width) :
    execAll g.size f ((commit g f bs).take 1) =
        exec g.size f (.erase g.head) ∧
      let f' := execAll g.size f ((commit g f bs).take (j + 2))
      Filled g f' 1 ∧ readBytes f' (g.slotAddr 0) g.width = torn j bs := by
  have hlen : (bs.take j).length ≤ g.width := by
    rw [List.length_take]
    omega
  have hzero := filled_zero_of_erase g f
  rw [commit, used_of_filled g h, if_pos rfl]
  refine ⟨by simp, ?_⟩
  rw [List.take_succ_cons, take_fillSlot, execAll_cons]
  exact ⟨hzero.fillSlot g g.slots_pos hlen,
    slot_take_fillSlot g hzero g.slots_pos hbs⟩

end VehicleRecorder.FlagLog
