import VehicleRecorder.Lib.NorFlash
import Mathlib.Data.Nat.ModEq
import Mathlib.Algebra.Order.Ring.Nat

/-!
# A ring of record slots on NOR flash

Records are appended to a ring of slots.  The slots are grouped into erase
sectors, and the writer erases a sector when it enters it, so the records
destroyed by one append are those of a whole sector.

Records are numbered from the first one ever written.  Record `k` is *live*
after `n` appends when no later append has entered its sector; the invariant
`Holds` says that every live record reads back and that the rest of the opened
sector is erased.
-/

namespace VehicleRecorder.RingLog

open NorFlash Bytes

/-- Layout of a ring: `sectors` erase sectors with `per` slots of `width` bytes
each.  Slot `i` starts at `slotAddr i` and sector `j` is erased through address
`sectorAddr j`. -/
structure Layout where
  size : ℕ
  per : ℕ
  sectors : ℕ
  width : ℕ
  slotAddr : ℕ → ℕ
  sectorAddr : ℕ → ℕ
  per_pos : 0 < per
  sectors_pos : 0 < sectors
  width_pos : 0 < width
  slot_sector : ∀ i < per * sectors, ∀ x, slotAddr i ≤ x →
    x < slotAddr i + width → x / size = sectorAddr (i / per) / size
  sector_inj : ∀ i < sectors, ∀ j < sectors,
    sectorAddr i / size = sectorAddr j / size → i = j
  slot_slot : ∀ i j, i < j → j < per * sectors →
    slotAddr i + width ≤ slotAddr j

variable (g : Layout)

/-- Where record `k` is stored. -/
def Layout.addrOf (k : ℕ) : ℕ := g.slotAddr (k % (g.per * g.sectors))

/-- Byte `x` belongs to the slot of record `k`. -/
def Layout.InSlot (k x : ℕ) : Prop :=
  g.addrOf k ≤ x ∧ x < g.addrOf k + g.width

/-- The commands that append record number `n`: entering a sector erases it. -/
def appendCmds (n : ℕ) (r : List UInt8) : List Cmd :=
  (if n % g.per = 0 then [.erase (g.sectorAddr (n / g.per % g.sectors))]
    else []) ++ programBytes (g.addrOf n) r

/-- The number of sectors entered by `n` appends. -/
def opened (n : ℕ) : ℕ :=
  if n % g.per = 0 then n / g.per else n / g.per + 1

/-- Record `k` was written and its sector has not been entered again. -/
def Live (n k : ℕ) : Prop := k < n ∧ opened g n ≤ k / g.per + g.sectors

/-- The flash holds the live records of `recs`, and the rest of the opened
sector is erased. -/
structure Holds (f : Flash) (recs : List (List UInt8)) : Prop where
  live : ∀ k r, recs[k]? = some r → Live g recs.length k →
    readBytes f (g.addrOf k) g.width = r
  free : ∀ k, recs.length ≤ k → k / g.per < opened g recs.length →
    Erased f (g.addrOf k) g.width

/-! ## Positions -/

theorem mod_ne_of_lt {k m n : ℕ} (hkm : k < m) (hmk : m < k + n) :
    k % n ≠ m % n := by
  intro h
  have hdvd : n ∣ m - k := (Nat.modEq_iff_dvd' (Nat.le_of_lt hkm)).mp h
  have hle := Nat.le_of_dvd (by omega) hdvd
  omega

theorem lt_add_of_div_lt {k m : ℕ}
    (h : m / g.per < k / g.per + g.sectors) :
    m < k + g.per * g.sectors := by
  have hm : m < g.per * (k / g.per + g.sectors) := by
    rw [Nat.mul_comm]
    exact (Nat.div_lt_iff_lt_mul g.per_pos).mp h
  have hk : g.per * (k / g.per) ≤ k := Nat.mul_div_le k g.per
  rw [Nat.mul_add] at hm
  omega

theorem slots_pos : 0 < g.per * g.sectors :=
  Nat.mul_pos g.per_pos g.sectors_pos

/-- Different records whose sectors are less than a round apart lie in
different slots. -/
theorem addrOf_disjoint {k m : ℕ} (hkm : k < m)
    (h : m / g.per < k / g.per + g.sectors) :
    g.addrOf k + g.width ≤ g.addrOf m ∨ g.addrOf m + g.width ≤ g.addrOf k := by
  have hne := mod_ne_of_lt hkm (lt_add_of_div_lt g h)
  have hk := Nat.mod_lt k (slots_pos g)
  have hm := Nat.mod_lt m (slots_pos g)
  rcases Nat.lt_or_gt_of_ne hne with hlt | hgt
  · exact Or.inl (g.slot_slot _ _ hlt hm)
  · exact Or.inr (g.slot_slot _ _ hgt hk)

/-- The sector a record lies in. -/
theorem inSlot_sector {k x : ℕ} (hx : g.InSlot k x) :
    x / g.size = g.sectorAddr (k / g.per % g.sectors) / g.size := by
  rw [← Nat.mod_mul_right_div_self]
  exact g.slot_sector _ (Nat.mod_lt k (slots_pos g)) x hx.1 hx.2

/-- Erasing the sector record `n` enters reaches exactly the records of that
sector. -/
theorem erase_touches_iff {k n x : ℕ} (hx : g.InSlot k x) :
    (Cmd.erase (g.sectorAddr (n / g.per % g.sectors))).Touches g.size x ↔
      k / g.per % g.sectors = n / g.per % g.sectors := by
  have hk := Nat.mod_lt (k / g.per) g.sectors_pos
  have hn := Nat.mod_lt (n / g.per) g.sectors_pos
  have hsector := inSlot_sector g hx
  constructor
  · intro h
    exact g.sector_inj _ hk _ hn (hsector.symm.trans h)
  · intro h
    rw [← h]
    exact hsector

/-! ## Live records -/

theorem opened_succ (n : ℕ) : opened g (n + 1) = n / g.per + 1 := by
  unfold opened
  by_cases h : (n + 1) % g.per = 0
  · rw [if_pos h, Nat.succ_div_of_dvd (Nat.dvd_of_mod_eq_zero h)]
  · rw [if_neg h, Nat.succ_div_of_not_dvd]
    intro hdvd
    exact h (Nat.mod_eq_zero_of_dvd hdvd)

theorem opened_le (n : ℕ) : opened g n ≤ n / g.per + 1 := by
  unfold opened
  split <;> omega

theorem opened_mono_succ (n : ℕ) : opened g n ≤ opened g (n + 1) := by
  rw [opened_succ]
  exact opened_le g n

/-- The record just appended is live. -/
theorem live_self (n : ℕ) : Live g (n + 1) n := by
  refine ⟨Nat.lt_succ_self n, ?_⟩
  have hpos := g.sectors_pos
  rw [opened_succ]
  omega

theorem live_of_live_succ {n k : ℕ} (h : Live g (n + 1) k) (hk : k < n) :
    Live g n k :=
  ⟨hk, Nat.le_trans (opened_mono_succ g n) h.2⟩

/-- Records behind a live one are live. -/
theorem Live.mono {n k m : ℕ} (h : Live g n k) (hkm : k ≤ m) (hm : m < n) :
    Live g n m := by
  refine ⟨hm, Nat.le_trans h.2 ?_⟩
  have hdiv := Nat.div_le_div_right (c := g.per) hkm
  omega

/-- A record within the capacity less one sector of the writer is live. -/
theorem live_of_backlog {n k : ℕ} (hk : k < n)
    (h : n + g.per ≤ k + g.per * g.sectors) : Live g n k := by
  refine ⟨hk, ?_⟩
  obtain ⟨m, rfl⟩ : ∃ m, n = m + 1 :=
    Nat.exists_eq_succ_of_ne_zero (Nat.ne_of_gt (Nat.zero_lt_of_lt hk))
  rw [opened_succ]
  have hshift : m + g.per < k + g.per * g.sectors := by omega
  have hdiv : (m + g.per) / g.per ≤ (k + g.per * g.sectors) / g.per :=
    Nat.div_le_div_right (Nat.le_of_lt hshift)
  rw [Nat.add_div_right m g.per_pos, Nat.add_mul_div_left k _ g.per_pos] at hdiv
  exact hdiv

/-! ## Appending -/

/-- Appending record `n` leaves the slot of every record alone that is live
afterwards. -/
theorem untouched_append_of_live {n k x : ℕ} {r : List UInt8}
    (hr : r.length ≤ g.width) (hk : k < n) (hlive : Live g (n + 1) k)
    (hx : g.InSlot k x) : Untouched g.size (appendCmds g n r) x := by
  have hsectors := hlive.2
  rw [opened_succ] at hsectors
  rw [appendCmds, untouched_append]
  constructor
  · by_cases hn : n % g.per = 0
    · rw [if_pos hn]
      intro c hc
      obtain rfl := List.mem_singleton.mp hc
      rw [erase_touches_iff g hx]
      apply mod_ne_of_lt _ (by omega)
      -- `n` is the first record of its sector, so an earlier one lies in an
      -- earlier sector.
      rw [Nat.div_lt_iff_lt_mul g.per_pos,
        Nat.div_mul_cancel (Nat.dvd_of_mod_eq_zero hn)]
      exact hk
    · rw [if_neg hn]
      exact untouched_nil g.size x
  · apply untouched_programBytes g.size
    obtain ⟨hlo, hhi⟩ := hx
    rcases addrOf_disjoint g hk (by omega) with h | h <;> omega

/-- An append that ends the life of a record erases its slot. -/
theorem touches_of_not_live_succ {n k x : ℕ} {r : List UInt8}
    (hlive : Live g n k) (hdead : ¬ Live g (n + 1) k) (hx : g.InSlot k x) :
    ¬ Untouched g.size (appendCmds g n r) x := by
  have hopen : ¬ n / g.per + 1 ≤ k / g.per + g.sectors := by
    intro h
    rw [← opened_succ] at h
    exact hdead ⟨Nat.lt_succ_of_lt hlive.1, h⟩
  have hle := hlive.2
  unfold opened at hle
  by_cases hn : n % g.per = 0
  · rw [if_pos hn] at hle
    have heq : n / g.per = k / g.per + g.sectors := by omega
    intro hu
    rw [appendCmds, if_pos hn, untouched_append, untouched_cons] at hu
    apply hu.1.1
    rw [erase_touches_iff g hx, heq, Nat.add_mod_right]
  · rw [if_neg hn] at hle
    exact absurd hle hopen

/-- Entering a sector erases all its slots. -/
theorem erased_of_entered (f : Flash) {n k : ℕ} (hn : n % g.per = 0)
    (hk : k / g.per = n / g.per) :
    Erased (execAll g.size f
        (if n % g.per = 0 then
          [.erase (g.sectorAddr (n / g.per % g.sectors))] else []))
      (g.addrOf k) g.width := by
  intro x hlo hhi
  rw [if_pos hn, execAll_cons, execAll_nil]
  apply exec_erase_of_div_eq
  have htouch := erase_touches_iff g (n := n) (k := k) (x := x) ⟨hlo, hhi⟩
  exact htouch.mpr (by rw [hk])

/-- The slots from the writer's on to the end of the opened sector are erased
once the sector is entered. -/
theorem Holds.entered {f : Flash} {recs : List (List UInt8)}
    (h : Holds g f recs) {k : ℕ} (hk : recs.length ≤ k)
    (hopen : k / g.per < recs.length / g.per + 1) :
    Erased (execAll g.size f
        (if recs.length % g.per = 0 then
          [.erase (g.sectorAddr (recs.length / g.per % g.sectors))] else []))
      (g.addrOf k) g.width := by
  by_cases hn : recs.length % g.per = 0
  · have hdiv := Nat.div_le_div_right (c := g.per) hk
    exact erased_of_entered g f hn (by omega)
  · rw [if_neg hn]
    apply h.free k hk
    rw [opened, if_neg hn]
    exact hopen

/-- One append keeps the invariant. -/
theorem Holds.append {f : Flash} {recs : List (List UInt8)} {r : List UInt8}
    (h : Holds g f recs) (hr : r.length = g.width) :
    Holds g (execAll g.size f (appendCmds g recs.length r)) (recs ++ [r]) where
  live := by
    intro k r' hk hlive
    rw [List.length_append, List.length_singleton] at hlive
    by_cases hlast : k = recs.length
    · subst hlast
      rw [List.getElem?_concat_length, Option.some.injEq] at hk
      subst hk
      have hfree := h.entered g (Nat.le_refl recs.length) (Nat.lt_succ_self _)
      rw [appendCmds, execAll_append, ← hr]
      rw [← hr] at hfree
      exact readBytes_programBytes g.size hfree
    · have hlt : k < recs.length := by
        have hbound := hlive.1
        omega
      rw [List.getElem?_append_left hlt] at hk
      rw [readBytes_of_untouched]
      · exact h.live k r' hk (live_of_live_succ g hlive hlt)
      · intro x hlo hhi
        exact untouched_append_of_live g (Nat.le_of_eq hr) hlt hlive
          ⟨hlo, hhi⟩
  free := by
    intro k hk hopen
    rw [List.length_append, List.length_singleton] at hk hopen
    rw [opened_succ] at hopen
    rw [appendCmds, execAll_append]
    apply (h.entered g (by omega) hopen).of_untouched
    intro x hlo hhi
    apply untouched_programBytes g.size
    have hpos := g.sectors_pos
    rcases addrOf_disjoint g (k := recs.length) (m := k) (by omega)
      (by omega) with hd | hd <;> omega

/-- Commands that stay out of the ring keep the invariant. -/
theorem Holds.of_untouched {f : Flash} {recs : List (List UInt8)}
    {cmds : List Cmd} (h : Holds g f recs)
    (hu : ∀ k x, g.InSlot k x → Untouched g.size cmds x) :
    Holds g (execAll g.size f cmds) recs where
  live := by
    intro k r hk hlive
    rw [readBytes_of_untouched]
    · exact h.live k r hk hlive
    · intro x hlo hhi
      exact hu k x ⟨hlo, hhi⟩
  free := by
    intro k hk hopen
    apply (h.free k hk hopen).of_untouched
    intro x hlo hhi
    exact hu k x ⟨hlo, hhi⟩

/-- A ring nothing was appended to yet, whatever the flash holds. -/
theorem holds_nil (f : Flash) : Holds g f [] where
  live := by
    intro k r hk
    exact absurd hk (by simp)
  free := by
    intro k _ hopen
    simp [opened] at hopen

/-- In the first round an append leaves the slots ahead of it erased. -/
theorem erased_ahead {f : Flash} {n k : ℕ} {r : List UInt8}
    (h : Erased f (g.addrOf k) g.width) (hr : r.length ≤ g.width) (hk : n < k)
    (hround : k < g.per * g.sectors) :
    Erased (execAll g.size f (appendCmds g n r)) (g.addrOf k) g.width := by
  rw [appendCmds, execAll_append]
  have hentered : Erased (execAll g.size f (if n % g.per = 0 then
      [.erase (g.sectorAddr (n / g.per % g.sectors))] else []))
      (g.addrOf k) g.width := by
    split
    · rw [execAll_cons, execAll_nil]
      exact h.erase g.size _
    · exact h
  apply hentered.of_untouched
  intro x hlo hhi
  apply untouched_programBytes g.size
  have hsector : k / g.per < g.sectors := Nat.div_lt_of_lt_mul hround
  rcases addrOf_disjoint g hk (Nat.lt_add_left _ hsector) with hd | hd <;>
    omega

/-- A record whose sector was entered again, but whose slot was not yet
refilled, reads as erased. -/
theorem Holds.erased_of_dead {f : Flash} {recs : List (List UInt8)}
    (h : Holds g f recs) {k : ℕ} (hk : k < recs.length)
    (hdead : ¬ Live g recs.length k)
    (hnot : recs.length ≤ k + g.per * g.sectors) :
    Erased f (g.addrOf k) g.width := by
  have hopen : k / g.per + g.sectors < opened g recs.length := by
    by_contra hle
    exact hdead ⟨hk, Nat.le_of_not_lt hle⟩
  have hfree := h.free (k + g.per * g.sectors) hnot
    (by rwa [Nat.add_mul_div_left k _ g.per_pos])
  rwa [Layout.addrOf, Nat.add_mod_right] at hfree

end VehicleRecorder.RingLog
