import VehicleRecorder.Lib.AtLeastOnce
import VehicleRecorder.Dataflash.CycleStore

/-!
# Runs of the stored-report queue

The writer, the status check, the sender, the acknowledgement and the timeout
interleave in any order.  A queue state is the device together with history
variables that no function of the source reads: what was saved and where, what
was handed to the sender, and what was acknowledged.

As long as the writer does not come within a sector of the reader, the queue
refines an at-least-once queue, so the sender gets exactly the saved reports,
in order.
-/

namespace VehicleRecorder.Dataflash

open NorFlash RingLog AtLeastOnce

/-- One call of a function that works on the queue. -/
inductive CycleEvent
  | write (r : List UInt8)
  | chk
  | send
  | update
  | second
  deriving DecidableEq, Repr

/-- The device and the history of the queue. -/
structure CycleQueue where
  dev : Device
  /-- The saved reports, oldest first. -/
  saved : List (List UInt8) := []
  /-- For every saved report its slot, and how many commands the chip had
  received when the save was complete. -/
  stored : List (ℕ × ℕ) := []
  /-- The number of the report last saved to a slot. -/
  owner : ℕ → Option ℕ := fun _ => none
  /-- What was handed to the sender. -/
  handed : List (List UInt8) := []
  /-- The report handed last. -/
  inFlight : Option ℕ := none
  /-- How often `cycle_read` advanced on an acknowledgement. -/
  advanced : ℕ := 0
  /-- The acknowledged reports. -/
  acked : List ℕ := []
  /-- A report was destroyed before its acknowledgement, and none was handed
  over since. -/
  overrun : Bool := false

namespace CycleQueue

/-- The empty queue on erased flash. -/
def initial : CycleQueue := { dev := .initial }

/-- The first byte of a slot. -/
def slotStart (slot : ℕ) : ℕ := cyclePage slot * pageSize + cycleInPageAddr slot

/-- The commands from number `p.2` on leave the 31 bytes of slot `p.1` alone. -/
def Kept (journal : List Cmd) (p : ℕ × ℕ) : Prop :=
  ∀ i < 31, Untouched sectorSize (journal.drop p.2) (slotStart p.1 + i)

instance (journal : List Cmd) (p : ℕ × ℕ) : Decidable (Kept journal p) :=
  inferInstanceAs (Decidable (∀ i < 31, _))

/-- Report `k` still exists: no command since its save touched its bytes. -/
def Intact (q : CycleQueue) (k : ℕ) : Prop :=
  ∃ p ∈ q.stored[k]?, Kept q.dev.chip.journal p

instance (q : CycleQueue) (k : ℕ) : Decidable (q.Intact k) :=
  inferInstanceAs (Decidable (∃ p ∈ q.stored[k]?, Kept q.dev.chip.journal p))

/-- Some unacknowledged report exists in `q` but no longer in `q'`. -/
def Destroys (q q' : CycleQueue) : Prop :=
  ∃ k < q.saved.length, q.Intact k ∧ ¬ q'.Intact k ∧ k ∉ q.acked

instance (q q' : CycleQueue) : Decidable (q.Destroys q') :=
  inferInstanceAs (Decidable (∃ k < _, _))

/-- The history after a successful save at slot `cycle_write`. -/
def recordSave (q : CycleQueue) (d : Device) (r : List UInt8) : CycleQueue :=
  let q' : CycleQueue :=
    { q with
      dev := d
      saved := q.saved ++ [r]
      stored := q.stored ++ [(q.dev.cycleWrite, d.chip.journal.length)]
      owner := Function.update q.owner q.dev.cycleWrite (some q.saved.length) }
  { q' with overrun := q.overrun || decide (q.Destroys q') }

/-- One event. -/
def step (q : CycleQueue) : CycleEvent → CycleQueue
  | .write r =>
      match apiCycleWrite q.dev r with
      | (d, true) => q.recordSave d r
      | (d, false) =>
          { q with
            dev := d
            overrun := q.overrun || decide (q.Destroys { q with dev := d }) }
  | .chk => { q with dev := chkReadCycleStatus q.dev }
  | .send =>
      match sendSavedReport q.dev with
      | (d, some content) =>
          { q with
            dev := d
            handed := q.handed ++ [content]
            inFlight := q.owner q.dev.cycleRead
            overrun := false }
      | (d, none) => { q with dev := d }
  | .update =>
      if q.dev.readCycleStatus = .sdOver then
        { q with
          dev := apiCycleUpdate q.dev
          advanced := q.advanced + 1
          acked := q.acked ++ q.inFlight.toList }
      else { q with dev := apiCycleUpdate q.dev }
  | .second => { q with dev := readCycleTimeout q.dev }

/-- A run of events. -/
def run (q : CycleQueue) (es : List CycleEvent) : CycleQueue := es.foldl step q

/-- Saved but not advanced reports. -/
def backlog (q : CycleQueue) : ℕ := q.saved.length - q.advanced

theorem run_append (q : CycleQueue) (es fs : List CycleEvent) :
    q.run (es ++ fs) = (q.run es).run fs := List.foldl_append

theorem recordSave_overrun (q : CycleQueue) (d : Device) (r : List UInt8) :
    (q.recordSave d r).overrun = true ↔
      q.overrun = true ∨ q.Destroys (q.recordSave d r) := by
  simp only [recordSave, Bool.or_eq_true, decide_eq_true_eq]
  exact Iff.rfl

/-! ## The ring and its history -/

/-- The flash and the history agree: the saved reports are an append history of
the ring, and a report exists exactly while it is live. -/
structure Stored (q : CycleQueue) : Prop where
  cycleWrite : q.dev.cycleWrite = q.saved.length % 16384
  ring : Holds cycleRing q.dev.chip.flash q.saved
  acceptable : ∀ r ∈ q.saved, Acceptable r
  stored_length : q.stored.length = q.saved.length
  stored_at : ∀ k p, q.stored[k]? = some p →
    p.1 = k % 16384 ∧ p.2 ≤ q.dev.chip.journal.length
  intact : ∀ k, q.Intact k ↔ Live cycleRing q.saved.length k

theorem slotStart_mod (k : ℕ) : slotStart (k % 16384) = cycleRing.addrOf k := by
  have haddr : cycleInPageAddr (k % 16384) = k % 16384 % 16 * 32 :=
    Nat.mod_eq_of_lt (by omega)
  rw [slotStart, haddr, cycleRing_addrOf, cyclePage]

theorem stored_initial : initial.Stored where
  cycleWrite := rfl
  ring := holds_nil cycleRing _
  acceptable := by
    intro r hr
    exact absurd hr List.not_mem_nil
  stored_length := rfl
  stored_at := by
    intro k p hk
    exact absurd hk (by simp [initial])
  intact := by
    intro k
    constructor
    · rintro ⟨p, hp, -⟩
      exact absurd hp (by simp [initial])
    · rintro ⟨hk, -⟩
      exact absurd hk (Nat.not_lt_zero k)

/-- The commands of one save. -/
def saveCmds (q : CycleQueue) (r : List UInt8) : List Cmd :=
  let cmds := appendCmds cycleRing q.saved.length r
  cmds ++ cyclePointerCmds q.dev cmds (q.saved.length + 1)

/-- What writing an acceptable report does. -/
theorem step_write {q : CycleQueue} {r : List UInt8} (h : q.Stored)
    (hr : Acceptable r) :
    q.step (.write r) =
      q.recordSave
        { q.dev.issue (q.saveCmds r) with
          currentState := 0
          cycleWriteAbnormalCounter := 0
          cycleWrite := (q.saved.length + 1) % 16384 } r := by
  rw [step, apiCycleWrite_acceptable h.cycleWrite h.ring hr]
  rfl

/-- A save leaves alone exactly the reports that stay live. -/
theorem untouched_saveCmds_iff {q : CycleQueue} {r : List UInt8} {k : ℕ}
    (hr : Acceptable r) (hlive : Live cycleRing q.saved.length k) :
    (∀ x, cycleRing.InSlot k x → Untouched sectorSize (q.saveCmds r) x) ↔
      Live cycleRing (q.saved.length + 1) k := by
  constructor
  · intro hu
    by_contra hdead
    have hx : cycleRing.InSlot k (cycleRing.addrOf k) :=
      ⟨Nat.le_refl _, Nat.lt_add_of_pos_right cycleRing.width_pos⟩
    have htouch := touches_of_not_live_succ cycleRing (r := r) hlive hdead hx
    have hun := hu _ hx
    rw [saveCmds, untouched_append] at hun
    exact htouch hun.1
  · intro hlive' x hx
    rw [saveCmds, untouched_append]
    exact ⟨untouched_append_of_live cycleRing (Nat.le_of_eq hr.length) hlive.1
      hlive' hx, untouched_cyclePointerCmds _ _ _ hx⟩

/-- Whether a report exists, in terms of the ring. -/
theorem intact_iff_inSlot {q : CycleQueue} {k : ℕ} {p : ℕ × ℕ}
    (hp : q.stored[k]? = some p) (hslot : p.1 = k % 16384) :
    q.Intact k ↔ ∀ x, cycleRing.InSlot k x →
      Untouched sectorSize (q.dev.chip.journal.drop p.2) x := by
  constructor
  · rintro ⟨p', hp', hu⟩ x ⟨hlo, hhi⟩
    obtain rfl : p = p' := Option.some.inj (hp.symm.trans hp')
    have hi := hu (x - cycleRing.addrOf k) (by
      have hwidth : cycleRing.width = 31 := rfl
      omega)
    rwa [hslot, slotStart_mod, Nat.add_sub_cancel' hlo] at hi
  · intro hu
    refine ⟨p, hp, ?_⟩
    intro i hi
    rw [hslot, slotStart_mod]
    exact hu _ ⟨Nat.le_add_right _ _, Nat.add_lt_add_left hi _⟩

/-- A report saved before exists after a save if it existed and stays live. -/
theorem intact_step_write {q : CycleQueue} {r : List UInt8} (h : q.Stored)
    (hr : Acceptable r) (k : ℕ) :
    (q.step (.write r)).Intact k ↔
      Live cycleRing (q.saved.length + 1) k := by
  rw [step_write h hr]
  by_cases hk : k < q.saved.length
  · obtain ⟨p, hp⟩ : ∃ p, q.stored[k]? = some p :=
      ⟨_, List.getElem?_eq_getElem (by rw [h.stored_length]; exact hk)⟩
    obtain ⟨hslot, hlen⟩ := h.stored_at k p hp
    have hp' : (q.stored ++ [(q.dev.cycleWrite,
        (q.dev.chip.journal ++ q.saveCmds r).length)])[k]? = some p := by
      rw [List.getElem?_append_left (by rw [h.stored_length]; exact hk), hp]
    rw [intact_iff_inSlot hp' hslot]
    have hold := intact_iff_inSlot hp hslot
    rw [h.intact] at hold
    simp only [recordSave, Device.issue, Chip.issue_journal]
    rw [List.drop_append_of_le_length hlen]
    constructor
    · intro hu
      have hlive := hold.mpr fun x hx =>
        ((untouched_append sectorSize).mp (hu x hx)).1
      exact (untouched_saveCmds_iff hr hlive).mp fun x hx =>
        ((untouched_append sectorSize).mp (hu x hx)).2
    · intro hlive x hx
      have hlive' := live_of_live_succ cycleRing hlive hk
      rw [untouched_append]
      exact ⟨hold.mp hlive' x hx,
        (untouched_saveCmds_iff hr hlive').mpr hlive x hx⟩
  · by_cases heq : k = q.saved.length
    · subst heq
      have hp' : (q.stored ++ [(q.dev.cycleWrite,
          (q.dev.chip.journal ++ q.saveCmds r).length)])[q.saved.length]? =
          some (q.dev.cycleWrite,
            (q.dev.chip.journal ++ q.saveCmds r).length) := by
        rw [← h.stored_length, List.getElem?_concat_length]
      rw [intact_iff_inSlot hp' h.cycleWrite]
      refine iff_of_true ?_ (live_self cycleRing _)
      intro x _
      simp only [recordSave, Device.issue, Chip.issue_journal]
      rw [List.drop_length]
      exact untouched_nil sectorSize x
    · refine iff_of_false ?_ ?_
      · rintro ⟨p, hp, -⟩
        have hlt := (List.getElem?_eq_some_iff.mp hp).1
        simp only [recordSave, List.length_append, List.length_singleton,
          h.stored_length] at hlt
        omega
      · rintro ⟨hlt, -⟩
        omega

/-- Writing an acceptable report keeps the history in step with the flash. -/
theorem Stored.write {q : CycleQueue} {r : List UInt8} (h : q.Stored)
    (hr : Acceptable r) : (q.step (.write r)).Stored where
  cycleWrite := by
    rw [step_write h hr]
    simp [recordSave]
  ring := by
    have hring := holds_apiCycleWrite h.cycleWrite h.ring hr
    rw [apiCycleWrite_acceptable h.cycleWrite h.ring hr] at hring
    rw [step_write h hr]
    exact hring
  acceptable := by
    rw [step_write h hr]
    intro r' hr'
    rcases List.mem_append.mp hr' with hold | hnew
    · exact h.acceptable r' hold
    · rw [List.mem_singleton.mp hnew]
      exact hr
  stored_length := by
    rw [step_write h hr]
    simp [recordSave, h.stored_length]
  stored_at := by
    rw [step_write h hr]
    intro k p hp
    simp only [recordSave, Device.issue, Chip.issue_journal] at hp ⊢
    by_cases hk : k < q.stored.length
    · rw [List.getElem?_append_left hk] at hp
      obtain ⟨hslot, hlen⟩ := h.stored_at k p hp
      refine ⟨hslot, ?_⟩
      rw [List.length_append]
      omega
    · rw [List.getElem?_append_right (Nat.le_of_not_lt hk)] at hp
      rw [List.getElem?_singleton] at hp
      split at hp
      case isFalse => exact absurd hp (by simp)
      rename_i hzero
      obtain rfl := Option.some.inj hp
      refine ⟨?_, Nat.le_refl _⟩
      rw [h.cycleWrite, ← h.stored_length]
      omega
  intact := by
    intro k
    rw [intact_step_write h hr, step_write h hr]
    simp [recordSave]

/-- Steps that leave the chip, the writer and the saves alone. -/
theorem Stored.congr {q q' : CycleQueue} (h : q.Stored)
    (hchip : q'.dev.chip = q.dev.chip)
    (hwrite : q'.dev.cycleWrite = q.dev.cycleWrite)
    (hsaved : q'.saved = q.saved) (hstored : q'.stored = q.stored) :
    q'.Stored where
  cycleWrite := by rw [hwrite, hsaved, h.cycleWrite]
  ring := by
    rw [hchip, hsaved]
    exact h.ring
  acceptable := by
    rw [hsaved]
    exact h.acceptable
  stored_length := by rw [hstored, hsaved, h.stored_length]
  stored_at := by
    rw [hstored, hchip]
    exact h.stored_at
  intact := by
    intro k
    rw [hsaved, ← h.intact k, Intact, Intact, hstored, hchip]

end CycleQueue

end VehicleRecorder.Dataflash
