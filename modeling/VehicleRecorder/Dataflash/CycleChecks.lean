import VehicleRecorder.Dataflash.CycleDelivery

/-!
# The two checks of a stored report

A slot is checked twice: right after it was written, by
`SaveCycleSub_2_FCS_read_judge`, and when it is read for sending, by
`ReadCycleGPS`.  The two tests treat an erased slot differently, and the second
one lets a wrong checksum pass when the second byte is `0xFF`.
-/

namespace VehicleRecorder.Dataflash

open NorFlash Bytes

/-- The 31 bytes of a slot. -/
def slotContent (chip : Chip) (slot : ℕ) : List UInt8 :=
  dfReadFlash chip (cyclePage slot) (cycleInPageAddr slot) 31

/-- Byte 30 is the XOR of the bytes in front of it. -/
def HasChecksum (c : List UInt8) : Prop := c.getD 30 0 = xorSum (c.take 30)

instance (c : List UInt8) : Decidable (HasChecksum c) :=
  inferInstanceAs (Decidable (_ = _))

/-- The check behind a write. -/
def PassesSave (c : List UInt8) : Prop :=
  ¬ (c.getD 0 0 = 0xFF ∧ c.getD 1 0 = 0xFF) ∧ HasChecksum c

/-- The check in front of a send. -/
def PassesRead (c : List UInt8) : Prop :=
  c.getD 0 0 ≠ 0xFF ∧ ¬ (c.getD 0 0 = 0 ∧ c.getD 1 0 = 0xFF) ∧
    (HasChecksum c ∨ c.getD 1 0 = 0xFF)

theorem saveCycleSub2FcsReadJudge_iff (chip : Chip) (slot : ℕ) :
    saveCycleSub2FcsReadJudge chip (cyclePage slot) (cycleInPageAddr slot) =
      true ↔ PassesSave (slotContent chip slot) := by
  rw [saveCycleSub2FcsReadJudge, PassesSave, ← slotContent]
  by_cases herased : (slotContent chip slot).getD 0 0 = 0xFF ∧
      (slotContent chip slot).getD 1 0 = 0xFF
  · rw [if_pos herased]
    exact iff_of_false Bool.false_ne_true fun h => h.1 herased
  · rw [if_neg herased, decide_eq_true_iff]
    exact ⟨fun h => ⟨herased, h⟩, fun h => h.2⟩

theorem readCycleRejects_iff (c : List UInt8) :
    readCycleRejects c 31 = false ↔ PassesRead c := by
  simp only [readCycleRejects, decide_eq_false_iff_not, PassesRead,
    HasChecksum, Nat.reduceSub]
  tauto

theorem readCycleGPS_iff (d : Device) :
    (readCycleGPS d 31).2.2 = true ↔
      PassesRead (slotContent d.chip d.cycleRead) := by
  rw [← readCycleRejects_iff, readCycleGPS, ← slotContent]
  cases readCycleRejects (slotContent d.chip d.cycleRead) 31 with
  | true => exact iff_of_false Bool.false_ne_true Bool.noConfusion
  | false => exact iff_of_true rfl rfl

/-- Both checks say the same of the slot the reader is at, and neither passes a
wrong checksum. -/
def ChecksAgree (d : Device) : Prop :=
  let accepted := (readCycleGPS d 31).2.2
  let judged := saveCycleSub2FcsReadJudge d.chip (cyclePage d.cycleRead)
    (cycleInPageAddr d.cycleRead)
  let c := slotContent d.chip d.cycleRead
  (accepted = true ↔ judged = true) ∧ (accepted = true → HasChecksum c) ∧
    (judged = true → HasChecksum c)

/-- The contents that no special case of the checks applies to: one that looks
half erased has a wrong checksum, and one with `0xFF` in second place only has
the right one. -/
structure Unambiguous (c : List UInt8) : Prop where
  first : c.getD 0 0 = 0xFF → c.getD 1 0 ≠ 0xFF → ¬ HasChecksum c
  zero : c.getD 0 0 = 0 → c.getD 1 0 = 0xFF → ¬ HasChecksum c
  second : c.getD 0 0 ≠ 0xFF → c.getD 0 0 ≠ 0 → c.getD 1 0 = 0xFF →
    HasChecksum c

theorem passes_iff_unambiguous (c : List UInt8) :
    ((PassesRead c ↔ PassesSave c) ∧ (PassesRead c → HasChecksum c)) ↔
      Unambiguous c := by
  constructor
  · rintro ⟨hiff, hread⟩
    refine ⟨fun h₀ h₁ hc => ?_, fun h₀ h₁ hc => ?_, fun h₀ hz h₁ => ?_⟩
    · exact (hiff.mpr ⟨fun h => h₁ h.2, hc⟩).1 h₀
    · have hne : ¬ c.getD 0 0 = 0xFF := by
        rw [h₀]
        decide
      exact (hiff.mpr ⟨fun h => hne h.1, hc⟩).2.1 ⟨h₀, h₁⟩
    · exact hread ⟨h₀, fun h => hz h.1, Or.inr h₁⟩
  · intro h
    have hread : PassesRead c → HasChecksum c := by
      rintro ⟨h₀, hz, hc | h₁⟩
      · exact hc
      · exact h.second h₀ (fun h₀ => hz ⟨h₀, h₁⟩) h₁
    refine ⟨⟨fun hr => ⟨fun hff => hr.1 hff.1, hread hr⟩, fun hs => ?_⟩, hread⟩
    refine ⟨fun h₀ => ?_, fun hz => h.zero hz.1 hz.2 hs.2, Or.inl hs.2⟩
    exact h.first h₀ (fun h₁ => hs.1 ⟨h₀, h₁⟩) hs.2

/-- A content that passed behind the write passes in front of the send exactly
when it is unambiguous. -/
theorem PassesSave.read_iff {c : List UInt8} (h : PassesSave c) :
    PassesRead c ↔ Unambiguous c := by
  rw [← passes_iff_unambiguous]
  exact ⟨fun hr => ⟨iff_of_true hr h, fun _ => h.2⟩, fun hu => hu.1.mpr h⟩

/-- A content that passed in front of the send has the right checksum exactly
when it is unambiguous. -/
theorem PassesRead.checksum_iff {c : List UInt8} (h : PassesRead c) :
    HasChecksum c ↔ Unambiguous c := by
  rw [← passes_iff_unambiguous]
  constructor
  · intro hc
    exact ⟨iff_of_true h ⟨fun hff => h.1 hff.1, hc⟩, fun _ => hc⟩
  · intro hu
    exact hu.2 h

theorem checksAgree_iff (d : Device) :
    ChecksAgree d ↔ Unambiguous (slotContent d.chip d.cycleRead) := by
  simp only [ChecksAgree, readCycleGPS_iff, saveCycleSub2FcsReadJudge_iff]
  rw [← passes_iff_unambiguous]
  exact ⟨fun h => ⟨h.1, h.2.1⟩, fun h => ⟨h.1, h.2, And.right⟩⟩

/-! ## A slot over a run -/

/-- Commands that leave a slot alone leave its content. -/
theorem slotContent_issue (chip : Chip) {slot : ℕ} (hslot : slot < maxCycleNum)
    {cmds : List Cmd}
    (hu : ∀ i < 31, Untouched sectorSize cmds (CycleQueue.slotStart slot + i)) :
    slotContent (chip.issue cmds) slot = slotContent chip slot := by
  have hmod : slot % 16384 = slot := Nat.mod_eq_of_lt hslot
  have hread (chip' : Chip) : slotContent chip' slot =
      readBytes chip'.flash (CycleQueue.slotStart slot) 31 := by
    have h := dfReadFlash_cycle chip' slot
    rwa [← CycleQueue.slotStart_mod, hmod] at h
  rw [hread, hread, Chip.issue_flash]
  apply readBytes_of_untouched
  intro x hlo hhi
  have h := hu (x - CycleQueue.slotStart slot) (by omega)
  rwa [Nat.add_sub_cancel' hlo] at h

/-- A save only adds commands, and reports success for a content that passes
the check behind the write. -/
theorem saveCycleGPS_cases (d : Device) (r : List UInt8) :
    (∃ cmds, (saveCycleGPS d r).1.chip = d.chip.issue cmds) ∧
      ((saveCycleGPS d r).2 = true →
        PassesSave (slotContent (saveCycleGPS d r).1.chip d.cycleWrite)) := by
  simp only [saveCycleGPS, saveCycleSub1, ← Device.issue_append]
  generalize (if d.cycleWrite / 16 % 8 = 0 ∧ d.cycleWrite % 16 = 0 then
    [sst25vSectorErase4KByte (cyclePage d.cycleWrite * pageSize)] else []) ++
      dfWriteFlashDirect (cyclePage d.cycleWrite) (cycleInPageAddr d.cycleWrite)
        r = cmds
  split
  · rename_i hjudge
    exact ⟨⟨cmds, rfl⟩, fun _ =>
      (saveCycleSub2FcsReadJudge_iff _ _).mp hjudge⟩
  · split
    · exact ⟨⟨cmds ++ [sst25vSectorErase4KByte
        (cyclePage d.cycleWrite * pageSize)], (Chip.issue_append _ _ _).symm⟩,
        fun h => absurd h Bool.false_ne_true⟩
    · exact ⟨⟨cmds, rfl⟩, fun h => absurd h Bool.false_ne_true⟩

theorem apiCycleWrite_issues (d : Device) (r : List UInt8) :
    ∃ cmds, (apiCycleWrite d r).1.chip = d.chip.issue cmds := by
  obtain ⟨cmds, hcmds⟩ := (saveCycleGPS_cases d r).1
  rw [apiCycleWrite]
  split
  · rename_i d₁ h
    rw [h] at hcmds
    refine ⟨cmds ++ recordAddCmds d₁.chip (nextCycle d₁.cycleWrite)
      d₁.cycleRead .cycleAdd, ?_⟩
    rw [Chip.issue_append, ← hcmds]
    rfl
  · rename_i d₁ h
    rw [h] at hcmds
    exact ⟨cmds, hcmds⟩

theorem readCycleGPS_chip (d : Device) (readLen : ℕ) :
    (readCycleGPS d readLen).1.chip = d.chip := by
  simp only [readCycleGPS]
  split
  · rfl
  · rfl

theorem sendSavedReport_chip (d : Device) :
    (sendSavedReport d).1.chip = d.chip := by
  have hread := readCycleGPS_chip d 31
  rw [← apiCycleRead] at hread
  rw [sendSavedReport]
  split
  · split
    · rename_i h
      rw [h] at hread
      exact hread
    · rename_i h
      rw [h] at hread
      exact hread
  · rfl

namespace CycleQueue

theorem step_issues (q : CycleQueue) (e : CycleEvent) :
    ∃ cmds, (q.step e).dev.chip = q.dev.chip.issue cmds := by
  have hsame {chip : Chip} (h : chip = q.dev.chip) :
      ∃ cmds, chip = q.dev.chip.issue cmds := by
    refine ⟨[], ?_⟩
    rw [Chip.issue_nil]
    exact h
  cases e with
  | write r =>
      obtain ⟨cmds, hcmds⟩ := apiCycleWrite_issues q.dev r
      refine ⟨cmds, ?_⟩
      simp only [step]
      split
      · rename_i h
        rw [h] at hcmds
        exact hcmds
      · rename_i h
        rw [h] at hcmds
        exact hcmds
  | chk =>
      apply hsame
      simp only [step, chkReadCycleStatus]
      split
      · split
        · rfl
        · rfl
      · rfl
  | send =>
      have hsend := sendSavedReport_chip q.dev
      apply hsame
      simp only [step]
      split
      · rename_i h
        rw [h] at hsend
        exact hsend
      · rename_i h
        rw [h] at hsend
        exact hsend
  | update =>
      apply hsame
      simp only [step, apiCycleUpdate]
      split
      · rfl
      · rfl
  | second =>
      apply hsame
      simp only [step, readCycleTimeout]
      split
      · split
        · rfl
        · rfl
      · rfl

theorem run_issues (q : CycleQueue) (es : List CycleEvent) :
    ∃ cmds, (q.run es).dev.chip = q.dev.chip.issue cmds := by
  induction es generalizing q with
  | nil => exact ⟨[], (Chip.issue_nil _).symm⟩
  | cons e es ih =>
      obtain ⟨cmds, hcmds⟩ := q.step_issues e
      obtain ⟨cmds', hcmds'⟩ := ih (q.step e)
      refine ⟨cmds ++ cmds', ?_⟩
      rw [Chip.issue_append, ← hcmds, ← hcmds']
      rfl

/-- While no command touches a slot, a run keeps its content. -/
theorem slotContent_run (q : CycleQueue) {slot : ℕ}
    (hslot : slot < maxCycleNum) {es : List CycleEvent}
    (hkept : Kept (q.run es).dev.chip.journal
      (slot, q.dev.chip.journal.length)) :
    slotContent (q.run es).dev.chip slot = slotContent q.dev.chip slot := by
  obtain ⟨cmds, hcmds⟩ := q.run_issues es
  rw [hcmds, Chip.issue_journal] at hkept
  rw [hcmds]
  apply slotContent_issue q.dev.chip hslot
  intro i hi
  have hu := hkept i hi
  rwa [List.drop_left] at hu

end CycleQueue

/-- What `Api_cycle_write` reports as saved passed the check behind the write,
and the pointer write leaves it alone. -/
theorem apiCycleWrite_passesSave {d : Device} {r : List UInt8}
    (hlt : d.cycleWrite < maxCycleNum) (h : (apiCycleWrite d r).2 = true) :
    PassesSave (slotContent (apiCycleWrite d r).1.chip d.cycleWrite) := by
  rw [apiCycleWrite] at h ⊢
  split at h
  · rename_i d₁ hsave
    have hjudge := (saveCycleGPS_cases d r).2
    rw [hsave] at hjudge
    have hjudge := hjudge rfl
    simp only [dfWriteRecordAdd, Device.issue_chip]
    rw [slotContent_issue _ hlt]
    · exact hjudge
    · intro i hi
      apply untouched_recordAddCmds
      have hmod : d.cycleWrite % 16384 = d.cycleWrite := Nat.mod_eq_of_lt hlt
      have hslot := CycleQueue.slotStart_mod d.cycleWrite
      rw [hmod] at hslot
      refine not_owns_cycle .cycleAdd (k := d.cycleWrite) ?_
      rw [hslot]
      exact ⟨Nat.le_add_right _ _, Nat.add_lt_add_left hi _⟩
  · exact absurd h Bool.false_ne_true

/-- What is sent passed the check in front of the send. -/
theorem sendSavedReport_some {d : Device} {c : List UInt8}
    (h : (sendSavedReport d).2 = some c) : PassesRead c := by
  rw [sendSavedReport] at h
  split at h
  · split at h
    · rename_i d₁ content hread
      obtain rfl := Option.some.inj h
      simp only [apiCycleRead, readCycleGPS] at hread
      split at hread
      · exact absurd (congrArg (fun p => p.2.2) hread) Bool.false_ne_true
      · rename_i hrejects
        obtain rfl := congrArg (fun p => p.2.1) hread
        exact (readCycleRejects_iff _).mp (Bool.eq_false_iff.mpr hrejects)
    · exact absurd h (by simp)
  · exact absurd h (by simp)

/-! ## The checks over the life of a report -/

namespace CycleQueue

/-- A save of `r` was reported as successful, the events `es` left its slot
alone, and the reader has come to it. -/
structure SavedThenRead (q : CycleQueue) (r : List UInt8)
    (es : List CycleEvent) : Prop where
  inRing : q.dev.cycleWrite < maxCycleNum
  saved : (apiCycleWrite q.dev r).2 = true
  kept : Kept ((q.step (.write r)).run es).dev.chip.journal
    (q.dev.cycleWrite, (q.step (.write r)).dev.chip.journal.length)
  reached : ((q.step (.write r)).run es).dev.cycleRead = q.dev.cycleWrite

theorem step_write_dev (q : CycleQueue) (r : List UInt8) :
    (q.step (.write r)).dev = (apiCycleWrite q.dev r).1 := by
  simp only [step]
  split
  · rename_i h
    rw [h]
    rfl
  · rename_i h
    rw [h]

theorem SavedThenRead.accepted_iff {q : CycleQueue} {r : List UInt8}
    {es : List CycleEvent} (h : q.SavedThenRead r es) :
    (apiCycleRead ((q.step (.write r)).run es).dev 31).2.2 = true ↔
      Unambiguous
        (slotContent (apiCycleWrite q.dev r).1.chip q.dev.cycleWrite) := by
  have hpasses := apiCycleWrite_passesSave h.inRing h.saved
  rw [apiCycleRead, readCycleGPS_iff, h.reached,
    slotContent_run _ h.inRing h.kept, step_write_dev]
  exact hpasses.read_iff

end CycleQueue

/-- The checks agree on a slot exactly when its content is unambiguous.  A
report saved with success is accepted for sending, however much later, exactly
when what is in its slot is unambiguous; and what is sent has the right
checksum exactly when it is unambiguous. -/
theorem cycleChecks_iff (q : CycleQueue) (r : List UInt8)
    (es : List CycleEvent) :
    (ChecksAgree q.dev ↔
      Unambiguous (slotContent q.dev.chip q.dev.cycleRead)) ∧
    (q.SavedThenRead r es →
      ((apiCycleRead ((q.step (.write r)).run es).dev 31).2.2 = true ↔
        Unambiguous
          (slotContent (apiCycleWrite q.dev r).1.chip q.dev.cycleWrite))) ∧
    ∀ c, (sendSavedReport q.dev).2 = some c →
      (HasChecksum c ↔ Unambiguous c) := by
  refine ⟨checksAgree_iff q.dev, fun h => h.accepted_iff, ?_⟩
  intro c hc
  exact (sendSavedReport_some hc).checksum_iff

/-- A ring whose first slot lost power after its first byte. -/
def tornReport : Device :=
  { Device.initial with
    chip := Chip.blank.issue [.program 905216 1]
    cycleWrite := 1
    readCycleStatus := .rdyToSd }

theorem savedThenRead_sample :
    CycleQueue.initial.SavedThenRead CycleQueue.sampleReport [] := by
  have hwrite := apiCycleWrite_acceptable (d := CycleQueue.initial.dev)
    (r := CycleQueue.sampleReport) rfl (RingLog.holds_nil cycleRing _)
    (by decide)
  refine ⟨by decide, ?_, ?_, ?_⟩
  · rw [hwrite]
  · intro i _
    have hrun : (CycleQueue.initial.step (.write CycleQueue.sampleReport)).run
        [] = CycleQueue.initial.step (.write CycleQueue.sampleReport) := rfl
    rw [hrun, List.drop_length]
    exact untouched_nil sectorSize _
  · have hrun : (CycleQueue.initial.step (.write CycleQueue.sampleReport)).run
        [] = CycleQueue.initial.step (.write CycleQueue.sampleReport) := rfl
    rw [hrun, CycleQueue.step_write_dev, hwrite]
    rfl

theorem cycleChecks_iff_sample :
    ((apiCycleRead ((CycleQueue.initial.step
        (.write CycleQueue.sampleReport)).run []).dev 31).2.2 = true ↔
      Unambiguous (slotContent
        (apiCycleWrite CycleQueue.initial.dev CycleQueue.sampleReport).1.chip
        CycleQueue.initial.dev.cycleWrite)) ∧
      ∃ c, (sendSavedReport tornReport).2 = some c ∧
        (HasChecksum c ↔ Unambiguous c) := by
  have hsaved := cycleChecks_iff CycleQueue.initial CycleQueue.sampleReport []
  have htorn := cycleChecks_iff { dev := tornReport } [] []
  exact ⟨hsaved.2.1 savedThenRead_sample, 1 :: List.replicate 30 0xFF,
    by decide, htorn.2.2 _ (by decide)⟩

/-- Its slot is accepted for sending, although the check behind the write
refuses it and its checksum is wrong. -/
theorem torn_report_is_sent :
    ¬ ChecksAgree tornReport ∧
      ∃ c, (sendSavedReport tornReport).2 = some c ∧ ¬ HasChecksum c := by
  refine ⟨fun h => ?_, 1 :: List.replicate 30 0xFF, by decide, by decide⟩
  have hread : (readCycleGPS tornReport 31).2.2 = true := by decide
  exact absurd (h.2.1 hread) (by decide)

end VehicleRecorder.Dataflash
