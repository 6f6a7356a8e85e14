import VehicleRecorder.Dataflash.CycleChecks
import VehicleRecorder.Lib.Runs

/-!
# Failed saves

A save fails when what was programmed does not read back as a report.
`SaveCycleGPS` then skips the slot, and erases the sector it is in when the
failure is the fourth in a row.

The module follows a saved report through a sequence of failed saves, for every
pattern of failures: it stays readable as long as no save is made to its slot,
none enters its sector, and no fourth failure falls into its sector.
-/

namespace VehicleRecorder.Dataflash

open NorFlash Bytes Runs

/-! ## Saves that may fail -/

/-- The 31 bytes of a slot after a programming that went wrong. -/
abbrev Fault := Option (Vector UInt8 31)

/-- The chip after the programming of a slot. -/
def Chip.garble (chip : Chip) (slot : ℕ) : Fault → Chip
  | none => chip
  | some bytes =>
      { chip with
        flash := fun x =>
          if CycleQueue.slotStart slot ≤ x ∧
              x < CycleQueue.slotStart slot + 31 then
            bytes.toList.getD (x - CycleQueue.slotStart slot) 0xFF
          else chip.flash x }

/-- The chip when `SaveCycleGPS` has programmed the slot of `cycle_write`,
with the erase of a sector it enters. -/
def triedChip (fault : Fault) (d : Device) (content : List UInt8) : Chip :=
  let page := cyclePage d.cycleWrite
  ((d.chip.issue
    (if d.cycleWrite / 16 % 8 = 0 ∧ d.cycleWrite % 16 = 0 then
      [sst25vSectorErase4KByte (page * pageSize)]
    else [])).issue
      (dfWriteFlashDirect page (cycleInPageAddr d.cycleWrite) content)).garble
        d.cycleWrite fault

/-- `SaveCycleGPS` when the programming may go wrong. -/
def saveCycleGPSWith (fault : Fault) (d : Device) (content : List UInt8) :
    Device × Bool :=
  let page := cyclePage d.cycleWrite
  let d₂ := { d with chip := triedChip fault d content, currentState := 0 }
  if saveCycleSub2FcsReadJudge d₂.chip page (cycleInPageAddr d.cycleWrite) then
    ({ d₂ with cycleWriteAbnormalCounter := 0 }, true)
  else
    let counter := (d₂.cycleWriteAbnormalCounter + 1) % 4294967296
    let d₃ := { d₂ with cycleWrite := nextCycle d₂.cycleWrite }
    if counter > 3 then
      ({ d₃.issue [sst25vSectorErase4KByte (page * pageSize)] with
          cycleWriteAbnormalCounter := 0 }, false)
    else ({ d₃ with cycleWriteAbnormalCounter := counter }, false)

/-- Without a fault it is `SaveCycleGPS`. -/
theorem saveCycleGPSWith_none (d : Device) (content : List UInt8) :
    saveCycleGPSWith none d content = saveCycleGPS d content := rfl

/-- `Api_cycle_write` when the programming may go wrong. -/
def apiCycleWriteWith (fault : Fault) (d : Device) (buffer : List UInt8) :
    Device × Bool :=
  match saveCycleGPSWith fault d buffer with
  | (d₁, true) =>
      let d₂ := { d₁ with cycleWrite := nextCycle d₁.cycleWrite }
      (dfWriteRecordAdd d₂ d₂.cycleWrite d₂.cycleRead .cycleAdd, true)
  | (d₁, false) => (d₁, false)

theorem apiCycleWriteWith_none (d : Device) (buffer : List UInt8) :
    apiCycleWriteWith none d buffer = apiCycleWrite d buffer := rfl

/-- A call of `Api_cycle_write`: the report, and what its programming does. -/
structure CycleCall where
  report : Vector UInt8 31
  fault : Fault := none
  deriving DecidableEq, Repr

/-- The device behind a call. -/
def cycleCall (d : Device) (c : CycleCall) : Device :=
  (apiCycleWriteWith c.fault d c.report.toList).1

/-- The call returns false. -/
def Fails (d : Device) (c : CycleCall) : Prop :=
  (apiCycleWriteWith c.fault d c.report.toList).2 = false

instance (d : Device) (c : CycleCall) : Decidable (Fails d c) :=
  inferInstanceAs (Decidable (_ = _))

/-! ## The content of a slot -/

theorem slotContent_eq (chip : Chip) {slot : ℕ} (hslot : slot < maxCycleNum) :
    slotContent chip slot =
      readBytes chip.flash (CycleQueue.slotStart slot) 31 := by
  have h := dfReadFlash_cycle chip slot
  rwa [← CycleQueue.slotStart_mod, Nat.mod_eq_of_lt hslot] at h

theorem slotStart_eq {slot : ℕ} (hslot : slot < maxCycleNum) :
    CycleQueue.slotStart slot = (slot / 16 + 1768) * 512 + slot % 16 * 32 := by
  have h := CycleQueue.slotStart_mod slot
  rwa [Nat.mod_eq_of_lt hslot, cycleRing_addrOf, Nat.mod_eq_of_lt hslot] at h

theorem slotContent_congr {chip chip' : Chip} {slot : ℕ}
    (hslot : slot < maxCycleNum)
    (h : ∀ x, CycleQueue.slotStart slot ≤ x →
      x < CycleQueue.slotStart slot + 31 → chip'.flash x = chip.flash x) :
    slotContent chip' slot = slotContent chip slot := by
  rw [slotContent_eq chip' hslot, slotContent_eq chip hslot]
  exact readBytes_congr h

/-- The erase of the sector that a slot lies in. -/
theorem slotErase_eq {w : ℕ} (hw : w < maxCycleNum) :
    sst25vSectorErase4KByte (cyclePage w * pageSize) =
      .erase ((w / 16 + 1768) * 512) := by
  have hw : w < 16384 := hw
  have hpage : cyclePage w < 8192 := by
    simp only [cyclePage, cycleStartOffset]
    omega
  exact sst25vSectorErase4KByte_eq hpage

/-- An erase empties the slots of its sector and leaves the others alone. -/
theorem slotContent_erase (chip : Chip) {w slot : ℕ} (hw : w < maxCycleNum)
    (hslot : slot < maxCycleNum) :
    slotContent
        (chip.issue [sst25vSectorErase4KByte (cyclePage w * pageSize)]) slot =
      if slot / 128 = w / 128 then List.replicate 31 0xFF
      else slotContent chip slot := by
  have hlt : w < 16384 := hw
  have hslotlt : slot < 16384 := hslot
  rw [slotErase_eq hw]
  split
  · rename_i hsame
    rw [slotContent_eq _ hslot]
    apply readBytes_of_erased
    intro x hlo hhi
    rw [slotStart_eq hslot] at hlo hhi
    refine exec_erase_of_div_eq sectorSize ?_
    simp only [sectorSize]
    omega
  · rename_i hother
    apply slotContent_congr hslot
    intro x hlo hhi
    rw [slotStart_eq hslot] at hlo hhi
    rw [Chip.issue_flash, execAll_cons, execAll_nil]
    apply exec_of_not_touches
    simp only [Cmd.Touches, sectorSize]
    omega

/-- Programming a slot, also when it goes wrong, leaves the other slots
alone. -/
theorem slotContent_program (chip : Chip) {w slot : ℕ} (hw : w < maxCycleNum)
    (hslot : slot < maxCycleNum) (hne : slot ≠ w) (c : CycleCall) :
    slotContent
        ((chip.issue (dfWriteFlashDirect (cyclePage w) (cycleInPageAddr w)
          c.report.toList)).garble w c.fault) slot =
      slotContent chip slot := by
  have hlt : w < 16384 := hw
  have hslotlt : slot < 16384 := hslot
  have hlen : c.report.toList.length = 31 := Vector.length_toList
  have haddr : cycleInPageAddr w = w % 16 * 32 := Nat.mod_eq_of_lt (by omega)
  have hpage : cyclePage w < 8192 := by
    simp only [cyclePage, cycleStartOffset]
    omega
  have hcmds : dfWriteFlashDirect (cyclePage w) (cycleInPageAddr w)
      c.report.toList =
        programBytes (CycleQueue.slotStart w) c.report.toList := by
    rw [dfWriteFlashDirect_eq hpage (by rw [haddr, hlen]; omega)]
    rfl
  apply slotContent_congr hslot
  intro x hlo hhi
  have hout : x < CycleQueue.slotStart w ∨
      CycleQueue.slotStart w + 31 ≤ x := by
    rw [slotStart_eq hslot] at hlo hhi
    rw [slotStart_eq hw]
    omega
  have hprogram : (chip.issue (dfWriteFlashDirect (cyclePage w)
      (cycleInPageAddr w) c.report.toList)).flash x = chip.flash x := by
    rw [hcmds, Chip.issue_flash]
    apply execAll_of_untouched
    rw [untouched_programBytes_iff, hlen]
    omega
  rw [← hprogram]
  cases c.fault with
  | none => rfl
  | some bytes => exact if_neg (by omega)

/-! ## One failed call -/

/-- The failure is one too many in a row. -/
def FourthFailure (d : Device) : Prop :=
  3 < (d.cycleWriteAbnormalCounter + 1) % 4294967296

instance (d : Device) : Decidable (FourthFailure d) := Nat.decLt _ _

section Step

variable {d : Device} {c : CycleCall}

/-- The chip when the slot of the call is programmed. -/
def CycleCall.tried (c : CycleCall) (d : Device) : Chip :=
  triedChip c.fault d c.report.toList

/-- What a call that returns false does. -/
theorem Fails.cases (h : Fails d c) :
    ¬ PassesSave (slotContent (c.tried d) d.cycleWrite) ∧
      (cycleCall d c).cycleWrite = nextCycle d.cycleWrite ∧
      (cycleCall d c).chip =
        if FourthFailure d then
          (c.tried d).issue
            [sst25vSectorErase4KByte (cyclePage d.cycleWrite * pageSize)]
        else c.tried d := by
  rw [← saveCycleSub2FcsReadJudge_iff]
  unfold Fails apiCycleWriteWith saveCycleGPSWith at h
  unfold cycleCall apiCycleWriteWith saveCycleGPSWith
  dsimp only at h ⊢
  rw [← CycleCall.tried] at h ⊢
  by_cases hjudge : saveCycleSub2FcsReadJudge (c.tried d)
      (cyclePage d.cycleWrite) (cycleInPageAddr d.cycleWrite) = true
  · rw [if_pos hjudge] at h
    exact absurd h Bool.false_ne_true.symm
  · rw [if_neg hjudge]
    refine ⟨hjudge, ?_⟩
    by_cases hfourth : FourthFailure d
    · have hcounter : (d.cycleWriteAbnormalCounter + 1) % 4294967296 > 3 :=
        hfourth
      rw [if_pos hcounter, if_pos hfourth]
      exact ⟨rfl, rfl⟩
    · have hcounter : ¬ (d.cycleWriteAbnormalCounter + 1) % 4294967296 > 3 :=
        hfourth
      rw [if_neg hcounter, if_neg hfourth]
      exact ⟨rfl, rfl⟩

/-- The call leaves a slot alone: it is not made to the slot, it does not enter
the sector of the slot, and it is not a fourth failure in that sector. -/
structure Spares (slot : ℕ) (d : Device) (c : CycleCall) : Prop where
  other : d.cycleWrite ≠ slot
  entered : ¬ (d.cycleWrite % 128 = 0 ∧ d.cycleWrite / 128 = slot / 128)
  erased : ¬ (FourthFailure d ∧ d.cycleWrite / 128 = slot / 128)

instance (slot : ℕ) (d : Device) (c : CycleCall) :
    Decidable (Spares slot d c) :=
  decidable_of_iff
    (d.cycleWrite ≠ slot ∧
      ¬ (d.cycleWrite % 128 = 0 ∧ d.cycleWrite / 128 = slot / 128) ∧
      ¬ (FourthFailure d ∧ d.cycleWrite / 128 = slot / 128))
    ⟨fun ⟨h₁, h₂, h₃⟩ => ⟨h₁, h₂, h₃⟩,
      fun ⟨h₁, h₂, h₃⟩ => ⟨h₁, h₂, h₃⟩⟩

theorem not_passesSave_erased : ¬ PassesSave (List.replicate 31 0xFF) := by
  rintro ⟨hfirst, -⟩
  exact hfirst ⟨rfl, rfl⟩

/-- Another slot when the slot of `cycle_write` has been programmed. -/
theorem slotContent_tried {slot : ℕ} (hwrite : d.cycleWrite < maxCycleNum)
    (hslot : slot < maxCycleNum) (hne : slot ≠ d.cycleWrite) :
    slotContent (c.tried d) slot =
      if d.cycleWrite % 128 = 0 ∧ d.cycleWrite / 128 = slot / 128 then
        List.replicate 31 0xFF
      else slotContent d.chip slot := by
  rw [CycleCall.tried, triedChip, slotContent_program _ hwrite hslot hne]
  by_cases hfirst : d.cycleWrite % 128 = 0
  · rw [if_pos (by omega), slotContent_erase _ hwrite hslot]
    by_cases hsame : d.cycleWrite / 128 = slot / 128
    · rw [if_pos hsame.symm, if_pos ⟨hfirst, hsame⟩]
    · rw [if_neg (Ne.symm hsame), if_neg fun h => hsame h.2]
  · rw [if_neg (by omega), Chip.issue_nil, if_neg fun h => hfirst h.1]

/-- A spared slot keeps its content. -/
theorem Fails.slotContent_of_spares {slot : ℕ} (h : Fails d c)
    (hwrite : d.cycleWrite < maxCycleNum) (hslot : slot < maxCycleNum)
    (hspares : Spares slot d c) :
    slotContent (cycleCall d c).chip slot = slotContent d.chip slot := by
  obtain ⟨-, -, hchip⟩ := h.cases
  have htried := slotContent_tried (c := c) hwrite hslot hspares.other.symm
  rw [if_neg hspares.entered] at htried
  rw [hchip, ← htried]
  split
  · rename_i hfourth
    rw [slotContent_erase _ hwrite hslot,
      if_neg fun hsame => hspares.erased ⟨hfourth, hsame.symm⟩]
  · rfl

/-- What a failed call puts into a slot that it does not spare, or leaves in one
that is lost already, is not taken for saved. -/
theorem Fails.lost {slot : ℕ} (h : Fails d c)
    (hwrite : d.cycleWrite < maxCycleNum) (hslot : slot < maxCycleNum)
    (hlost : ¬ Spares slot d c ∨ ¬ PassesSave (slotContent d.chip slot)) :
    ¬ PassesSave (slotContent (cycleCall d c).chip slot) := by
  obtain ⟨hjudge, -, hchip⟩ := h.cases
  have htried : ¬ (FourthFailure d ∧ d.cycleWrite / 128 = slot / 128) →
      ¬ PassesSave (slotContent (c.tried d) slot) := by
    intro herased
    by_cases hother : d.cycleWrite = slot
    · exact hother ▸ hjudge
    · rw [slotContent_tried hwrite hslot (Ne.symm hother)]
      split
      · exact not_passesSave_erased
      · rename_i hentered
        exact hlost.resolve_left fun hno => hno ⟨hother, hentered, herased⟩
  rw [hchip]
  split
  · rename_i hfourth
    rw [slotContent_erase _ hwrite hslot]
    split
    · exact not_passesSave_erased
    · rename_i hsector
      exact htried fun herased => hsector herased.2.symm
  · rename_i hfourth
    exact htried fun herased => hfourth herased.1

theorem Fails.cycleWrite_lt (h : Fails d c) :
    (cycleCall d c).cycleWrite < maxCycleNum := by
  rw [h.cases.2.1]
  simp only [nextCycle, bump, maxCycleNum]
  split <;> omega

end Step

/-! ## Sequences of failed calls -/

/-- `ReadCycleGPS` at a slot returns true and the report. -/
def Readable (d : Device) (slot : ℕ) (r : List UInt8) : Prop :=
  (readCycleGPS { d with cycleRead := slot } 31).2 = (r, true)

instance (d : Device) (slot : ℕ) (r : List UInt8) :
    Decidable (Readable d slot r) := inferInstanceAs (Decidable (_ = _))

theorem readable_iff (d : Device) (slot : ℕ) (r : List UInt8) :
    Readable d slot r ↔ slotContent d.chip slot = r ∧ PassesRead r := by
  have hiff := readCycleGPS_iff { d with cycleRead := slot }
  have hcontent : (readCycleGPS { d with cycleRead := slot } 31).2.1 =
      slotContent d.chip slot := by
    rw [readCycleGPS]
    split <;> rfl
  rw [Readable, Prod.ext_iff, hcontent]
  constructor
  · rintro ⟨rfl, hread⟩
    exact ⟨rfl, hiff.mp hread⟩
  · rintro ⟨rfl, hpasses⟩
    exact ⟨rfl, hiff.mpr hpasses⟩

/-- A report saved under a slot: it passed the check behind the write, and it
can be read. -/
structure SavedAt (d : Device) (slot : ℕ) (r : List UInt8) : Prop where
  slot_lt : slot < maxCycleNum
  passed : PassesSave r
  readable : Readable d slot r

/-- A lost slot stays lost. -/
theorem lost_run {d : Device} {slot : ℕ} (cs : List CycleCall)
    (hwrite : d.cycleWrite < maxCycleNum) (hslot : slot < maxCycleNum)
    (hfail : Meeting cycleCall Fails d cs)
    (hlost : ¬ PassesSave (slotContent d.chip slot)) :
    ¬ PassesSave (slotContent (cs.foldl cycleCall d).chip slot) := by
  induction cs generalizing d with
  | nil => exact hlost
  | cons c cs ih =>
      exact ih hfail.1.cycleWrite_lt hfail.2
        (hfail.1.lost hwrite hslot (Or.inr hlost))

theorem slotContent_failures_iff {d : Device} {slot : ℕ} (cs : List CycleCall)
    (hwrite : d.cycleWrite < maxCycleNum) (hslot : slot < maxCycleNum)
    (hfail : Meeting cycleCall Fails d cs)
    (hsaved : PassesSave (slotContent d.chip slot)) :
    slotContent (cs.foldl cycleCall d).chip slot = slotContent d.chip slot ↔
      Meeting cycleCall (Spares slot) d cs := by
  induction cs generalizing d with
  | nil => exact iff_of_true rfl trivial
  | cons c cs ih =>
      have hwrite' := hfail.1.cycleWrite_lt
      by_cases hspares : Spares slot d c
      · have hkept := hfail.1.slotContent_of_spares hwrite hslot hspares
        have htail := ih hwrite' hfail.2 (hkept.symm ▸ hsaved)
        rw [hkept] at htail
        exact htail.trans (and_iff_right hspares).symm
      · have hlost := lost_run cs hwrite' hslot hfail.2
          (hfail.1.lost hwrite hslot (Or.inl hspares))
        refine iff_of_false (fun hsame => ?_) fun hmeets => hspares hmeets.1
        rw [List.foldl_cons] at hsame
        rw [hsame] at hlost
        exact hlost hsaved

/-- After a sequence of calls that all return false, a saved report is readable
as it was exactly when every one of them spared its slot. -/
theorem readable_failures_iff (d : Device) (cs : List CycleCall) (slot : ℕ)
    (r : List UInt8) (hwrite : d.cycleWrite < maxCycleNum)
    (hfail : Meeting cycleCall Fails d cs) (hsaved : SavedAt d slot r) :
    Readable (cs.foldl cycleCall d) slot r ↔
      Meeting cycleCall (Spares slot) d cs := by
  have hread := (readable_iff d slot r).mp hsaved.readable
  have hcontent := slotContent_failures_iff cs hwrite hsaved.slot_lt hfail
    (hread.1.symm ▸ hsaved.passed)
  rw [readable_iff, and_iff_left hread.2, ← hcontent, hread.1]

/-- A report. -/
def sampleReport : Vector UInt8 31 :=
  ⟨CycleQueue.sampleReport.toArray, by decide⟩

/-- A queue with one report, saved in slot 0. -/
def oneSaved : Device :=
  { Device.initial with
    chip := Chip.blank.issue
      (dfWriteFlashDirect (cyclePage 0) 0 sampleReport.toList)
    cycleWrite := 1 }

/-- A call whose programming goes wrong. -/
def failedCall : CycleCall where
  report := sampleReport
  fault := some (Vector.replicate 31 0x55)

theorem oneSaved_savedAt : SavedAt oneSaved 0 sampleReport.toList :=
  ⟨by decide, ⟨by decide, by decide⟩, by decide +kernel⟩

/-- Three failures in a row leave the report readable. -/
theorem readable_failures_iff_three :
    Readable ((List.replicate 3 failedCall).foldl cycleCall oneSaved) 0
      sampleReport.toList :=
  (readable_failures_iff oneSaved (List.replicate 3 failedCall) 0
    sampleReport.toList (by decide) (by decide +kernel) oneSaved_savedAt).mpr
      (by decide +kernel)

/-- The fourth failure in a row erases it. -/
theorem fourFailures_not_readable :
    SavedAt oneSaved 0 sampleReport.toList ∧
      Meeting cycleCall Fails oneSaved (List.replicate 4 failedCall) ∧
      ¬ Readable ((List.replicate 4 failedCall).foldl cycleCall oneSaved) 0
        sampleReport.toList :=
  ⟨oneSaved_savedAt, by decide +kernel, by decide +kernel⟩

end VehicleRecorder.Dataflash
