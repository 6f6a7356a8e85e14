import VehicleRecorder.Lib.RingLog
import VehicleRecorder.Dataflash.RecordAdd

/-!
# Stored position reports

Position reports of 31 bytes are saved in a ring of 16384 slots of 32 bytes and
sent from there, oldest first, when the link allows.  `cycle_write` and
`cycle_read` index the ring; a report counts as sent only when the centre has
acknowledged it.

The module translates the functions of `Flash_Oper.c`, `Device_808.c` and
`app_808.c` that work on the ring, and shows that saving an acceptable report
is an append to a ring log.
-/

namespace VehicleRecorder.Dataflash

open NorFlash Bytes

/-- `Max_CycleNum`. -/
abbrev maxCycleNum : ℕ := 16384

/-- `CycleStart_offset`. -/
abbrev cycleStartOffset : ℕ := 1768

/-- `cycle_write++` and `cycle_read++` with the wrap behind them. -/
def nextCycle (n : ℕ) : ℕ := bump maxCycleNum n

/-- The page and the in-page address of a slot. -/
def cyclePage (n : ℕ) : ℕ := n / 16 + cycleStartOffset

def cycleInPageAddr (n : ℕ) : ℕ := u16 (n % 16 * 32)

/-- `SaveCycleSub_1_RdSaveOperate`, which always returns `true`. -/
def saveCycleSub1 (d : Device) (page offset : ℕ) (p : List UInt8) : Device :=
  { d.issue (dfWriteFlashDirect page offset p) with currentState := 0 }

/-- `SaveCycleSub_2_FCS_read_judge`. -/
def saveCycleSub2FcsReadJudge (chip : Chip) (page offset : ℕ) : Bool :=
  let reg := dfReadFlash chip page offset 31
  if reg.getD 0 0 = 0xFF ∧ reg.getD 1 0 = 0xFF then false
  else reg.getD 30 0 = xorSum (reg.take 30)

/-- `SaveCycleGPS`.  The index argument of the source is not used; since the
first sub-function always succeeds, the retry branch is never entered. -/
def saveCycleGPS (d : Device) (content : List UInt8) : Device × Bool :=
  let page := cyclePage d.cycleWrite
  let inPageAddr := cycleInPageAddr d.cycleWrite
  let d₁ := d.issue
    (if d.cycleWrite / 16 % 8 = 0 ∧ d.cycleWrite % 16 = 0 then
      [sst25vSectorErase4KByte (page * pageSize)]
    else [])
  let d₂ := saveCycleSub1 d₁ page inPageAddr content
  if saveCycleSub2FcsReadJudge d₂.chip page inPageAddr then
    ({ d₂ with cycleWriteAbnormalCounter := 0 }, true)
  else
    let counter := (d₂.cycleWriteAbnormalCounter + 1) % 4294967296
    let d₃ := { d₂ with cycleWrite := nextCycle d₂.cycleWrite }
    if counter > 3 then
      ({ d₃.issue [sst25vSectorErase4KByte (page * pageSize)] with
          cycleWriteAbnormalCounter := 0 }, false)
    else ({ d₃ with cycleWriteAbnormalCounter := counter }, false)

/-- `Api_cycle_write`. -/
def apiCycleWrite (d : Device) (buffer : List UInt8) : Device × Bool :=
  match saveCycleGPS d buffer with
  | (d₁, true) =>
      let d₂ := { d₁ with cycleWrite := nextCycle d₁.cycleWrite }
      (dfWriteRecordAdd d₂ d₂.cycleWrite d₂.cycleRead .cycleAdd, true)
  | (d₁, false) => (d₁, false)

/-- The bookkeeping of a failed read: skip the slot and ask for a report of the
current position. -/
def skipCycleRead (d : Device) : Device :=
  { d with
    cycleRead := nextCycle d.cycleRead
    readCycleStatus := .idle
    positionSdEnable := true
    currentUdpSd := 1
    readFailSdCurrent := 1 }

/-- The test of `ReadCycleGPS` on what it read. -/
def readCycleRejects (content : List UInt8) (readLen : ℕ) : Bool :=
  let fcs := xorSum (content.take (readLen - 1))
  let c₀ := content.getD 0 0
  let c₁ := content.getD 1 0
  (content.getD (readLen - 1) 0 ≠ fcs ∧ c₀ ≠ 0xFF ∧ c₁ ≠ 0xFF) ∨ c₀ = 0xFF ∨
    (c₀ = 0 ∧ c₁ = 0xFF)

/-- `ReadCycleGPS`, with the content it stored for the caller. -/
def readCycleGPS (d : Device) (readLen : ℕ) : Device × List UInt8 × Bool :=
  let content := dfReadFlash d.chip (cyclePage d.cycleRead)
    (cycleInPageAddr d.cycleRead) readLen
  if readCycleRejects content readLen then (skipCycleRead d, content, false)
  else (d, content, true)

/-- `Api_cycle_read`. -/
def apiCycleRead (d : Device) (len : ℕ) : Device × List UInt8 × Bool :=
  readCycleGPS d len

/-- `CHK_ReadCycle_status`. -/
def chkReadCycleStatus (d : Device) : Device :=
  if d.readCycleStatus = .idle then
    if d.cycleWrite ≠ d.cycleRead then { d with readCycleStatus := .rdyToSd }
    else { d with readCycleStatus := .idle }
  else d

/-- `Api_cycle_Update`. -/
def apiCycleUpdate (d : Device) : Device :=
  if d.readCycleStatus = .sdOver then
    { d with
      cycleRead := nextCycle d.cycleRead
      readCycleStatus := .idle
      readCycleTimer := 0 }
  else d

/-- The branch of `Do_SendGPSReport_GPRS` for stored reports, with the content
`Stuff_Normal_Data_0200H` read into the packet when it sent one. -/
def sendSavedReport (d : Device) : Device × Option (List UInt8) :=
  if d.readCycleStatus = .rdyToSd then
    match apiCycleRead d 31 with
    | (d₁, content, true) =>
        ({ d₁ with readCycleStatus := .sdOver }, some content)
    | (d₁, _, false) => (d₁, none)
  else (d, none)

/-- The acknowledgement timeout in `timeout_app`, run once a second. -/
def readCycleTimeout (d : Device) : Device :=
  if d.readCycleStatus = .sdOver then
    let timer := (d.readCycleTimer + 1) % 256
    if timer > 5 then
      { d with readCycleTimer := 0, readCycleStatus := .idle }
    else { d with readCycleTimer := timer }
  else d

/-! ## Acceptable reports -/

/-- A report as `Save_GPS` builds it: 31 bytes, the last one the XOR of the
others, and neither `0xFF` nor `0x00, 0xFF` in front. -/
structure Acceptable (r : List UInt8) : Prop where
  length : r.length = 31
  checksum : r.getD 30 0 = xorSum (r.take 30)
  first : r.getD 0 0 ≠ 0xFF
  second : ¬ (r.getD 0 0 = 0 ∧ r.getD 1 0 = 0xFF)

instance (r : List UInt8) : Decidable (Acceptable r) :=
  decidable_of_iff
    (r.length = 31 ∧ r.getD 30 0 = xorSum (r.take 30) ∧ r.getD 0 0 ≠ 0xFF ∧
      ¬ (r.getD 0 0 = 0 ∧ r.getD 1 0 = 0xFF))
    ⟨fun ⟨h₁, h₂, h₃, h₄⟩ => ⟨h₁, h₂, h₃, h₄⟩,
      fun ⟨h₁, h₂, h₃, h₄⟩ => ⟨h₁, h₂, h₃, h₄⟩⟩

theorem Acceptable.not_rejected {r : List UInt8} (h : Acceptable r) :
    readCycleRejects r 31 = false := by
  simp only [readCycleRejects, decide_eq_false_iff_not]
  rintro (⟨hfcs, -, -⟩ | hff | hzero)
  · exact hfcs h.checksum
  · exact h.first hff
  · exact h.second hzero

theorem rejects_erased : readCycleRejects (List.replicate 31 0xFF) 31 = true := by
  decide

/-! ## The ring as a ring log -/

/-- The layout of the ring. -/
def cycleRing : RingLog.Layout where
  size := sectorSize
  per := 128
  sectors := 128
  width := 31
  slotAddr := fun i => (i / 16 + 1768) * 512 + i % 16 * 32
  sectorAddr := fun j => (8 * j + 1768) * 512
  per_pos := by decide
  sectors_pos := by decide
  width_pos := by decide
  slot_sector := by
    intro i hi x hlo hhi
    simp only [sectorSize]
    omega
  sector_inj := by
    intro i hi j hj h
    simp only [sectorSize] at h
    omega
  slot_slot := by
    intro i j hij hj
    omega

theorem cycleRing_addrOf (k : ℕ) :
    cycleRing.addrOf k =
      (k % 16384 / 16 + 1768) * 512 + k % 16384 % 16 * 32 := rfl

theorem nextCycle_mod (k : ℕ) : nextCycle (k % 16384) = (k + 1) % 16384 := by
  simp only [nextCycle, bump, maxCycleNum]
  split <;> omega

/-- Reading the slot of record `k`. -/
theorem dfReadFlash_cycle (chip : Chip) (k : ℕ) :
    dfReadFlash chip (cyclePage (k % 16384)) (cycleInPageAddr (k % 16384)) 31 =
      readBytes chip.flash (cycleRing.addrOf k) 31 := by
  have haddr : cycleInPageAddr (k % 16384) = k % 16384 % 16 * 32 :=
    Nat.mod_eq_of_lt (by omega)
  have hpage : cyclePage (k % 16384) < 8192 := by
    simp only [cyclePage, cycleStartOffset]
    omega
  rw [haddr, dfReadFlash_eq chip hpage (by omega), cycleRing_addrOf, cyclePage]

/-- The erase and program commands of `SaveCycleGPS` are an append. -/
theorem saveCycle_cmds (k : ℕ) {r : List UInt8} (hr : r.length = 31) :
    (if k % 16384 / 16 % 8 = 0 ∧ k % 16384 % 16 = 0 then
        [sst25vSectorErase4KByte (cyclePage (k % 16384) * pageSize)]
      else []) ++
        dfWriteFlashDirect (cyclePage (k % 16384))
          (cycleInPageAddr (k % 16384)) r =
      RingLog.appendCmds cycleRing k r := by
  have haddr : cycleInPageAddr (k % 16384) = k % 16384 % 16 * 32 :=
    Nat.mod_eq_of_lt (by omega)
  have herase : cyclePage (k % 16384) < 8192 := by
    simp only [cyclePage, cycleStartOffset]
    omega
  have hsector : k % 128 = 0 →
      cyclePage (k % 16384) * 512 = cycleRing.sectorAddr (k / 128 % 128) := by
    intro hk
    simp only [cyclePage, cycleStartOffset, cycleRing]
    omega
  rw [haddr, dfWriteFlashDirect_eq herase (by omega),
    sst25vSectorErase4KByte_eq herase, RingLog.appendCmds]
  congr 1
  by_cases hk : k % 128 = 0
  · rw [if_pos (by omega), hsector hk]
    exact (if_pos hk).symm
  · rw [if_neg (by omega)]
    exact (if_neg hk).symm

/-- The bytes of the ring lie outside every pointer log. -/
theorem not_owns_cycle (type : RecordType) {k x : ℕ}
    (hx : cycleRing.InSlot k x) : ¬ type.Owns x := by
  have hlo := hx.1
  have hlt := type.addOffset_lt
  have hmod := type.addOffset_mod
  rw [cycleRing_addrOf] at hlo
  simp only [RecordType.Owns, sectorSize]
  omega

/-- `SaveCycleGPS` appends an acceptable report, which then reads back. -/
theorem saveCycleGPS_acceptable {d : Device} {saved : List (List UInt8)}
    {r : List UInt8} (hwrite : d.cycleWrite = saved.length % 16384)
    (hring : RingLog.Holds cycleRing d.chip.flash saved)
    (hr : Acceptable r) :
    saveCycleGPS d r =
      ({ d.issue (RingLog.appendCmds cycleRing saved.length r) with
          currentState := 0
          cycleWriteAbnormalCounter := 0 }, true) := by
  have hcmds := saveCycle_cmds saved.length hr.length
  rw [← hwrite] at hcmds
  have hread : readBytes (d.chip.issue
      (RingLog.appendCmds cycleRing saved.length r)).flash
      (cycleRing.addrOf saved.length) 31 = r :=
    (hring.append cycleRing hr.length).live saved.length r
      List.getElem?_concat_length (by
        rw [List.length_append, List.length_singleton]
        exact RingLog.live_self cycleRing saved.length)
  have hjudge : saveCycleSub2FcsReadJudge
      (d.chip.issue (RingLog.appendCmds cycleRing saved.length r))
      (cyclePage d.cycleWrite) (cycleInPageAddr d.cycleWrite) = true := by
    rw [saveCycleSub2FcsReadJudge, hwrite, dfReadFlash_cycle, hread,
      if_neg (fun h => hr.first h.1)]
    exact decide_eq_true hr.checksum
  simp only [saveCycleGPS, saveCycleSub1, ← Device.issue_append, hcmds,
    Device.issue_chip, hjudge, if_true]

/-- The pointer write of `Api_cycle_write`, after a save that issued `cmds`. -/
def cyclePointerCmds (d : Device) (cmds : List Cmd) (n : ℕ) : List Cmd :=
  recordAddCmds (d.chip.issue cmds) (n % 16384) d.cycleRead .cycleAdd

/-- Saving an acceptable report succeeds, whatever the backlog: it is appended
to the ring, and then the pointer log is written. -/
theorem apiCycleWrite_acceptable {d : Device} {saved : List (List UInt8)}
    {r : List UInt8} (hwrite : d.cycleWrite = saved.length % 16384)
    (hring : RingLog.Holds cycleRing d.chip.flash saved)
    (hr : Acceptable r) :
    let cmds := RingLog.appendCmds cycleRing saved.length r
    apiCycleWrite d r =
      ({ d.issue (cmds ++ cyclePointerCmds d cmds (saved.length + 1)) with
          currentState := 0
          cycleWriteAbnormalCounter := 0
          cycleWrite := (saved.length + 1) % 16384 }, true) := by
  intro cmds
  rw [apiCycleWrite, saveCycleGPS_acceptable hwrite hring hr]
  simp only [dfWriteRecordAdd, Device.issue, hwrite, nextCycle_mod,
    cyclePointerCmds, Chip.issue_append, cmds]

theorem untouched_cyclePointerCmds (d : Device) (cmds : List Cmd) (n : ℕ)
    {k x : ℕ} (hx : cycleRing.InSlot k x) :
    Untouched sectorSize (cyclePointerCmds d cmds n) x :=
  untouched_recordAddCmds _ _ _ (not_owns_cycle .cycleAdd hx)

/-- The ring after a save. -/
theorem holds_apiCycleWrite {d : Device} {saved : List (List UInt8)}
    {r : List UInt8} (hwrite : d.cycleWrite = saved.length % 16384)
    (hring : RingLog.Holds cycleRing d.chip.flash saved)
    (hr : Acceptable r) :
    RingLog.Holds cycleRing (apiCycleWrite d r).1.chip.flash
      (saved ++ [r]) := by
  rw [apiCycleWrite_acceptable hwrite hring hr, Device.issue_append]
  apply (hring.append cycleRing hr.length).of_untouched cycleRing
  intro k x hx
  exact untouched_cyclePointerCmds d _ _ hx

/-- Reading a live record returns it. -/
theorem apiCycleRead_live {d : Device} {saved : List (List UInt8)} {k : ℕ}
    {r : List UInt8} (hread : d.cycleRead = k % 16384)
    (hring : RingLog.Holds cycleRing d.chip.flash saved)
    (hk : saved[k]? = some r) (hlive : RingLog.Live cycleRing saved.length k)
    (hr : Acceptable r) : apiCycleRead d 31 = (d, r, true) := by
  have hcontent := hring.live k r hk hlive
  have hcontent : readBytes d.chip.flash (cycleRing.addrOf k) 31 = r := hcontent
  rw [apiCycleRead, readCycleGPS, hread, dfReadFlash_cycle, hcontent]
  simp only [hr.not_rejected, if_neg Bool.false_ne_true]

/-- Reading an erased slot fails and skips it. -/
theorem apiCycleRead_erased {d : Device} {k : ℕ}
    (hread : d.cycleRead = k % 16384)
    (herased : Erased d.chip.flash (cycleRing.addrOf k) 31) :
    apiCycleRead d 31 = (skipCycleRead d, List.replicate 31 0xFF, false) := by
  rw [apiCycleRead, readCycleGPS, hread, dfReadFlash_cycle,
    readBytes_of_erased herased]
  simp only [rejects_erased, if_true]

end VehicleRecorder.Dataflash
