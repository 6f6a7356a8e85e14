import VehicleRecorder.Dataflash.CycleStore

/-!
# The record logs of `Flash_Oper.c`

Besides the stored position reports the recorder keeps logs of driving data:
speeds per minute and per second, suspicious-event blocks, warnings, positions
per minute, and several short event logs.  Every save function is given an
index, computes a page and an in-page address from it, erases a sector when the
index is the first of one, gives up when the first byte of the slot is not
`0xFF`, and programs the content otherwise.

`Api_DFdirectory_Write` of `Device_808.c` calls them with the write index of
the log, advances the index and saves it in the pointer log.
-/

namespace VehicleRecorder.Dataflash

open NorFlash Bytes

/-! ## Constants -/

/-- `Max_RecoderNum`. -/
abbrev maxRecoderNum : ℕ := 400

/-- `Max_CommonNum`. -/
abbrev maxCommonNum : ℕ := 128

/-- `Max_SPDSperMin`. -/
abbrev maxSpdsPerMin : ℕ := 2800

/-- `Max_SPDerSec`. -/
abbrev maxSpdPerSec : ℕ := 560

/-- `Max_MintPos`. -/
abbrev maxMintPos : ℕ := 48

/-- `VehicleRecStart_offset`. -/
abbrev vehicleRecStartOffset : ℕ := 2792

/-- `AverageSpdStart_offset`. -/
abbrev averageSpdStartOffset : ℕ := 2992

/-- `TiredDrvStart_offset`. -/
abbrev tiredDrvStartOffset : ℕ := 3392

/-- `ExpSpdStart_offset`. -/
abbrev expSpdStartOffset : ℕ := 3400

/-- `AvrgMintPosit_offset`. -/
abbrev avrgMintPositOffset : ℕ := 3408

/-- `AbNormalStart_offset`. -/
abbrev abNormalStartOffset : ℕ := 3420

/-- `AvrgSpdSec_offset`. -/
abbrev avrgSpdSecOffset : ℕ := 3432

/-- `AccWorkOnStart_offset`. -/
abbrev accWorkOnStartOffset : ℕ := 3512

/-- `LogIn_offset`. -/
abbrev logInOffset : ℕ := 3528

/-- `PowerCut_offset`. -/
abbrev powerCutOffset : ℕ := 3536

/-- `SettingChg_offset`. -/
abbrev settingChgOffset : ℕ := 3544

/-- `SoundStart_offdet`. -/
abbrev soundStartOffset : ℕ := 5248

/-! ## Saving into a slot -/

/-- The common body of the save functions: `per` slots of `width` bytes a page,
from page `start` on.  It returns `false` when the slot is in use. -/
def saveSlot (start per width : ℕ) (d : Device) (inWrite : ℕ)
    (content : List UInt8) : Device × Bool :=
  let pageoffset := inWrite / per
  let inPageoffset := inWrite - pageoffset * per
  let inPageAddr := u16 (inPageoffset * width)
  let d₁ := d.issue
    (if pageoffset % 8 = 0 ∧ inPageoffset = 0 then
      [sst25vSectorErase4KByte ((pageoffset + start) * pageSize)]
    else [])
  if (dfReadFlash d₁.chip (pageoffset + start) inPageAddr 1).getD 0 0 ≠ 0xFF
  then (d₁, false)
  else
    (d₁.issue (dfWriteFlashDirect (pageoffset + start) inPageAddr content),
      true)

/-- `Save_DrvRecoder`. -/
def saveDrvRecoder (d : Device) (inWrite : ℕ) (content : List UInt8) :
    Device × Bool :=
  match saveSlot vehicleRecStartOffset 2 256 d inWrite content with
  | (d₁, true) => (d₁, true)
  | (d₁, false) =>
      ({ d₁ with recorderWrite := bump maxRecoderNum d₁.recorderWrite }, false)

/-- `Save_PerMinContent`. -/
def savePerMinContent (d : Device) (inWr : ℕ) (content : List UInt8) :
    Device × Bool :=
  match saveSlot averageSpdStartOffset 7 70 d inWr content with
  | (d₁, true) => (d₁, true)
  | (d₁, false) =>
      ({ d₁ with
          avrgSpdPerMinWrite := bump maxSpdsPerMin d₁.avrgSpdPerMinWrite }, false)

/-- `Save_PerSecContent`. -/
def savePerSecContent (d : Device) (inWr : ℕ) (content : List UInt8) :
    Device × Bool :=
  match saveSlot avrgSpdSecOffset 7 70 d inWr content with
  | (d₁, true) => (d₁, true)
  | (d₁, false) =>
      ({ d₁ with
          avrgSpdPerSecWrite := bump maxSpdPerSec d₁.avrgSpdPerSecWrite }, false)

/-- `Save_MintPosition`, a page a slot. -/
def saveMintPosition (d : Device) (inWrite : ℕ) (content : List UInt8) :
    Device × Bool :=
  match saveSlot avrgMintPositOffset 1 512 d inWrite content with
  | (d₁, true) => (d₁, true)
  | (d₁, false) =>
      ({ d₁ with
          avrgMintPositWrite := bump maxMintPos d₁.avrgMintPositWrite }, false)

/-- `Start_offset` in `Common_WriteContent`, for the types it accepts. -/
def RecordType.startOffset : RecordType → Option ℕ
  | .tiredDrvAdd => some tiredDrvStartOffset
  | .expSpdAdd => some expSpdStartOffset
  | .accFireAdd => some accWorkOnStartOffset
  | .errorLogAdd => some abNormalStartOffset
  | .logInAdd => some logInOffset
  | .powerCutAdd => some powerCutOffset
  | .settingChgAdd => some settingChgOffset
  | _ => none

/-- The second switch of `Common_WriteContent`. -/
def setCommonWrite (d : Device) (inWrite : ℕ) : RecordType → Device × Bool
  | .tiredDrvAdd => ({ d with tiredDrvWrite := inWrite }, true)
  | .expSpdAdd => ({ d with expSpdRecWrite := inWrite }, true)
  | .accFireAdd => ({ d with onFireRecWrite := inWrite }, true)
  | .avrgSpdAdd => ({ d with avrgSpdPerMinWrite := inWrite }, true)
  | .errorLogAdd => ({ d with errorLogWrite := inWrite }, true)
  | .logInAdd => ({ d with loginWrite := inWrite }, true)
  | .powerCutAdd => ({ d with powercutWrite := inWrite }, true)
  | .settingChgAdd => ({ d with settingchgWrite := inWrite }, true)
  | _ => (d, false)

/-- `Common_WriteContent`.  In a used slot it advances its own copy of the
index only. -/
def commonWriteContent (d : Device) (inWrite : ℕ) (content : List UInt8)
    (type : RecordType) : Device × Bool :=
  match type.startOffset with
  | none => (d, false)
  | some start =>
      match saveSlot start 16 32 d inWrite content with
      | (d₁, true) => setCommonWrite d₁ inWrite type
      | (d₁, false) => (d₁, false)

/-! ## The directory -/

/-- The names `Api_DFdirectory_Write` compares with. -/
inductive DirectoryName
  | spdpermin
  | spdWarn
  | tiredWarn
  | doubtData
  | voice
  | camera1
  | camera2
  | camera3
  | camera4
  | other
  deriving DecidableEq, Repr

/-- `Api_DFdirectory_Write`; `buffer` are the `len` bytes at its argument. -/
def apiDFdirectoryWrite (d : Device) (name : DirectoryName)
    (buffer : List UInt8) : Device × Bool :=
  match name with
  | .spdpermin =>
      let d₁ := (savePerMinContent d d.avrgSpdPerMinWrite buffer).1
      let w := bump maxSpdsPerMin d₁.avrgSpdPerMinWrite
      (dfWriteRecordAdd { d₁ with avrgSpdPerMinWrite := w } w w .avrgSpdAdd,
        true)
  | .spdWarn =>
      let d₁ := (commonWriteContent d d.expSpdRecWrite buffer .expSpdAdd).1
      -- the wrap is that of the per-minute log, not `Max_CommonNum`
      let w := bump maxSpdsPerMin d₁.expSpdRecWrite
      (dfWriteRecordAdd { d₁ with expSpdRecWrite := w } w w .expSpdAdd, true)
  | .tiredWarn =>
      let d₁ := (commonWriteContent d d.tiredDrvWrite buffer .tiredDrvAdd).1
      let w := bump maxCommonNum d₁.tiredDrvWrite
      (dfWriteRecordAdd { d₁ with tiredDrvWrite := w } w d₁.tiredDrvRead
        .tiredDrvAdd, true)
  | .doubtData =>
      let d₁ := (saveDrvRecoder d d.recorderWrite buffer).1
      let w := bump maxRecoderNum d₁.recorderWrite
      (dfWriteRecordAdd { d₁ with recorderWrite := w } w d₁.recorderRead
        .vechRecordAdd, true)
  | .voice =>
      (d.issue (dfWriteFlashDirect (soundStartOffset + d.voicePageCounter) 0
        (d.voiceReg.take 500)), true)
  | .camera1 => (d.issue (dfWriteFlashDirect d.picCurrentPage 0 buffer), true)
  | .camera2 => (d.issue (dfWriteFlashDirect d.picCurrentPage 0 buffer), true)
  | .camera3 => (d.issue (dfWriteFlashDirect d.picCurrentPage 0 buffer), true)
  | .camera4 => (d.issue (dfWriteFlashDirect d.picCurrentPage 0 buffer), true)
  | .other => (d, false)

/-! ## What a save issues -/

/-- The index is the first of a sector, so the save erases. -/
def FirstOfSector (per i : ℕ) : Prop := i / per % 8 = 0 ∧ i % per = 0

instance (per i : ℕ) : Decidable (FirstOfSector per i) :=
  inferInstanceAs (Decidable (_ ∧ _))

/-- The address of a slot. -/
def slotAddr (start per width i : ℕ) : ℕ :=
  (start + i / per) * 512 + i % per * width

/-- The save finds its slot in use and gives up. -/
def SlotInUse (start per width : ℕ) (chip : Chip) (i : ℕ) : Prop :=
  ¬ FirstOfSector per i ∧ chip.flash (slotAddr start per width i) ≠ 0xFF

instance (start per width : ℕ) (chip : Chip) (i : ℕ) :
    Decidable (SlotInUse start per width chip i) :=
  inferInstanceAs (Decidable (_ ∧ _))

/-- The erase before a slot. -/
def sectorCmds (start per i : ℕ) : List Cmd :=
  if FirstOfSector per i then [.erase ((start + i / per) * 512)] else []

/-- The commands of `saveSlot`. -/
def slotCmds (start per width : ℕ) (chip : Chip) (i : ℕ)
    (content : List UInt8) : List Cmd :=
  sectorCmds start per i ++
    if SlotInUse start per width chip i then []
    else programBytes (slotAddr start per width i) content

/-- Where a slot of the layout lies inside the part, whatever the content. -/
structure SlotFits (start per width i : ℕ) : Prop where
  per_pos : 0 < per
  width_le : per * width ≤ 512
  page_lt : start + i / per < 8000

theorem SlotFits.inPage_lt {start per width i : ℕ}
    (h : SlotFits start per width i) : i % per * width ≤ 512 := by
  have hmod : i % per ≤ per := Nat.le_of_lt (Nat.mod_lt i h.per_pos)
  exact (Nat.mul_le_mul_right width hmod).trans h.width_le

theorem SlotFits.sectorErase {start per width i : ℕ}
    (h : SlotFits start per width i) :
    (if i / per % 8 = 0 ∧ i - i / per * per = 0 then
        [sst25vSectorErase4KByte ((i / per + start) * pageSize)]
      else []) = sectorCmds start per i := by
  have hpage := h.page_lt
  have hmod : i - i / per * per = i % per := Nat.mod_eq_sub_div_mul.symm
  rw [hmod, Nat.add_comm (i / per), sst25vSectorErase4KByte_eq (by omega)]
  rfl

/-- The place of the slot in its page, as `saveSlot` computes it. -/
theorem SlotFits.inPageAddr {start per width i : ℕ}
    (h : SlotFits start per width i) :
    u16 ((i - i / per * per) * width) = i % per * width := by
  have hin := h.inPage_lt
  have hmod : i - i / per * per = i % per := Nat.mod_eq_sub_div_mul.symm
  rw [hmod]
  exact Nat.mod_eq_of_lt (by omega)

/-- The first byte of the slot after the erase, as `saveSlot` tests it. -/
theorem SlotFits.filter {start per width i : ℕ}
    (h : SlotFits start per width i) (chip : Chip) :
    (dfReadFlash (chip.issue (sectorCmds start per i)) (i / per + start)
        (u16 ((i - i / per * per) * width)) 1).getD 0 0 ≠ 0xFF ↔
      SlotInUse start per width chip i := by
  have hpage := h.page_lt
  have hin := h.inPage_lt
  rw [h.inPageAddr, Nat.add_comm (i / per), dfReadFlash_eq _ (by omega)
    (by omega), readBytes, List.getD_cons_zero, SlotInUse, Chip.issue_flash,
    sectorCmds]
  by_cases hfirst : FirstOfSector per i
  · have herased : execAll sectorSize chip.flash
        [.erase ((start + i / per) * 512)]
        ((start + i / per) * 512 + i % per * width) = 0xFF := by
      rw [hfirst.2, Nat.zero_mul, Nat.add_zero]
      exact exec_erase_of_div_eq sectorSize rfl
    rw [if_pos hfirst, herased]
    exact ⟨fun hne => absurd rfl hne, fun huse => absurd hfirst huse.1⟩
  · rw [if_neg hfirst, execAll_nil]
    exact ⟨fun hne => ⟨hfirst, hne⟩, fun huse => huse.2⟩

/-- A save issues the erase of a new sector and, into a free slot, the
content. -/
theorem saveSlot_eq {start per width i : ℕ} {content : List UInt8}
    (h : SlotFits start per width i) (hlen : content.length < 65536)
    (d : Device) :
    saveSlot start per width d i content =
      (d.issue (slotCmds start per width d.chip i content),
        decide (¬ SlotInUse start per width d.chip i)) := by
  have hpage := h.page_lt
  have hin := h.inPage_lt
  have hfilter := h.filter d.chip
  simp only [saveSlot, h.sectorErase, Device.issue_chip]
  by_cases huse : SlotInUse start per width d.chip i
  · rw [if_pos (hfilter.mpr huse), slotCmds, if_pos huse, List.append_nil,
      decide_eq_false (not_not_intro huse)]
  · rw [if_neg (mt hfilter.mp huse), slotCmds, if_neg huse, h.inPageAddr,
      Nat.add_comm (i / per), dfWriteFlashDirect_eq_of_end (by omega)
        (by omega) (by omega), ← Device.issue_append, decide_eq_true huse]
    rfl

end VehicleRecorder.Dataflash
