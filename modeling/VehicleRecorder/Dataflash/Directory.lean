import VehicleRecorder.Dataflash.FlashOper

/-!
# Reading the directory

`Api_DFdirectory_Query` and `Api_DFdirectory_Read` of `Device_808.c`, with the
read functions of `Flash_Oper.c` under them.  A read function copies a slot to
its buffer before it looks at the content; what it then decides changes read
indices only.
-/

namespace VehicleRecorder.Dataflash

open NorFlash Bytes

/-! ## Reading slots -/

/-- The slot of an index: `per` slots to a page, `width` bytes apart. -/
def readSlot (start per width : ℕ) (chip : Chip) (inRead len : ℕ) :
    List UInt8 :=
  dfReadFlash chip (start + inRead / per) (u16 (inRead % per * width)) len

/-- The last byte is not the XOR of the others. -/
def fcsWrong (content : List UInt8) : Prop :=
  content.getLastD 0 ≠ xorSum content.dropLast

instance (content : List UInt8) : Decidable (fcsWrong content) :=
  inferInstanceAs (Decidable (_ ≠ _))

/-- `Read_DrvRecoder`. -/
def readDrvRecoder (d : Device) (inRead len : ℕ) : Device × List UInt8 :=
  let content := readSlot vehicleRecStartOffset 2 256 d.chip inRead len
  let d :=
    if content.headD 0 = 0xFF then { d with recorderRead := d.recorderWrite }
    else if fcsWrong content then
      { d with recorderRead := bump maxRecoderNum d.recorderRead }
    else d
  (d, content)

/-- `Read_PerMinContent`. -/
def readPerMinContent (d : Device) (inRead len : ℕ) : Device × List UInt8 :=
  let content := readSlot averageSpdStartOffset 7 70 d.chip inRead len
  let d :=
    if content.headD 0 = 0xFF then
      { d with avrgSpdPerMinRead := d.avrgSpdPerMinWrite }
    else if fcsWrong content then
      { d with avrgSpdPerMinRead := bump maxSpdsPerMin d.avrgSpdPerMinRead }
    else d
  (d, content)

/-- The switch of `Common_ReadContent` for an empty slot. -/
def skipCommonRead (d : Device) : RecordType → Device
  | .tiredDrvAdd => { d with tiredDrvRead := d.tiredDrvWrite }
  | .expSpdAdd => { d with expSpdRecRead := d.expSpdRecWrite }
  | .accFireAdd => { d with onFireRecRead := d.onFireRecWrite }
  | .avrgSpdAdd => { d with avrgSpdPerMinRead := d.avrgSpdPerMinWrite }
  | .errorLogAdd => { d with errorLogRead := d.errorLogWrite }
  | .logInAdd => { d with loginRead := d.loginWrite }
  | .powerCutAdd => { d with powercutRead := d.powercutWrite }
  | .settingChgAdd => { d with settingchgRead := d.settingchgWrite }
  | _ => d

/-- `Common_ReadContent`; for a type without a log the buffer is not written. -/
def commonReadContent (d : Device) (inRead len : ℕ) (type : RecordType) :
    Device × Option (List UInt8) :=
  match type.startOffset with
  | none => (d, none)
  | some start =>
      let content := readSlot start 16 32 d.chip inRead len
      let d := if content.headD 0 = 0xFF then skipCommonRead d type else d
      (d, some content)

/-! ## The directory -/

/-- `PicStart_offset`. -/
abbrev picStartOffset : ℕ := 4096

/-- `PicStart_offset2`. -/
abbrev picStartOffset2 : ℕ := 4424

/-- `PicStart_offset3`. -/
abbrev picStartOffset3 : ℕ := 4752

/-- `PicStart_offset4`. -/
abbrev picStartOffset4 : ℕ := 5080

/-- The size in the header of a picture or the sound file: the four bytes at
offset `at` of a page. -/
def storedSize (chip : Chip) (page offset : ℕ) : ℕ :=
  leValue (((dfReadFlash chip page 0 (offset + 4)).drop offset).take 4)

/-- `Api_DFdirectory_Query`.  For pictures and sound `returnType` is not looked
at. -/
def apiDFdirectoryQuery (d : Device) : DirectoryName → ℕ
  | .spdpermin => d.avrgSpdPerMinWrite
  | .tiredWarn => d.tiredDrvWrite
  | .camera1 => storedSize d.chip picStartOffset 19
  | .camera2 => storedSize d.chip picStartOffset2 19
  | .camera3 => storedSize d.chip picStartOffset3 19
  | .camera4 => storedSize d.chip picStartOffset4 19
  | .voice => storedSize d.chip soundStartOffset 0
  | _ => 0

/-- `read_addr`: `style` 1 counts from the oldest, 0 from the newest of `write`
records; `none` if there is no such record. -/
def readAddr (write style numPacket : ℕ) : Option ℕ :=
  if style = 1 then some (u16 numPacket)
  else if write = 0 then none
  else if write ≥ numPacket + 1 then some (u16 (write - 1 - numPacket))
  else none

/-- `Api_DFdirectory_Read`: the bytes put into the buffer, unless it returns
`false`. -/
def apiDFdirectoryRead (d : Device) (name : DirectoryName)
    (len style numPacket : ℕ) : Device × Option (List UInt8) :=
  match name with
  | .spdpermin =>
      match readAddr d.avrgSpdPerMinWrite style numPacket with
      | none => (d, none)
      | some i =>
          let (d, content) := readPerMinContent d i len
          (d, some content)
  | .spdWarn =>
      match readAddr d.expSpdRecWrite style numPacket with
      | none => (d, none)
      | some i => commonReadContent d i len .expSpdAdd
  | .tiredWarn =>
      match readAddr d.tiredDrvWrite style numPacket with
      | none => (d, none)
      | some i => commonReadContent d i len .tiredDrvAdd
  | .doubtData =>
      match readAddr d.recorderWrite style numPacket with
      | none => (d, none)
      | some i =>
          let (d, content) := readDrvRecoder d i len
          (d, some content)
  | .voice =>
      if style = 0 then (d, none)
      else (d, some (dfReadFlash d.chip (soundStartOffset + numPacket) 0 len))
  | .camera1 =>
      (d, some (dfReadFlash d.chip (picStartOffset + numPacket) 0 len))
  | .camera2 =>
      (d, some (dfReadFlash d.chip (picStartOffset2 + numPacket) 0 len))
  | .camera3 =>
      (d, some (dfReadFlash d.chip (picStartOffset3 + numPacket) 0 len))
  | .camera4 =>
      (d, some (dfReadFlash d.chip (picStartOffset4 + numPacket) 0 len))
  | .other => (d, none)

/-! ## Deleting pictures -/

/-- `SST25V_BlockErase_32KByte`: the eight sectors of the block. -/
def sst25vBlockErase32KByte (addr : ℕ) : List Cmd :=
  (List.range 8).map fun i =>
    .erase ((spiAddress addr / 32768 * 8 + i) * sectorSize)

/-- `SST25V_BlockErase_64KByte`: the sixteen sectors of the block. -/
def sst25vBlockErase64KByte (addr : ℕ) : List Cmd :=
  (List.range 16).map fun i =>
    .erase ((spiAddress addr / 65536 * 16 + i) * sectorSize)

/-- `Api_DFdirectory_Delete`. -/
def apiDFdirectoryDelete (d : Device) : DirectoryName → Device × Bool
  | .voice =>
      (d.issue (sst25vBlockErase32KByte (soundStartOffset * 512)), true)
  | .camera1 =>
      (d.issue (sst25vBlockErase64KByte (picStartOffset * 512)), true)
  | .camera2 =>
      (d.issue (sst25vBlockErase64KByte (picStartOffset2 * 512)), true)
  | .camera3 =>
      (d.issue (sst25vBlockErase64KByte (picStartOffset3 * 512)), true)
  | .camera4 =>
      (d.issue (sst25vBlockErase64KByte (picStartOffset4 * 512)), true)
  | _ => (d, false)

/-- The erased block is the aligned one that the address lies in. -/
theorem execAll_blockErase64KByte {addr : ℕ} (haddr : addr < 16777216)
    (f : Flash) (x : ℕ) :
    execAll sectorSize f (sst25vBlockErase64KByte addr) x =
      if x / 65536 = addr / 65536 then 0xFF else f x := by
  rw [sst25vBlockErase64KByte, execAll_erases (by decide), spiAddress,
    Nat.mod_eq_of_lt haddr]
  congr 1
  simp only [eq_iff_iff, sectorSize]
  omega

/-! ## What a read leaves as it is -/

/-- Two devices differ in their read indices at most. -/
structure SameRecords (d d' : Device) : Prop where
  chip : d'.chip = d.chip
  speeds : d'.avrgSpdPerMinWrite = d.avrgSpdPerMinWrite
  tired : d'.tiredDrvWrite = d.tiredDrvWrite

namespace SameRecords

theorem refl (d : Device) : SameRecords d d := ⟨rfl, rfl, rfl⟩

theorem trans {d d' d'' : Device} (h : SameRecords d d')
    (h' : SameRecords d' d'') : SameRecords d d'' :=
  ⟨h'.chip.trans h.chip, h'.speeds.trans h.speeds, h'.tired.trans h.tired⟩

end SameRecords

theorem readSlot_length (start per width : ℕ) (chip : Chip) (inRead : ℕ)
    {len : ℕ} (hlen : len < 65536) :
    (readSlot start per width chip inRead len).length = len := by
  rw [readSlot, dfReadFlash, List.length_map, List.length_range]
  exact Nat.mod_eq_of_lt hlen

variable (d : Device)

theorem readPerMinContent_sameRecords (inRead len : ℕ) :
    SameRecords d (readPerMinContent d inRead len).1 := by
  rw [readPerMinContent]
  dsimp only
  split_ifs <;> exact ⟨rfl, rfl, rfl⟩

theorem commonReadContent_tired (inRead len : ℕ) :
    ∃ d', SameRecords d d' ∧
      commonReadContent d inRead len .tiredDrvAdd =
        (d', some (readSlot tiredDrvStartOffset 16 32 d.chip inRead len)) := by
  refine ⟨_, ?_, rfl⟩
  split_ifs <;> exact ⟨rfl, rfl, rfl⟩

end VehicleRecorder.Dataflash
