import VehicleRecorder.Lib.Bytes
import VehicleRecorder.Lib.FlagLog
import VehicleRecorder.Dataflash.Device

/-!
# The pointer log

`DF_Write_RecordAdd` saves the write and read index of a record log, and
`DF_Read_RecordAdd` restores them at boot.  Each type owns one sector: the
first 448 bytes of its first page flag the used entries, and entry `n` is the
eight bytes at offset `(n % 64) * 8` of page `n / 64 + 1`.

The module translates both functions and shows that they are the commit and
the lookup of a flag log, from which the round trip over any interleaving of
types follows.
-/

namespace VehicleRecorder.Dataflash

open NorFlash Bytes

/-- The record types with a case in the classification switches. -/
inductive RecordType
  | cycleAdd
  | photoAdd
  | tiredDrvAdd
  | expSpdAdd
  | accFireAdd
  | avrgSpdAdd
  | errorLogAdd
  | vechRecordAdd
  | doubtAdd
  | avrgSpdSecAdd
  | logInAdd
  | powerCutAdd
  | settingChgAdd
  | mintPosAdd
  | dayDistancAdd
  | accOnOffCounterAdd
  deriving DecidableEq, Repr

/-- `Add_offset`: the first page of a type's log, in both functions. -/
def RecordType.addOffset : RecordType → ℕ
  | .cycleAdd => 1096
  | .photoAdd => 1104
  | .tiredDrvAdd => 1224
  | .expSpdAdd => 1232
  | .accFireAdd => 1240
  | .avrgSpdAdd => 1248
  | .errorLogAdd => 1256
  | .vechRecordAdd => 1264
  | .doubtAdd => 1288
  | .avrgSpdSecAdd => 1296
  | .logInAdd => 1304
  | .powerCutAdd => 1312
  | .settingChgAdd => 1320
  | .mintPosAdd => 1328
  | .dayDistancAdd => 1280
  | .accOnOffCounterAdd => 1152

/-- `reg`: the two indices as they lie in memory. -/
def pairBytes (wrAddress rdAddress : ℕ) : List UInt8 :=
  leBytes 4 wrAddress ++ leBytes 4 rdAddress

/-- The first index of `head` that holds `0xFF`, or 448. -/
def scanHead (chip : Chip) (type : RecordType) : ℕ :=
  (dfReadFlash chip type.addOffset 0 448).findIdx (· == 0xFF)

/-- The commands `DF_Write_RecordAdd` sends: erase when all 448 flags are used,
then the flag, then the content. -/
def recordAddCmds (chip : Chip) (wrAddress rdAddress : ℕ)
    (type : RecordType) : List Cmd :=
  let erase :=
    if scanHead chip type = 448 then
      [sst25vSectorErase4KByte (8 * (type.addOffset / 8) * pageSize)]
    else []
  let offset := if scanHead chip type = 448 then 0 else scanHead chip type
  let savepage := u16 (type.addOffset + 1 + offset / 64)
  let inpageOffset := offset % 64 * 8
  erase ++ dfWriteFlashDirect type.addOffset offset [0x01] ++
    dfWriteFlashDirect savepage inpageOffset (pairBytes wrAddress rdAddress)

/-- `DF_Write_RecordAdd`, which returns `true` for every type with a case. -/
def dfWriteRecordAdd (d : Device) (wrAddress rdAddress : ℕ)
    (type : RecordType) : Device :=
  d.issue (recordAddCmds d.chip wrAddress rdAddress type)

/-- `Reg_wrAdd` and `Reg_rdAdd` after the reads of `DF_Read_RecordAdd`.  The
decrement of the `u16` scan result wraps when no flag is used. -/
def readRecordAdd (chip : Chip) (type : RecordType) : ℕ × ℕ :=
  let offset := u16 (scanHead chip type + 65535)
  let savepage := u16 (type.addOffset + 1 + offset / 64)
  let inpageOffset := offset % 64 * 8
  (leValue (dfReadFlash chip savepage inpageOffset 4),
    leValue (dfReadFlash chip savepage (inpageOffset + 4) 4))

/-- `DF_Read_RecordAdd`.  The case of the ACC counter assigns nothing, and the
doubt log has no case. -/
def dfReadRecordAdd (d : Device) (type : RecordType) : Device × Bool :=
  let (wr, rd) := readRecordAdd d.chip type
  match type with
  | .cycleAdd => ({ d with cycleWrite := wr, cycleRead := rd }, true)
  | .photoAdd => ({ d with picWrite := wr, picRead := rd }, true)
  | .tiredDrvAdd => ({ d with tiredDrvWrite := wr, tiredDrvRead := rd }, true)
  | .expSpdAdd => ({ d with expSpdRecWrite := wr, expSpdRecRead := rd }, true)
  | .accFireAdd => ({ d with onFireRecWrite := wr, onFireRecRead := rd }, true)
  | .avrgSpdAdd =>
      ({ d with avrgSpdPerMinWrite := wr, avrgSpdPerMinRead := rd }, true)
  | .errorLogAdd => ({ d with errorLogWrite := wr, errorLogRead := rd }, true)
  | .vechRecordAdd => ({ d with recorderWrite := wr, recorderRead := rd }, true)
  | .avrgSpdSecAdd =>
      ({ d with avrgSpdPerSecWrite := wr, avrgSpdPerSecRead := rd }, true)
  | .logInAdd => ({ d with loginWrite := wr, loginRead := rd }, true)
  | .powerCutAdd => ({ d with powercutWrite := wr, powercutRead := rd }, true)
  | .settingChgAdd =>
      ({ d with settingchgWrite := wr, settingchgRead := rd }, true)
  | .mintPosAdd =>
      ({ d with avrgMintPositWrite := wr, avrgMintPositRead := rd }, true)
  | .dayDistancAdd => ({ d with distanceM := wr, dayStartDistance := rd }, true)
  | .accOnOffCounterAdd => (d, true)
  | .doubtAdd => (d, false)

/-! ## The log as a flag log -/

theorem RecordType.addOffset_mod (type : RecordType) :
    type.addOffset % 8 = 0 := by
  cases type <;> rfl

theorem RecordType.addOffset_lt (type : RecordType) :
    type.addOffset < 1329 := by
  cases type <;> decide

theorem RecordType.addOffset_inj {a b : RecordType}
    (h : a.addOffset = b.addOffset) : a = b := by
  cases a <;> cases b <;> first | rfl | exact absurd h (by decide)

/-- The layout of a type's log. -/
def RecordType.layout (type : RecordType) : FlagLog.Layout where
  size := sectorSize
  head := type.addOffset * 512
  slots := 448
  width := 8
  slotAddr := fun n => (type.addOffset + 1 + n / 64) * 512 + n % 64 * 8
  flag := 0x01
  slots_pos := by decide
  flag_ne := by decide
  flag_sector := by
    intro i hi
    have hmod := type.addOffset_mod
    simp only [sectorSize]
    omega
  slot_sector := by
    intro i hi x hlo hhi
    have hmod := type.addOffset_mod
    simp only [sectorSize]
    omega
  flag_slot := by
    intro i hi
    omega
  slot_slot := by
    intro i j hij hj
    omega

@[simp] theorem layout_size (type : RecordType) :
    type.layout.size = sectorSize := rfl

@[simp] theorem layout_width (type : RecordType) : type.layout.width = 8 := rfl

@[simp] theorem layout_slots (type : RecordType) :
    type.layout.slots = 448 := rfl

@[simp] theorem layout_head (type : RecordType) :
    type.layout.head = type.addOffset * 512 := rfl

theorem layout_slotAddr (type : RecordType) (n : ℕ) :
    type.layout.slotAddr n =
      (type.addOffset + 1 + n / 64) * 512 + n % 64 * 8 := rfl

/-- A byte of the type's own sector. -/
def RecordType.Owns (type : RecordType) (x : ℕ) : Prop :=
  x / sectorSize = type.addOffset * 512 / sectorSize

theorem pairBytes_length (wr rd : ℕ) : (pairBytes wr rd).length = 8 := by
  simp [pairBytes]

theorem scanHead_eq (chip : Chip) (type : RecordType) :
    scanHead chip type = FlagLog.used type.layout chip.flash := by
  have hlt := type.addOffset_lt
  rw [scanHead, dfReadFlash_eq chip (by omega) (by omega), Nat.add_zero,
    FlagLog.used, layout_head, layout_slots]

/-- `DF_Write_RecordAdd` is a commit of the flag log. -/
theorem recordAddCmds_eq (chip : Chip) (wr rd : ℕ) (type : RecordType) :
    recordAddCmds chip wr rd type =
      FlagLog.commit type.layout chip.flash (pairBytes wr rd) := by
  have hlt := type.addOffset_lt
  have hmod := type.addOffset_mod
  have hused := FlagLog.used_le type.layout chip.flash
  rw [← scanHead_eq, layout_slots] at hused
  have hfill : ∀ i < 449, dfWriteFlashDirect type.addOffset i [0x01] ++
      dfWriteFlashDirect (u16 (type.addOffset + 1 + i / 64)) (i % 64 * 8)
        (pairBytes wr rd) =
      FlagLog.fillSlot type.layout i (pairBytes wr rd) := by
    intro i hi
    have hlen := pairBytes_length wr rd
    have hpage : u16 (type.addOffset + 1 + i / 64) =
        type.addOffset + 1 + i / 64 := Nat.mod_eq_of_lt (by omega)
    rw [hpage, dfWriteFlashDirect_eq (by omega) (by simp; omega),
      dfWriteFlashDirect_eq (by omega) (by omega)]
    rfl
  have hbase : 8 * (type.addOffset / 8) * pageSize =
      type.addOffset * 512 := by
    rw [show 8 * (type.addOffset / 8) = type.addOffset by omega]
  simp only [recordAddCmds, FlagLog.commit, ← scanHead_eq, layout_slots]
  by_cases h : scanHead chip type = 448
  · rw [if_pos h, if_pos h, if_pos h, List.append_assoc, hfill 0 (by omega),
      hbase, sst25vSectorErase4KByte_eq (by omega)]
    rfl
  · rw [if_neg h, if_neg h, if_neg h, List.nil_append, hfill _ (by omega)]

/-- The pair an entry encodes. -/
def decodePair (bs : List UInt8) : ℕ × ℕ :=
  (leValue (bs.take 4), leValue (bs.drop 4))

theorem decodePair_pairBytes (wr rd : UInt32) :
    decodePair (pairBytes wr.toNat rd.toNat) = (wr.toNat, rd.toNat) := by
  have hwr := wr.toNat_lt
  have hrd := rd.toNat_lt
  have hlen : (leBytes 4 wr.toNat).length = 4 := leBytes_length 4 _
  rw [decodePair, pairBytes, List.take_left' hlen, List.drop_left' hlen,
    leValue_leBytes, leValue_leBytes, Nat.mod_eq_of_lt (by omega),
    Nat.mod_eq_of_lt (by omega)]

/-- With a flag used, `DF_Read_RecordAdd` decodes the last used entry. -/
theorem readRecordAdd_eq {chip : Chip} {type : RecordType} {n : ℕ}
    (h : FlagLog.Filled type.layout chip.flash (n + 1)) :
    readRecordAdd chip type =
      decodePair (FlagLog.latest type.layout chip.flash) := by
  have hlt := type.addOffset_lt
  have hle : n + 1 ≤ 448 := h.le
  have hoffset : u16 (n + 1 + 65535) = n := by
    simp only [u16]
    omega
  have hpage : u16 (type.addOffset + 1 + n / 64) =
      type.addOffset + 1 + n / 64 := Nat.mod_eq_of_lt (by omega)
  rw [readRecordAdd, scanHead_eq, FlagLog.used_of_filled type.layout h,
    FlagLog.latest_of_filled type.layout h]
  simp only [hoffset, hpage]
  rw [dfReadFlash_eq chip (by omega) (by omega),
    dfReadFlash_eq chip (by omega) (by omega), decodePair, layout_width,
    readBytes_add chip.flash (type.layout.slotAddr n) 4 4,
    List.take_left' (readBytes_length _ _ _),
    List.drop_left' (readBytes_length _ _ _), layout_slotAddr,
    Nat.add_assoc _ _ 4]

/-! ## Histories of writes -/

/-- One call of `DF_Write_RecordAdd`. -/
structure RecordWrite where
  type : RecordType
  wr : UInt32
  rd : UInt32
  deriving DecidableEq, Repr

/-- The bytes the call stores. -/
def RecordWrite.bytes (e : RecordWrite) : List UInt8 :=
  pairBytes e.wr.toNat e.rd.toNat

/-- The pair the call stores. -/
def RecordWrite.pair (e : RecordWrite) : ℕ × ℕ := (e.wr.toNat, e.rd.toNat)

/-- Perform one call. -/
def writeRecord (d : Device) (e : RecordWrite) : Device :=
  dfWriteRecordAdd d e.wr.toNat e.rd.toNat e.type

/-- Perform a sequence of calls. -/
def writeRecords (d : Device) (es : List RecordWrite) : Device :=
  es.foldl writeRecord d

/-- The calls of one type. -/
def writesOf (type : RecordType) (es : List RecordWrite) : List RecordWrite :=
  es.filter (·.type = type)

/-- The log sector of a type is erased. -/
def LogErased (chip : Chip) (type : RecordType) : Prop :=
  ∀ x, type.Owns x → chip.flash x = 0xFF

/-- What the log of a type looks like after the calls `ws` of that type. -/
structure Logged (chip : Chip) (type : RecordType) (ws : List RecordWrite) :
    Prop where
  filled : FlagLog.Filled type.layout chip.flash
    (FlagLog.usedAfter type.layout ws.length)
  latest : ∀ w, ws.getLast? = some w →
    FlagLog.latest type.layout chip.flash = w.bytes

theorem RecordWrite.bytes_length (e : RecordWrite) : e.bytes.length = 8 :=
  pairBytes_length _ _

theorem writeRecord_flash (d : Device) (e : RecordWrite) :
    (writeRecord d e).chip.flash =
      execAll sectorSize d.chip.flash
        (FlagLog.commit e.type.layout d.chip.flash e.bytes) := by
  rw [writeRecord, dfWriteRecordAdd, Device.issue_chip, Chip.issue_flash,
    recordAddCmds_eq]
  rfl

theorem logged_of_erased {chip : Chip} {type : RecordType}
    (h : LogErased chip type) : Logged chip type [] where
  filled := FlagLog.filled_zero_of_erased type.layout h
  latest := by
    intro w hw
    exact absurd hw (by simp)

/-- Two types own different sectors. -/
theorem not_owns_of_ne {a b : RecordType} (hab : a ≠ b) {x : ℕ}
    (hx : a.Owns x) : ¬ b.Owns x := by
  intro hbx
  apply hab
  apply RecordType.addOffset_inj
  have ha := a.addOffset_mod
  have hb := b.addOffset_mod
  simp only [RecordType.Owns, sectorSize] at hx hbx
  omega

/-- A call of the type itself extends the history of its log. -/
theorem Logged.write_same {d : Device} {ws : List RecordWrite}
    {e : RecordWrite} (h : Logged d.chip e.type ws) :
    Logged (writeRecord d e).chip e.type (ws ++ [e]) where
  filled := by
    rw [writeRecord_flash, List.length_append, List.length_singleton,
      ← FlagLog.advance_usedAfter]
    exact h.filled.commit e.type.layout (Nat.le_of_eq e.bytes_length)
  latest := by
    intro w hw
    rw [List.getLast?_concat, Option.some.injEq] at hw
    subst hw
    rw [writeRecord_flash]
    exact FlagLog.latest_commit e.type.layout h.filled e.bytes_length

/-- Commands outside the sector of a type keep its log. -/
theorem Logged.of_untouched {chip : Chip} {type : RecordType}
    {ws : List RecordWrite} {cmds : List Cmd} (h : Logged chip type ws)
    (hu : ∀ x, type.Owns x → Untouched sectorSize cmds x) :
    Logged (chip.issue cmds) type ws where
  filled := h.filled.of_untouched type.layout hu
  latest := by
    intro w hw
    have hfilled := h.filled
    obtain ⟨c, hc⟩ : ∃ c, ws.length = c + 1 := by
      refine Nat.exists_eq_succ_of_ne_zero ?_
      intro hlen
      rw [List.length_eq_zero_iff.mp hlen] at hw
      exact absurd hw (by simp)
    rw [hc] at hfilled
    rw [← h.latest w hw]
    exact FlagLog.latest_of_untouched type.layout hfilled hu

/-- The commands of a call stay inside the sector of its type. -/
theorem untouched_recordAddCmds (chip : Chip) (wr rd : ℕ) {type : RecordType}
    {x : ℕ} (hx : ¬ type.Owns x) :
    Untouched sectorSize (recordAddCmds chip wr rd type) x := by
  rw [recordAddCmds_eq]
  exact FlagLog.untouched_commit type.layout
    (Nat.le_of_eq (pairBytes_length wr rd)) hx

theorem Logged.write_other {d : Device} {type : RecordType}
    {ws : List RecordWrite} {e : RecordWrite} (h : Logged d.chip type ws)
    (hne : type ≠ e.type) : Logged (writeRecord d e).chip type ws := by
  apply h.of_untouched
  intro x hx
  exact untouched_recordAddCmds d.chip _ _ (not_owns_of_ne hne hx)

/-- After any history the log of a type reflects the calls of that type. -/
theorem Logged.run {d : Device} {type : RecordType} {ws : List RecordWrite}
    (h : Logged d.chip type ws) (es : List RecordWrite) :
    Logged (writeRecords d es).chip type (ws ++ writesOf type es) := by
  induction es generalizing d ws with
  | nil => simpa [writesOf, writeRecords] using h
  | cons e es ih =>
      by_cases he : e.type = type
      · subst he
        have hcons : writesOf e.type (e :: es) = e :: writesOf e.type es := by
          simp [writesOf]
        rw [hcons, List.append_cons]
        exact ih h.write_same
      · have hcons : writesOf type (e :: es) = writesOf type es := by
          simp [writesOf, he]
        rw [hcons]
        exact ih (h.write_other (Ne.symm he))

/-! ## Restoring the variables -/

/-- The variables `DF_Read_RecordAdd` loads for a type. -/
def RecordType.resultVars :
    RecordType → Option ((Device → ℕ) × (Device → ℕ))
  | .cycleAdd => some (Device.cycleWrite, Device.cycleRead)
  | .photoAdd => some (Device.picWrite, Device.picRead)
  | .tiredDrvAdd => some (Device.tiredDrvWrite, Device.tiredDrvRead)
  | .expSpdAdd => some (Device.expSpdRecWrite, Device.expSpdRecRead)
  | .accFireAdd => some (Device.onFireRecWrite, Device.onFireRecRead)
  | .avrgSpdAdd => some (Device.avrgSpdPerMinWrite, Device.avrgSpdPerMinRead)
  | .errorLogAdd => some (Device.errorLogWrite, Device.errorLogRead)
  | .vechRecordAdd => some (Device.recorderWrite, Device.recorderRead)
  | .avrgSpdSecAdd =>
      some (Device.avrgSpdPerSecWrite, Device.avrgSpdPerSecRead)
  | .logInAdd => some (Device.loginWrite, Device.loginRead)
  | .powerCutAdd => some (Device.powercutWrite, Device.powercutRead)
  | .settingChgAdd => some (Device.settingchgWrite, Device.settingchgRead)
  | .mintPosAdd => some (Device.avrgMintPositWrite, Device.avrgMintPositRead)
  | .dayDistancAdd => some (Device.distanceM, Device.dayStartDistance)
  | .accOnOffCounterAdd => none
  | .doubtAdd => none

/-- The variables of a type receive the pair read from the log. -/
theorem dfReadRecordAdd_vars (d : Device) {type : RecordType}
    {vars : (Device → ℕ) × (Device → ℕ)} (h : type.resultVars = some vars) :
    (vars.1 (dfReadRecordAdd d type).1, vars.2 (dfReadRecordAdd d type).1) =
      readRecordAdd d.chip type := by
  cases type
  case accOnOffCounterAdd => exact absurd h (by simp [RecordType.resultVars])
  case doubtAdd => exact absurd h (by simp [RecordType.resultVars])
  all_goals
    obtain rfl := Option.some.inj h
    rfl

theorem dfReadRecordAdd_ok (d : Device) {type : RecordType}
    (h : type ≠ .doubtAdd) : (dfReadRecordAdd d type).2 = true := by
  cases type
  case doubtAdd => exact absurd rfl h
  all_goals rfl

theorem exists_length_eq_succ {ws : List RecordWrite} {w : RecordWrite}
    (hlast : ws.getLast? = some w) : ∃ c, ws.length = c + 1 := by
  refine Nat.exists_eq_succ_of_ne_zero ?_
  intro hlen
  rw [List.length_eq_zero_iff.mp hlen] at hlast
  exact absurd hlast (by simp)

/-- The log of a type reads back as the pair of its last write. -/
theorem Logged.readsBack {chip : Chip} {type : RecordType}
    {ws : List RecordWrite} {w : RecordWrite} (h : Logged chip type ws)
    (hlast : ws.getLast? = some w) : readRecordAdd chip type = w.pair := by
  have hfilled := h.filled
  obtain ⟨c, hc⟩ := exists_length_eq_succ hlast
  rw [hc] at hfilled
  rw [readRecordAdd_eq hfilled, h.latest w hlast]
  exact decodePair_pairBytes w.wr w.rd

/-- After any history of writes, interleaved over the types, reading a type
back loads the pair of its last write. -/
theorem dfReadRecordAdd_last_write (d : Device) (type : RecordType)
    (hcase : type ≠ .doubtAdd) (herased : LogErased d.chip type)
    (es : List RecordWrite) (w : RecordWrite)
    (hlast : (writesOf type es).getLast? = some w) :
    let d' := writeRecords d es
    (dfReadRecordAdd d' type).2 = true ∧
      readRecordAdd d'.chip type = w.pair ∧
      ∀ vars, type.resultVars = some vars →
        (vars.1 (dfReadRecordAdd d' type).1,
          vars.2 (dfReadRecordAdd d' type).1) = w.pair := by
  have hlogged := (logged_of_erased herased).run es
  rw [List.nil_append] at hlogged
  have hread : readRecordAdd (writeRecords d es).chip type = w.pair :=
    hlogged.readsBack hlast
  refine ⟨dfReadRecordAdd_ok _ hcase, hread, ?_⟩
  intro vars hvars
  rw [dfReadRecordAdd_vars _ hvars, hread]

/-- The cycle log read back after writes to three types. -/
theorem dfReadRecordAdd_last_write_cycle :
    let d' := writeRecords .initial
      [⟨.photoAdd, 3, 4⟩, ⟨.cycleAdd, 1, 0⟩, ⟨.cycleAdd, 2, 1⟩,
        ⟨.tiredDrvAdd, 5, 6⟩]
    (dfReadRecordAdd d' .cycleAdd).2 = true ∧
      readRecordAdd d'.chip .cycleAdd = (2, 1) ∧
      ∀ vars, RecordType.cycleAdd.resultVars = some vars →
        (vars.1 (dfReadRecordAdd d' .cycleAdd).1,
          vars.2 (dfReadRecordAdd d' .cycleAdd).1) = (2, 1) :=
  dfReadRecordAdd_last_write .initial .cycleAdd (by decide)
    (fun _ _ => rfl) _ ⟨.cycleAdd, 2, 1⟩ (by decide)

end VehicleRecorder.Dataflash
