import VehicleRecorder.Dataflash.DfOper

/-!
# The variables of the record store

`Flash_Oper.c` keeps a write and a read index for every record log in global
variables, next to the state of the stored-report sender.  A device is these
variables together with the flash chip.
-/

namespace VehicleRecorder.Dataflash

/-- A `u32` index incremented, with the wrap at `max` behind it. -/
def bump (max n : ℕ) : ℕ :=
  let n' := (n + 1) % 4294967296
  if n' ≥ max then 0 else n'

theorem bump_lt {max : ℕ} (h : 0 < max) (n : ℕ) : bump max n < max := by
  rw [bump]
  split
  · exact h
  · omega

/-- `ReadCycle_status`. -/
inductive ReadCycleStatus
  | idle
  | rdyToSd
  | sdOver
  deriving DecidableEq, Repr

/-- The flash chip and the global variables of the record store.  A `u32`
variable is a natural number; the functions below keep it within its type. -/
structure Device where
  chip : Chip
  readCycleStatus : ReadCycleStatus := .idle
  readCycleTimer : ℕ := 0
  cycleWrite : ℕ := 0
  cycleRead : ℕ := 0
  cycleWriteAbnormalCounter : ℕ := 0
  avrgSpdPerMinWrite : ℕ := 0
  avrgSpdPerMinRead : ℕ := 0
  avrgSpdPerSecWrite : ℕ := 0
  avrgSpdPerSecRead : ℕ := 0
  avrgMintPositWrite : ℕ := 0
  avrgMintPositRead : ℕ := 0
  errorLogWrite : ℕ := 0
  errorLogRead : ℕ := 0
  recorderWrite : ℕ := 0
  recorderRead : ℕ := 0
  loginWrite : ℕ := 0
  loginRead : ℕ := 0
  powercutWrite : ℕ := 0
  powercutRead : ℕ := 0
  settingchgWrite : ℕ := 0
  settingchgRead : ℕ := 0
  tiredDrvWrite : ℕ := 0
  tiredDrvRead : ℕ := 0
  expSpdRecWrite : ℕ := 0
  expSpdRecRead : ℕ := 0
  onFireRecWrite : ℕ := 0
  onFireRecRead : ℕ := 0
  picWrite : ℕ := 0
  picRead : ℕ := 0
  picCurrentPage : ℕ := 0
  voicePageCounter : ℕ := 0
  voiceReg : List UInt8 := List.replicate 512 0
  distanceM : ℕ := 0
  dayStartDistance : ℕ := 0
  currentState : ℕ := 0
  currentUdpSd : ℕ := 0
  readFailSdCurrent : ℕ := 0
  positionSdEnable : Bool := false

/-- Every variable at its initial value and the flash erased. -/
def Device.initial : Device := { chip := .blank }

/-- Send a sequence of commands to the chip. -/
def Device.issue (d : Device) (cmds : List NorFlash.Cmd) : Device :=
  { d with chip := d.chip.issue cmds }

@[simp] theorem Device.issue_chip (d : Device) (cmds : List NorFlash.Cmd) :
    (d.issue cmds).chip = d.chip.issue cmds := rfl

/-- `pic_current_page=page`. -/
def Device.setCurrentPage (d : Device) (page : ℕ) : Device :=
  { d with picCurrentPage := page }

@[simp] theorem Device.setCurrentPage_chip (d : Device) (page : ℕ) :
    (d.setCurrentPage page).chip = d.chip := rfl

@[simp] theorem Device.setCurrentPage_picCurrentPage (d : Device) (page : ℕ) :
    (d.setCurrentPage page).picCurrentPage = page := rfl

theorem Device.issue_append (d : Device) (xs ys : List NorFlash.Cmd) :
    d.issue (xs ++ ys) = (d.issue xs).issue ys := by
  simp [Device.issue, Chip.issue_append]

@[simp] theorem Device.issue_nil (d : Device) : d.issue [] = d := by
  simp [Device.issue]

end VehicleRecorder.Dataflash
