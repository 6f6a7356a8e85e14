import Mathlib.Tactic.IntervalCases
import VehicleRecorder.Dataflash.FlashOper

/-!
# The variables of the driving records

The clock, the speed, and what the recorder accumulates between two records:
the average speeds of the minutes of an hour, an over-speed episode, a spell of
tired driving, and the ring of sensor samples before an accident.
-/

namespace VehicleRecorder.Driving

open Dataflash

/-! ## Times -/

/-- `TDateTime` as the clock returns it. -/
structure TDateTime where
  year : ℕ
  month : ℕ
  day : ℕ
  hour : ℕ
  min : ℕ
  sec : ℕ
  year_lt : year < 100 := by decide
  month_pos : 0 < month := by decide
  month_le : month ≤ 12 := by decide
  deriving DecidableEq, Repr

/-- Six bytes of packed decimal digits, year to second. -/
structure BcdTime where
  year : UInt8 := 0
  month : UInt8 := 0
  day : UInt8 := 0
  hour : UInt8 := 0
  min : UInt8 := 0
  sec : UInt8 := 0
  deriving DecidableEq, Repr

/-- The bytes in memory. -/
def BcdTime.bytes (t : BcdTime) : List UInt8 :=
  [t.year, t.month, t.day, t.hour, t.min, t.sec]

/-- `((n/10)<<4)+(n%10)`. -/
def bcd (n : ℕ) : UInt8 := UInt8.ofNat (n / 10 * 16 + n % 10)

/-- `Time2BCD`. -/
def time2BCD (timeNow : TDateTime) : BcdTime where
  year := bcd timeNow.year
  month := bcd timeNow.month
  day := bcd timeNow.day
  hour := bcd timeNow.hour
  min := bcd timeNow.min
  sec := bcd timeNow.sec

theorem bcd_month_ne_zero (t : TDateTime) : bcd t.month ≠ 0 := by
  have hpos := t.month_pos
  have hle := t.month_le
  generalize t.month = m at hpos hle
  interval_cases m <;> decide

/-! ## Accumulated data -/

/-- `Avrgspd_Mint`, with `PerMinSpdTotal`, `avgspd_Mint_Wr` and
`AspdCounter`. -/
structure AvrgMintSpeed where
  datetime : BcdTime := {}
  datetimeBak : BcdTime := {}
  avrgspd : ℕ → UInt8 := fun _ => 0
  saveFlag : ℕ := 0
  perMinSpdTotal : ℕ := 0
  avgspdMintWr : ℕ := 0
  aspdCounter : ℕ := 0

/-- `speed_Exd`. -/
structure SpdExp where
  excdStatus : ℕ := 0
  currentMaxSpd : ℕ := 0
  durSeconds : ℕ := 0
  speedFlag : ℕ := 0
  exStartTime : BcdTime := {}
  exEndTime : BcdTime := {}
  deriving DecidableEq, Repr

/-- What is used of `TiredConf_struct.Tired_drive`. -/
structure TiredDrive where
  tireddrvStatus : ℕ := 0
  startTime : BcdTime := {}
  endTime : BcdTime := {}
  deriving DecidableEq, Repr

/-- An element of `Sensor_buf`. -/
structure DoubtSample where
  doubtSpeed : UInt8 := 0
  doubtStatus : UInt8 := 0
  deriving DecidableEq, Repr

/-- The variables that hold back the saving of a record. -/
structure SaveGates where
  dfLock : ℕ := 0
  /-- `Dev_Voice.CMD_Type`. -/
  cmdType : UInt8 := 0
  doubtSaveFlag : ℕ := 0
  sensorWriteOverFlag : ℕ := 0
  vehicleRunStatus : ℕ := 0
  systermResetCounter : ℕ := 0
  deriving DecidableEq, Repr

/-- The driving data of the recorder. -/
structure DriveState where
  timeNow : TDateTime := ⟨0, 1, 1, 0, 0, 0, by decide, by decide, by decide⟩
  /-- `GPS_speed`, in 0.1 km/h. -/
  gpsSpeed : ℕ := 0
  /-- `Speed_warn_MAX`, in km/h. -/
  speedWarnMax : ℕ := 0
  spdExdLimitSeconds : ℕ := 0
  /-- `DriverCard_ID`. -/
  driverCardId : Vector UInt8 18 := Vector.replicate 18 0
  /-- `Warn_Status[3]`. -/
  warnStatus3 : UInt8 := 0
  avrg : AvrgMintSpeed := {}
  speedExd : SpdExp := {}
  tired : TiredDrive := {}
  statusTiredwhRst : ℕ := 0
  sensorBuf : ℕ → DoubtSample := fun _ => {}
  saveSensorCounter : ℕ := 0
  gates : SaveGates := {}
  dev : Device := .initial
  /-- The records handed to `Api_DFdirectory_Write`, oldest first. -/
  written : List (DirectoryName × List UInt8) := []
  /-- How often `JT808Conf_struct` was saved. -/
  jt808Saves : ℕ := 0

/-- `Api_DFdirectory_Write`, noted. -/
def DriveState.directoryWrite (s : DriveState) (name : DirectoryName)
    (content : List UInt8) : DriveState :=
  { s with
    dev := (apiDFdirectoryWrite s.dev name content).1
    written := s.written ++ [(name, content)] }

/-- The records written under a name. -/
def DriveState.records (s : DriveState) (name : DirectoryName) :
    List (List UInt8) :=
  (s.written.filter (·.1 = name)).map Prod.snd

end VehicleRecorder.Driving
