import VehicleRecorder.Driving.DriveState

/-!
# Saving the driving records

`JT808_Related_Save_Process` runs in the main loop and saves at most one thing
a time: the samples before an accident, the average speeds of an hour, a spell
of tired driving, an over-speed episode, or the mileage.
-/

namespace VehicleRecorder.Driving

open Bytes Dataflash

/-! ## The records -/

/-- The samples from place `cur` on, in the order of the loop of
`Save_Status`. -/
def sensorBytes (buf : ℕ → DoubtSample) : ℕ → ℕ → List UInt8
  | _, 0 => []
  | cur, n + 1 =>
      [(buf cur).doubtSpeed, (buf cur).doubtStatus] ++
        sensorBytes buf (if cur + 1 > 100 then 0 else cur + 1) n

/-- `Save_Status`. -/
def saveStatus (s : DriveState) : DriveState :=
  let content := (time2BCD s.timeNow).bytes ++
    sensorBytes s.sensorBuf s.saveSensorCounter 100
  s.directoryWrite .doubtData (content ++ [xorSum content])

/-- What `Save_AvrgSpdPerMin` writes. -/
def avrgSpdContent (a : AvrgMintSpeed) : List UInt8 :=
  let content := a.datetimeBak.bytes.take 5 ++ readBytes a.avrgspd 0 60 ++
    List.replicate 4 0
  content ++ [xorSum content]

/-- `Save_AvrgSpdPerMin`. -/
def saveAvrgSpdPerMin (s : DriveState) : DriveState :=
  let s := s.directoryWrite .spdpermin (avrgSpdContent s.avrg)
  { s with avrg.avrgspd := fun _ => 0 }

/-- `Spd_ExpInit`.  Of the start time the seconds are left. -/
def spdExpInit (e : SpdExp) : SpdExp :=
  { e with
    currentMaxSpd := 0
    durSeconds := 0
    excdStatus := 0
    exStartTime := { sec := e.exStartTime.sec }
    speedFlag := 0 }

/-- The record of an over-speed episode with the highest speed in 0.1 km/h. -/
def spdWarnContent (card : Vector UInt8 18) (startTime endTime : BcdTime)
    (maxSpd : ℕ) : List UInt8 :=
  let content := card.toList ++ startTime.bytes ++ endTime.bytes ++
    [UInt8.ofNat (maxSpd / 10)]
  content ++ [xorSum content]

/-- `Spd_Exp_Wr`. -/
def spdExpWr (s : DriveState) : DriveState :=
  let e := s.speedExd
  let s := s.directoryWrite .spdWarn
    (spdWarnContent s.driverCardId e.exStartTime e.exEndTime e.currentMaxSpd)
  { s with speedExd := spdExpInit s.speedExd }

/-- `TIRED_Drive_Init`. -/
def tiredDriveInit (t : TiredDrive) : TiredDrive where
  tireddrvStatus := 0
  startTime := { sec := t.startTime.sec }
  endTime := { sec := t.endTime.sec }

/-- The record of a spell of tired driving. -/
def tiredWarnContent (card : Vector UInt8 18) (t : TiredDrive) : List UInt8 :=
  let content := card.toList ++ t.startTime.bytes ++ t.endTime.bytes
  content ++ [xorSum content, 0]

/-- `Save_TiredDrive_Record`. -/
def saveTiredDriveRecord (s : DriveState) : DriveState :=
  let tired := { s.tired with endTime := time2BCD s.timeNow }
  let s := s.directoryWrite .tiredWarn (tiredWarnContent s.driverCardId tired)
  { s with
    tired := tiredDriveInit (tiredDriveInit tired)
    statusTiredwhRst := 0
    warnStatus3 := s.warnStatus3 &&& ~~~ 0x04 }

/-! ## The loop -/

/-- The mileage is saved now and then while the vehicle runs. -/
def saveMileage (s : DriveState) : DriveState :=
  if s.gates.vehicleRunStatus ≠ 0 ∧
      s.gates.systermResetCounter &&& 0xFF = 0xFF then
    { s with jt808Saves := s.jt808Saves + 1 }
  else s

/-- `JT808_Related_Save_Process` with the time of `Get_RTC`. -/
def jt808RelatedSaveProcess (s : DriveState) (rtc : TDateTime) : DriveState :=
  if s.gates.dfLock ≠ 0 then s
  else if s.gates.cmdType = 0x31 then saveMileage s
  else if s.gates.doubtSaveFlag = 1 ∧ s.gates.sensorWriteOverFlag = 1 then
    let s := saveStatus { s with timeNow := rtc }
    { s with gates.doubtSaveFlag := 0 }
  else if s.avrg.saveFlag = 1 then
    let s := saveAvrgSpdPerMin s
    { s with avrg.saveFlag := 0 }
  else if s.tired.tireddrvStatus = 2 then saveTiredDriveRecord s
  else if s.speedExd.excdStatus = 2 then spdExpWr s
  else saveMileage s

/-- Nothing holds the save of the average speeds back. -/
def SaveGates.Free (g : SaveGates) : Prop :=
  g.dfLock = 0 ∧ g.cmdType ≠ 0x31 ∧
    ¬ (g.doubtSaveFlag = 1 ∧ g.sensorWriteOverFlag = 1)

instance (g : SaveGates) : Decidable g.Free :=
  inferInstanceAs (Decidable (_ ∧ _))

/-- What one call of the save does: nothing, the mileage, or one of the four
records. -/
inductive SavesOne (s : DriveState) (rtc : TDateTime) : DriveState → Prop
  | locked : SavesOne s rtc s
  | mileage : SavesOne s rtc (saveMileage s)
  | doubt : SavesOne s rtc
      { saveStatus { s with timeNow := rtc } with gates.doubtSaveFlag := 0 }
  | avrg (hfree : s.gates.Free) (hflag : s.avrg.saveFlag = 1) :
      SavesOne s rtc { saveAvrgSpdPerMin s with avrg.saveFlag := 0 }
  | tired (hstatus : s.tired.tireddrvStatus = 2) :
      SavesOne s rtc (saveTiredDriveRecord s)
  | speed (hstatus : s.speedExd.excdStatus = 2) : SavesOne s rtc (spdExpWr s)

theorem jt808RelatedSaveProcess_saves (s : DriveState) (rtc : TDateTime) :
    SavesOne s rtc (jt808RelatedSaveProcess s rtc) := by
  rw [jt808RelatedSaveProcess]
  split
  · exact .locked
  · rename_i hlock
    split
    · exact .mileage
    · rename_i hcmd
      split
      · exact .doubt
      · rename_i hdoubt
        split
        · rename_i hflag
          exact .avrg ⟨not_not.mp hlock, hcmd, hdoubt⟩ hflag
        · split
          · rename_i hstatus
            exact .tired hstatus
          · split
            · rename_i hstatus
              exact .speed hstatus
            · exact .mileage

/-- What the other functions have left when the main loop comes to the save,
and the clock. -/
structure SaveCall where
  gates : SaveGates
  tired : TiredDrive
  sensorBuf : ℕ → DoubtSample
  saveSensorCounter : ℕ
  rtc : TDateTime

/-- The state the save finds. -/
def SaveCall.prepare (c : SaveCall) (s : DriveState) : DriveState :=
  { s with
    gates := c.gates
    tired := c.tired
    sensorBuf := c.sensorBuf
    saveSensorCounter := c.saveSensorCounter }

/-! ## Records of other names -/

/-- One more record was handed to `Api_DFdirectory_Write`. -/
theorem records_of_written {s s' : DriveState} {name : DirectoryName}
    {content : List UInt8} (h : s'.written = s.written ++ [(name, content)])
    (m : DirectoryName) :
    s'.records m = s.records m ++ if name = m then [content] else [] := by
  rw [DriveState.records, DriveState.records, h, List.filter_append,
    List.map_append]
  congr 1
  by_cases hname : name = m
  · simp [hname]
  · simp [hname]

theorem records_of_written_of_ne {s s' : DriveState} {name m : DirectoryName}
    {content : List UInt8} (h : s'.written = s.written ++ [(name, content)])
    (hne : name ≠ m) : s'.records m = s.records m := by
  rw [records_of_written h, if_neg hne, List.append_nil]

section Written

variable (s : DriveState)

theorem saveStatus_written :
    ∃ content, (saveStatus s).written = s.written ++ [(.doubtData, content)] :=
  ⟨_, rfl⟩

theorem saveAvrgSpdPerMin_written :
    (saveAvrgSpdPerMin s).written =
      s.written ++ [(.spdpermin, avrgSpdContent s.avrg)] := by
  simp only [saveAvrgSpdPerMin, DriveState.directoryWrite]

theorem spdExpWr_written :
    (spdExpWr s).written = s.written ++ [(.spdWarn,
      spdWarnContent s.driverCardId s.speedExd.exStartTime
        s.speedExd.exEndTime s.speedExd.currentMaxSpd)] := by
  simp only [spdExpWr, DriveState.directoryWrite]

theorem saveTiredDriveRecord_written :
    ∃ content, (saveTiredDriveRecord s).written =
      s.written ++ [(.tiredWarn, content)] := by
  simp only [saveTiredDriveRecord, DriveState.directoryWrite]
  exact ⟨_, rfl⟩

end Written

end VehicleRecorder.Driving
