import VehicleRecorder.Driving.AvrgSpeed
import VehicleRecorder.Gps.KAdjust
import VehicleRecorder.Gps.TimedReport

/-!
# The handlers of the fields of an RMC sentence

The functions in `GPRMC_Funs`.  Each finds its field in `tmpinfo` and reads the
characters at fixed places.
-/

namespace VehicleRecorder.Gps

open Bytes Driving

/-! ## Digits -/

/-- The test on a character that is to be a digit. -/
def isDigit (b : UInt8) : Bool := 0x30 ≤ b && b ≤ 0x39

/-- There are digits at the given places. -/
def digitsAt (tmpinfo : ℕ → UInt8) (places : List ℕ) : Bool :=
  places.all fun i => isDigit (tmpinfo i)

/-- The value of a character that is a digit. -/
def digit (tmpinfo : ℕ → UInt8) (i : ℕ) : ℕ := (tmpinfo i).toNat - 0x30

/-- The number of two digits, as a byte. -/
def twoDigits (tmpinfo : ℕ → UInt8) (i : ℕ) : UInt8 :=
  (tmpinfo i - 0x30) * 10 + (tmpinfo (i + 1) - 0x30)

/-! ## Time, status and position -/

namespace GpsState

/-- `Time_pro`. -/
def timePro (s : GpsState) (tmpinfo : ℕ → UInt8) (hour min sec : UInt8) :
    GpsState :=
  { s with
    gprmc.utcTime := ⟨hour, min, sec⟩
    timed.currentTime := ⟨hour, min, sec⟩
    tempGpsGprs.time := ⟨hour, twoDigits tmpinfo 2, twoDigits tmpinfo 4⟩ }

/-- `Status_pro`; the characters are `V`, `v`, `A` and `a`. -/
def statusPro (s : GpsState) (tmpinfo : ℕ → UInt8) : GpsState :=
  let s := { s with gprmc.status := tmpinfo 0 }
  if tmpinfo 0 = 0x56 ∨ tmpinfo 0 = 0x76 then
    { s with udpDataPacketFlag := 0x03 }.statusRegGpsV
  else if tmpinfo 0 = 0x41 ∨ tmpinfo 0 = 0x61 then
    { s with udpDataPacketFlag := 0x02 }.statusRegGpsA
  else s

/-- A coordinate that came out as 0. -/
def dropFix (s : GpsState) : GpsState := { s with gpsGetfirst := 0 }.statusRegGpsV

/-- `latitude` of `Latitude_pro`: the degrees in front of the minutes and four
decimals of them. -/
def latitudeValue (tmpinfo : ℕ → UInt8) : ℕ :=
  (digit tmpinfo 0 * 10 + digit tmpinfo 1) * 1000000 +
    (digit tmpinfo 2 * 100000 + digit tmpinfo 3 * 10000 +
      digit tmpinfo 5 * 1000 + digit tmpinfo 6 * 100 + digit tmpinfo 7 * 10 +
      digit tmpinfo 8) * 5 / 3

/-- `Latitude_pro`. -/
def latitudePro (s : GpsState) (tmpinfo : ℕ → UInt8) : GpsState :=
  if s.udpDataPacketFlag = 0x02 then
    if latitudeValue tmpinfo = 0 then s.dropFix
    else { s with tempGpsGprs.latitude := beBytes4 (latitudeValue tmpinfo) }
  else s

/-- `Lat_NS_pro`. -/
def latNSPro (s : GpsState) (tmpinfo : ℕ → UInt8) : GpsState :=
  { s with gprmc.latitude := tmpinfo 0 }

/-- `longtitude` of `Longitude_pro`. -/
def longitudeValue (tmpinfo : ℕ → UInt8) : ℕ :=
  (digit tmpinfo 0 * 100 + digit tmpinfo 1 * 10 + digit tmpinfo 2) * 1000000 +
    (digit tmpinfo 3 * 100000 + digit tmpinfo 4 * 10000 +
      digit tmpinfo 6 * 1000 + digit tmpinfo 7 * 100 + digit tmpinfo 8 * 10 +
      digit tmpinfo 9) * 5 / 3

/-- `Longitude_pro`. -/
def longitudePro (s : GpsState) (tmpinfo : ℕ → UInt8) : GpsState :=
  if s.udpDataPacketFlag = 0x02 then
    if longitudeValue tmpinfo = 0 then s.dropFix
    else { s with tempGpsGprs.longitude := beBytes4 (longitudeValue tmpinfo) }
  else s

/-- `Long_WE_pro`. -/
def longWEPro (s : GpsState) (tmpinfo : ℕ → UInt8) : GpsState :=
  { s with gprmc.longtitude := tmpinfo 0 }

/-! ## Speed and direction -/

/-- The report after a distance. -/
def distanceReport (s : GpsState) (reg : ℕ) : GpsState :=
  if s.distTotalMode = 1 then
    let sum := (s.distanceAccumulate + reg) % 4294967296
    if s.currentSdDistance ≤ sum then
      { s with
        distanceAccumulate := 0
        drive.dev.currentUdpSd := 1 }.positionSdEnable
    else { s with distanceAccumulate := sum }
  else s

/-- `JT808Conf_struct.Distance_m_u32` grows. -/
def addDistance (s : GpsState) (metres : ℕ) : GpsState :=
  let sum := (s.drive.dev.distanceM + metres) % 4294967296
  { s with drive.dev.distanceM := if sum > 0xFFFFFF then 0 else sum }

/-- The speed in 0.1 knots at the places the point leaves, `none` where there
are no digits; without a point it is 0. -/
def speedSp (tmpinfo : ℕ → UInt8) (point : ℕ) : Option ℕ :=
  if point = 1 then
    if digitsAt tmpinfo [0, 2] then
      some (digit tmpinfo 0 * 10 + digit tmpinfo 2)
    else none
  else if point = 2 then
    if digitsAt tmpinfo [0, 1, 3] then
      some (digit tmpinfo 0 * 100 + digit tmpinfo 1 * 10 + digit tmpinfo 3)
    else none
  else if point = 3 then
    if digitsAt tmpinfo [0, 1, 2, 4] then
      some (digit tmpinfo 0 * 1000 + digit tmpinfo 1 * 100 +
        digit tmpinfo 2 * 10 + digit tmpinfo 4)
    else none
  else some 0

/-- The part of `Speed_pro` behind the conversion to m/h: the speed goes to
the calibration or is used itself, and distances are summed up.  The second
branch adds `reg`, which is 0 there, to the distance since the last report. -/
def speedUse (s : GpsState) (sp : ℕ) : GpsState :=
  let spDisp := sp / 100
  let s := if 5 ≤ s.sateliteNum then { s with speedGps := spDisp % 65536 } else s
  if s.speedGetType ≠ 0 then
    let s := s.kAdjustUseGps spDisp
    if s.kAdjust.dfKAdjustState = 0 then
      let s := { s with drive.gpsSpeed := s.speedGps }
      if 5000 ≤ sp then (s.addDistance (sp / 3600)).distanceReport (sp / 3600)
      else s
    else s
  else
    let s :=
      if 5000 ≤ sp then (s.addDistance (sp / 3600)).distanceReport 0 else s
    { s with drive.gpsSpeed := s.speedGps }

/-- `Speed_pro` with `PROCESS`.  The product with 185.6, which is computed in
floating point, is cut off to a whole number. -/
def speedPro (s : GpsState) (tmpinfo : ℕ → UInt8) (point : ℕ) : GpsState :=
  if s.udpDataPacketFlag = 0x02 then
    match speedSp tmpinfo point with
    | none => s
    | some knots =>
        let s :=
          if ¬ (1 ≤ point ∧ point ≤ 3) ∧ s.speedGetType = 0 then
            { s with drive.gpsSpeed := 0 }
          else s
        let sp := knots * 1856 / 10
        if sp > 220000 then s else s.speedUse sp
  else if s.udpDataPacketFlag = 0x03 then
    let s :=
      if s.speedGetType = 0 then { s with drive.gpsSpeed := 0 }
      else
        let s := s.kAdjustUseGps 0
        { s with drive.gpsSpeed := s.speedCacu }
    { s with speedGps := 0 }
  else s

/-- The direction in degrees, as in `speedSp`. -/
def directionSp (tmpinfo : ℕ → UInt8) (point : ℕ) : Option ℕ :=
  if point = 1 then
    if digitsAt tmpinfo [0, 2] then some (digit tmpinfo 0) else none
  else if point = 2 then
    if digitsAt tmpinfo [0, 1, 3] then
      some (digit tmpinfo 0 * 10 + digit tmpinfo 1)
    else none
  else if point = 3 then
    if digitsAt tmpinfo [0, 1, 2, 4] then
      some (digit tmpinfo 0 * 100 + digit tmpinfo 1 * 10 + digit tmpinfo 2)
    else none
  else some 0

/-- `Direction_pro` with `PROCESS`. -/
def directionPro (s : GpsState) (tmpinfo : ℕ → UInt8) (point : ℕ) : GpsState :=
  if s.udpDataPacketFlag = 0x02 then
    match directionSp tmpinfo point with
    | none => s
    | some sp => { s with gpsDirection := sp }
  else if s.udpDataPacketFlag = 0x03 then { s with gpsDirection := 0 }
  else s

/-! ## Date -/

/-- The day after, within the two digits of the year. -/
def nextDate (d : Ymd) : Ymd :=
  let day := d.day + 1
  if d.mon = 2 then
    if d.year % 4 = 0 then
      if day = 30 then ⟨d.year, d.mon + 1, 1⟩ else ⟨d.year, d.mon, day⟩
    else if day = 29 then ⟨d.year, d.mon + 1, 1⟩
    else ⟨d.year, d.mon, day⟩
  else if d.mon = 4 ∨ d.mon = 6 ∨ d.mon = 9 ∨ d.mon = 11 then
    if day = 31 then ⟨d.year, d.mon + 1, 1⟩ else ⟨d.year, d.mon, day⟩
  else
    let d : Ymd :=
      if day = 32 then ⟨d.year, d.mon + 1, 1⟩ else ⟨d.year, d.mon, day⟩
    if d.mon = 13 then ⟨d.year + 1, 1, d.day⟩ else d

/-- The date of the field, moved on with the hour. -/
def fieldDate (tmpinfo : ℕ → UInt8) (fDateModify : UInt8) : Ymd :=
  let d : Ymd := ⟨twoDigits tmpinfo 4, twoDigits tmpinfo 2, twoDigits tmpinfo 0⟩
  if fDateModify ≠ 0 then nextDate d else d

/-- The clock is set on the full minute. -/
def setClock (s : GpsState) (date : Ymd) (time : Hms) : GpsState :=
  if time.sec = 0 ∧ s.gprmc.status = 0x41 then
    { s with rtcSets := s.rtcSets ++ [(date, time)] }
  else s

/-- The time of the fix and the position of the minute. -/
def notePosition (s : GpsState) (time : Hms) : GpsState :=
  if s.gprmc.status = 0x41 then
    let s := { s with aTime := time2BCD s.drive.timeNow }
    let s :=
      if time.sec < 55 then
        { s with
          posit := Function.update s.posit time.min.toNat
            (s.gpsGprs.latitude, s.gpsGprs.longitude.modifyHead (· ||| 0x80)) }
      else s
    if time.min = 59 ∧ time.sec = 55 then { s with mintPositSaveFlag := 1 }
    else s
  else s

/-- The distance at the start of a day. -/
def startDay (s : GpsState) (time : Hms) : GpsState :=
  if time.hour = 0 ∧ time.min = 0 ∧ time.sec = 8 then
    { s with
      drive.dev.dayStartDistance := s.drive.dev.distanceM
      drive.jt808Saves := s.drive.jt808Saves + 1 }
  else s

/-- `Date_pro`. -/
def datePro (s : GpsState) (tmpinfo : ℕ → UInt8) (fDateModify : UInt8)
    (time : Hms) : GpsState :=
  let date := fieldDate tmpinfo fDateModify
  let s := { s with gprmc.utcDate := date }
  let s := ((s.setClock date time).notePosition time).startDay time
  let s := { s with tempGpsGprs.date := date }
  let s :=
    { s with
      drive := avrgSpdMintProcess s.drive s.udpDataPacketFlag
        s.tempGpsGprs.time.min.toNat time.min.toNat time.sec.toNat }
  if date.year ≠ 0 ∧ date.mon ≠ 0 ∧ date.day ≠ 0 then
    { s with gpsDatetimeFirstGet := 1 }
  else s

/-! ## What the handlers leave alone -/

/-- The position being decoded and the flag of the fix are unchanged. -/
structure KeepsPosition (s s' : GpsState) : Prop where
  info : s'.tempGpsGprs = s.tempGpsGprs
  flag : s'.udpDataPacketFlag = s.udpDataPacketFlag

theorem KeepsPosition.trans {s s' s'' : GpsState} (h : KeepsPosition s s')
    (h' : KeepsPosition s' s'') : KeepsPosition s s'' :=
  ⟨h'.info.trans h.info, h'.flag.trans h.flag⟩

section Keeps

variable (s : GpsState) (tmpinfo : ℕ → UInt8) (n : ℕ)

theorem kAdjustUseGps_keeps : KeepsPosition s (s.kAdjustUseGps n) := by
  unfold kAdjustUseGps calibrate
  dsimp only
  repeat' split
  all_goals exact ⟨rfl, rfl⟩

theorem distanceReport_keeps : KeepsPosition s (s.distanceReport n) := by
  unfold distanceReport
  dsimp only
  repeat' split
  all_goals exact ⟨rfl, rfl⟩

theorem addDistance_report_keeps (m : ℕ) :
    KeepsPosition s ((s.addDistance m).distanceReport n) := by
  have hadd : KeepsPosition s (s.addDistance m) := ⟨rfl, rfl⟩
  exact hadd.trans (distanceReport_keeps (s.addDistance m) n)

theorem speedUse_keeps : KeepsPosition s (s.speedUse n) := by
  unfold speedUse
  dsimp only
  set s₁ : GpsState :=
    if 5 ≤ s.sateliteNum then { s with speedGps := n / 100 % 65536 } else s
    with hs₁
  have hfirst : KeepsPosition s s₁ := by
    rw [hs₁]
    split <;> exact ⟨rfl, rfl⟩
  refine hfirst.trans ?_
  split
  · have hadjust := kAdjustUseGps_keeps s₁ (n / 100)
    generalize s₁.kAdjustUseGps (n / 100) = s₂ at hadjust
    refine hadjust.trans ?_
    split
    · have hspeed : KeepsPosition s₂ { s₂ with drive.gpsSpeed := s₂.speedGps } :=
        ⟨rfl, rfl⟩
      split
      · exact hspeed.trans
          (addDistance_report_keeps _ (n / 3600) (n / 3600))
      · exact hspeed
    · exact ⟨rfl, rfl⟩
  · split
    · exact (addDistance_report_keeps s₁ 0 (n / 3600)).trans ⟨rfl, rfl⟩
    · exact ⟨rfl, rfl⟩

theorem speedPro_keeps : KeepsPosition s (s.speedPro tmpinfo n) := by
  unfold speedPro
  split
  · split
    · exact ⟨rfl, rfl⟩
    · rename_i knots _
      dsimp only
      set s₁ : GpsState :=
        if ¬ (1 ≤ n ∧ n ≤ 3) ∧ s.speedGetType = 0 then
          { s with drive.gpsSpeed := 0 }
        else s with hs₁
      have hfirst : KeepsPosition s s₁ := by
        rw [hs₁]
        split <;> exact ⟨rfl, rfl⟩
      refine hfirst.trans ?_
      split
      · exact ⟨rfl, rfl⟩
      · exact speedUse_keeps s₁ _
  · split
    · dsimp only
      split
      · exact ⟨rfl, rfl⟩
      · exact (kAdjustUseGps_keeps s 0).trans ⟨rfl, rfl⟩
    · exact ⟨rfl, rfl⟩

theorem directionPro_keeps : KeepsPosition s (s.directionPro tmpinfo n) := by
  unfold directionPro
  repeat' split
  all_goals exact ⟨rfl, rfl⟩

theorem durationReport_info : s.durationReport.tempGpsGprs = s.tempGpsGprs := by
  unfold durationReport sendTrigger
  dsimp only
  repeat' split
  all_goals rfl

theorem gpsDeltaDurPro_info : s.gpsDeltaDurPro.tempGpsGprs = s.tempGpsGprs := by
  have huse : ∀ t : GpsState,
      t.usePosition.railJudges.tempGpsGprs = t.tempGpsGprs := by
    intro t
    unfold usePosition
    split <;> rfl
  rw [gpsDeltaDurPro, huse]
  split
  · exact durationReport_info s
  · rfl

theorem setClock_keeps (date : Ymd) (time : Hms) :
    KeepsPosition s (s.setClock date time) := by
  unfold setClock
  split <;> exact ⟨rfl, rfl⟩

theorem notePosition_keeps (time : Hms) :
    KeepsPosition s (s.notePosition time) := by
  unfold notePosition
  repeat' split
  all_goals exact ⟨rfl, rfl⟩

theorem startDay_keeps (time : Hms) : KeepsPosition s (s.startDay time) := by
  unfold startDay
  split <;> exact ⟨rfl, rfl⟩

/-- `Date_pro` stores the date. -/
theorem datePro_keeps (fDateModify : UInt8) (time : Hms) :
    KeepsPosition
      { s with tempGpsGprs.date := fieldDate tmpinfo fDateModify }
      (s.datePro tmpinfo fDateModify time) := by
  have hstored : ∀ t : GpsState, KeepsPosition s t → KeepsPosition
      { s with tempGpsGprs.date := fieldDate tmpinfo fDateModify }
      { t with tempGpsGprs.date := fieldDate tmpinfo fDateModify } :=
    fun t h => ⟨congrArg (fun info : GpsInfo =>
      { info with date := fieldDate tmpinfo fDateModify }) h.info, h.flag⟩
  have hnoted : KeepsPosition s
      { s with gprmc.utcDate := fieldDate tmpinfo fDateModify } := ⟨rfl, rfl⟩
  have hkept := hstored _ (((hnoted.trans
    (setClock_keeps _ (fieldDate tmpinfo fDateModify) time)).trans
      (notePosition_keeps _ time)).trans (startDay_keeps _ time))
  unfold datePro
  dsimp only
  split
  · exact ⟨hkept.info, hkept.flag⟩
  · exact ⟨hkept.info, hkept.flag⟩

end Keeps

end GpsState

end VehicleRecorder.Gps
