import VehicleRecorder.Driving.DriveState

/-!
# The variables of the GPS part

What the handlers of the NMEA sentences read and write: the position being
decoded and the one in use, the state of the timed report, the calibration of
the pulse counter, and the accumulated driving data.
-/

namespace VehicleRecorder.Gps

open Dataflash Driving

/-- An hour, a minute and a second as three bytes. -/
@[ext]
structure Hms where
  hour : UInt8 := 0
  min : UInt8 := 0
  sec : UInt8 := 0
  deriving DecidableEq, Repr

/-- The seconds since midnight. -/
def Hms.seconds (t : Hms) : ℕ :=
  t.hour.toNat * 60 * 60 + t.min.toNat * 60 + t.sec.toNat

/-- A time of the day as a receiver gives it. -/
structure GpsTime extends Hms where
  hour_lt : hour < 24
  min_lt : min < 60
  sec_lt : sec < 60
  deriving DecidableEq, Repr

theorem GpsTime.seconds_lt (t : GpsTime) : t.seconds < 86400 := by
  have hhour : t.hour.toNat < 24 := t.hour_lt
  have hmin : t.min.toNat < 60 := t.min_lt
  have hsec : t.sec.toNat < 60 := t.sec_lt
  simp only [Hms.seconds]
  omega

/-- A year, a month and a day as three bytes. -/
structure Ymd where
  year : UInt8 := 0
  mon : UInt8 := 0
  day : UInt8 := 0
  deriving DecidableEq, Repr

/-- `T_GPS_Info_GPRS`, latitude and longitude high byte first. -/
structure GpsInfo where
  date : Ymd := {}
  time : Hms := {}
  latitude : List UInt8 := [0, 0, 0, 0]
  longitude : List UInt8 := [0, 0, 0, 0]
  deriving DecidableEq, Repr

/-- The value of four bytes, high byte first. -/
def be4 (bs : List UInt8) : ℕ := Bytes.leValue bs.reverse

/-- `GPRMC`, without the numbers in floating point. -/
structure GpsRmc where
  utcDate : Ymd := {}
  utcTime : Hms := {}
  status : UInt8 := 0
  latitude : UInt8 := 0
  longtitude : UInt8 := 0
  deriving DecidableEq, Repr

/-- The variables of `GPS_Delta_DurPro`. -/
structure TimedReport where
  /-- `JT808Conf_struct.SD_MODE.DUR_TOTALMODE`. -/
  durTotalMode : UInt8 := 1
  currentSdDuration : ℕ := 20
  currentTime : Hms := {}
  bakTime : Hms := {}
  fomerTimeSeconds : ℕ := 0
  tmpTimeSeconds : ℕ := 0
  deltaTimeSeconds : ℕ := 0
  bakTimerSeconds : ℕ := 0
  bakDeltaTimerSeconds : ℕ := 0
  sleepState : UInt8 := 0
  sleepConfigFlag : UInt8 := 0
  localTrig : UInt8 := 1
  localTimer : ℕ := 0
  gpstimerAbnormalCounter : ℕ := 0
  /-- `CurrentTime` at each trigger, oldest first. -/
  triggers : List Hms := []
  deriving DecidableEq, Repr

/-- `K_adjust_Duration`. -/
abbrev kAdjustDuration : ℕ := 20

/-- An element of the two arrays of samples that `K_AdjustUseGPS` uses. -/
inductive Access
  | formerGpsSpd (i : ℕ)
  | formerDeltaPlus (i : ℕ)
  deriving DecidableEq, Repr

/-- The variables of `K_AdjustUseGPS`, each array as the memory from its first
element on. -/
structure KAdjust where
  /-- `JT808Conf_struct.DF_K_adjustState`. -/
  dfKAdjustState : UInt8 := 0
  /-- `JT808Conf_struct.Vech_Character_Value`. -/
  vechCharacterValue : ℕ := 0
  speedArea : UInt8 := 60
  speedRec : UInt8 := 0
  delta1sPlus : UInt16 := 0
  spdAdjustCounter : UInt16 := 0
  formerDeltaPlus : ℕ → UInt16 := fun _ => 0
  formerGpsSpd : ℕ → UInt8 := fun _ => 0
  /-- The elements used, oldest first. -/
  accesses : List Access := []
  /-- The divisors `Reg_distance`, oldest first. -/
  divisors : List ℕ := []

/-- The variables of the GPS part. -/
structure GpsState where
  udpDataPacketFlag : UInt8 := 0x03
  gpsGetfirst : UInt8 := 0
  gpsDatetimeFirstGet : UInt8 := 0
  moduleStatus : UInt8 := 0
  carStatus3 : UInt8 := 0
  sateliteNum : UInt8 := 0
  /-- `BD_EXT.FJ_SignalValue`. -/
  fjSignalValue : UInt8 := 0
  outGpsFlag : UInt8 := 0
  antennaFlag : UInt8 := 0
  gprmc : GpsRmc := {}
  tempGpsGprs : GpsInfo := {}
  gpsGprs : GpsInfo := {}
  timed : TimedReport := {}
  kAdjust : KAdjust := {}
  /-- `JT808Conf_struct.Speed_GetType`. -/
  speedGetType : UInt8 := 0
  /-- `JT808Conf_struct.SD_MODE.DIST_TOTALMODE`. -/
  distTotalMode : UInt8 := 0
  currentSdDistance : ℕ := 100
  distanceAccumulate : ℕ := 0
  speedGps : ℕ := 0
  speedCacu : ℕ := 0
  gpsDirection : ℕ := 0
  aTime : BcdTime := {}
  /-- `Posit`, latitude and longitude. -/
  posit : ℕ → List UInt8 × List UInt8 := fun _ => ([0, 0, 0, 0], [0, 0, 0, 0])
  mintPositSaveFlag : UInt8 := 0
  drive : DriveState := {}
  /-- What `Device_RTC_set` was called with. -/
  rtcSets : List (Ymd × Hms) := []
  /-- The positions handed to `RectangleRail_Judge`. -/
  rectangleJudged : List (List UInt8 × List UInt8) := []
  /-- The positions handed to `RouteRail_Judge`. -/
  routeJudged : List (List UInt8 × List UInt8) := []

/-! ## Status bits -/

namespace GpsState

/-- `StatusReg_GPS_A`. -/
def statusRegGpsA (s : GpsState) : GpsState :=
  { s with
    gpsGetfirst := 1
    carStatus3 := s.carStatus3 ||| 0x02
    moduleStatus := s.moduleStatus ||| 0x01 }

/-- `StatusReg_GPS_V`. -/
def statusRegGpsV (s : GpsState) : GpsState :=
  { s with moduleStatus := s.moduleStatus &&& ~~~0x01 }

/-- `PositionSD_Enable`. -/
def positionSdEnable (s : GpsState) : GpsState :=
  { s with drive.dev.positionSdEnable := true }

end GpsState

end VehicleRecorder.Gps
