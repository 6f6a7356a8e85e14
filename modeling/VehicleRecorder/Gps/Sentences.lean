import VehicleRecorder.Gps.RmcFields
import VehicleRecorder.Lib.FieldScanner

/-!
# The NMEA sentences

`Process_RMC`, `Process_TXT` and `Process_GGA` go through a sentence in the same
way and differ in their separators, in when they put a zero behind a character
and give up a field, and in what they do with the fields.  A zero ends a
sentence; an array `tmpinfo` starts with what lay on the stack.
-/

namespace VehicleRecorder.Gps

open Driving

/-- The characters of a literal. -/
def ascii (text : String) : List UInt8 := text.toList.map fun c => c.toUInt8

/-- The characters of a string in memory. -/
def cString (packet : List UInt8) : List UInt8 := packet.takeWhile (· ≠ 0)

/-- The scan of a sentence. -/
def scanSentence {σ : Type} (P : FieldScanner UInt8 σ) (user : σ)
    (tmpinfo : ℕ → UInt8) (packet : List UInt8) :
    ScanState UInt8 σ × ScanExit :=
  P.run ⟨user, tmpinfo, 0, 0, [], []⟩ (cString packet)

/-! ## RMC -/

/-- The variables of `Process_RMC`. -/
structure RmcVars where
  gps : GpsState
  time : Hms := {}
  fDateModify : UInt8 := 0

/-- The place of the point within the field, its length if there is none. -/
def pointPlace (tmpinfo : ℕ → UInt8) (iCount : ℕ) : ℕ :=
  ((List.range iCount).map tmpinfo).findIdx (· = 0x2E)

namespace RmcVars

/-- The error exits for a time. -/
def timeError (v : RmcVars) : RmcVars :=
  { v with
    gps := { v.gps with
      drive.avrg.perMinSpdTotal := 0
      drive.avrg.aspdCounter := 0 }.statusRegGpsV }

/-- `case 2`: the hour is moved to the local one, and in `tmpinfo` as well when
the day ends. -/
def timeField (v : RmcVars) (tmpinfo : ℕ → UInt8) :
    FieldOutcome UInt8 RmcVars :=
  let hour := twoDigits tmpinfo 0 + 8
  let min := twoDigits tmpinfo 2
  let sec := twoDigits tmpinfo 4
  if 23 < hour then
    let hour := hour - 24
    let tmpinfo := Function.update
      (Function.update tmpinfo 0 (hour / 10 + 0x30)) 1 (hour % 10 + 0x30)
    { user :=
        { gps := v.gps.timePro tmpinfo hour min sec
          time := ⟨hour, min, sec⟩
          fDateModify := 1 }
      buf := tmpinfo
      writes := [0, 1] }
  else
    { user :=
        { v with
          gps := v.gps.timePro tmpinfo hour min sec
          time := ⟨hour, min, sec⟩ }
      buf := tmpinfo }

/-- `case 3` to `case 9`. -/
def otherField (v : RmcVars) (commaCount : UInt8) (iCount : ℕ)
    (tmpinfo : ℕ → UInt8) : GpsState :=
  match commaCount with
  | 3 => v.gps.statusPro tmpinfo
  | 4 =>
      if digitsAt tmpinfo [0, 1, 2, 3, 5, 6, 7, 8] then
        v.gps.latitudePro tmpinfo
      else v.gps
  | 5 => v.gps.latNSPro tmpinfo
  | 6 =>
      if digitsAt tmpinfo [0, 1, 2, 3, 4, 6, 7, 8, 9] then
        v.gps.longitudePro tmpinfo
      else v.gps
  | 7 => v.gps.longWEPro tmpinfo
  | 8 =>
      let k := pointPlace tmpinfo iCount
      v.gps.speedPro tmpinfo (if iCount ≤ k then 0 else k)
  | 9 =>
      let k := pointPlace tmpinfo iCount
      if iCount < 3 ∨ iCount ≤ k then v.gps else v.gps.directionPro tmpinfo k
  | _ => v.gps

/-- The `switch` of `Process_RMC`. -/
def field (commaCount : UInt8) (iCount : ℕ) (v : RmcVars)
    (tmpinfo : ℕ → UInt8) : FieldOutcome UInt8 RmcVars :=
  if commaCount = 2 then
    if iCount < 6 then
      { user := v.timeError, buf := tmpinfo, accepted := false }
    else if digitsAt tmpinfo [0, 1, 2, 3, 4, 5] then v.timeField tmpinfo
    else { user := v.timeError, buf := tmpinfo, accepted := false }
  else if commaCount = 10 then
    if digitsAt tmpinfo [0, 1, 2, 3, 4, 5] then
      { user := { v with gps := v.gps.datePro tmpinfo v.fDateModify v.time }
        buf := tmpinfo }
    else { user := v, buf := tmpinfo, accepted := false }
  else
    { user := { v with gps := v.otherField commaCount iCount tmpinfo }
      buf := tmpinfo }

end RmcVars

/-- The scan of `Process_RMC`, with `tmpinfo[15]`. -/
def rmcScanner : FieldScanner UInt8 RmcVars where
  isSep c := c = 0x2C
  terminator := 0
  terminates n := n < 15
  tooLong n := 15 < n
  onEmpty _ v := v
  onField := RmcVars.field

/-- `Process_RMC` and what it returns. -/
def processRmc (s : GpsState) (tmpinfo : ℕ → UInt8) (packet : List UInt8) :
    GpsState × UInt8 :=
  let r := scanSentence rmcScanner { gps := s } tmpinfo packet
  match r.2 with
  | .rejected => (r.1.user.gps, 0)
  | _ => (r.1.user.gps.gpsDeltaDurPro, r.1.count)

/-! ## TXT -/

/-- `strncmp(tmpinfo,text,n)==0` for a text of `n` characters. -/
def beginsWith (tmpinfo : ℕ → UInt8) (text : List UInt8) : Bool :=
  (List.range text.length).map tmpinfo = text

namespace GpsState

/-- `PositionSD_Enable` and `Current_UDP_sd=1`. -/
def reportNow (s : GpsState) : GpsState :=
  { s with drive.dev.currentUdpSd := 1 }.positionSdEnable

/-- The open antenna. -/
def antennaIsOpen (s : GpsState) : GpsState :=
  if s.outGpsFlag = 0 then
    let s :=
      if s.drive.warnStatus3 &&& 0x20 = 0 then
        { s with antennaFlag := 1 }.reportNow
      else s
    { s with
      drive.warnStatus3 := (s.drive.warnStatus3 ||| 0x20) &&& ~~~0x40 }
  else s

/-- The antenna in order again. -/
def antennaIsOk (s : GpsState) : GpsState :=
  let s := { s with antennaFlag := 0 }
  let s := if s.drive.warnStatus3 &&& 0x20 ≠ 0 then s.reportNow else s
  { s with
    drive.warnStatus3 := s.drive.warnStatus3 &&& ~~~0x20 &&& ~~~0x40 }

/-- `case 5` of `Process_TXT`. -/
def antennaField (s : GpsState) (tmpinfo : ℕ → UInt8) : GpsState :=
  let s :=
    if beginsWith tmpinfo (ascii "ANTENNA OPEN") then s.antennaIsOpen else s
  if beginsWith tmpinfo (ascii "ANTENNA SHORT") then
    { s with
      drive.warnStatus3 := s.drive.warnStatus3 &&& ~~~0x20 ||| 0x40 }
  else if beginsWith tmpinfo (ascii "ANTENNA OK") then s.antennaIsOk
  else s

end GpsState

/-- The scan of `Process_TXT`, with `tmpinfo[12]`. -/
def txtScanner : FieldScanner UInt8 GpsState where
  isSep c := c = 0x2C || c = 0x2A
  terminator := 0
  terminates _ := true
  tooLong n := 12 < n
  onEmpty _ s := s
  onField commaCount _ s tmpinfo :=
    { user := if commaCount = 5 then s.antennaField tmpinfo else s
      buf := tmpinfo }

/-- `Process_TXT` and what it returns. -/
def processTxt (s : GpsState) (tmpinfo : ℕ → UInt8) (packet : List UInt8) :
    GpsState × UInt8 :=
  let r := scanSentence txtScanner s tmpinfo packet
  (r.1.user, r.1.count)

/-! ## GGA -/

/-- The scan of `Process_GGA`, with `tmpinfo[12]`.  The fields 9, 10 and 12 are
only converted to floating point. -/
def ggaScanner : FieldScanner UInt8 GpsState where
  isSep c := c = 0x2C
  terminator := 0
  terminates _ := true
  tooLong n := 12 < n
  onEmpty commaCount s := if commaCount = 8 then { s with sateliteNum := 0 } else s
  onField commaCount _ s tmpinfo :=
    { user :=
        if commaCount = 8 then
          { s with
            sateliteNum := twoDigits tmpinfo 0
            fjSignalValue := s.fjSignalValue &&& 0xF0 ||| twoDigits tmpinfo 0 }
        else s
      buf := tmpinfo }

/-- `Process_GGA` and what it returns. -/
def processGga (s : GpsState) (tmpinfo : ℕ → UInt8) (packet : List UInt8) :
    GpsState × UInt8 :=
  let r := scanSentence ggaScanner s tmpinfo packet
  (r.1.user, r.1.count)

end VehicleRecorder.Gps
