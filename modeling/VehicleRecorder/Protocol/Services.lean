import VehicleRecorder.Protocol.AppState

/-!
# Functions the handlers call

Text conversion, the voice output, the resets of the record tables and of the
media transfer, and the reader of an IP address.
-/

namespace VehicleRecorder.Protocol

open Bytes Dataflash

/-! ## Text -/

/-- `arr_A3B0`: the digits. -/
def arrA3B0 : List UInt8 :=
  [0xA3, 0xB0, 0xA3, 0xB1, 0xA3, 0xB2, 0xA3, 0xB3, 0xA3, 0xB4, 0xA3, 0xB5,
    0xA3, 0xB6, 0xA3, 0xB7, 0xA3, 0xB8, 0xA3, 0xB9]

/-- `arr_A3C0`: `@` and `A` to `O`. -/
def arrA3C0 : List UInt8 :=
  -- the source writes the byte of `L` as `0xCC0`, of which a `u8` keeps `0xC0`
  [0xA3, 0xC0, 0xA3, 0xC1, 0xA3, 0xC2, 0xA3, 0xC3, 0xA3, 0xC4, 0xA3, 0xC5,
    0xA3, 0xC6, 0xA3, 0xC7, 0xA3, 0xC8, 0xA3, 0xC9, 0xA3, 0xCA, 0xA3, 0xCB,
    0xA3, 0xC0, 0xA3, 0xCD, 0xA3, 0xCE, 0xA3, 0xCF]

/-- `arr_A3D0`: `P` to `Z`. -/
def arrA3D0 : List UInt8 :=
  [0xA3, 0xD0, 0xA3, 0xD1, 0xA3, 0xD2, 0xA3, 0xD3, 0xA3, 0xD4, 0xA3, 0xD5,
    0xA3, 0xD6, 0xA3, 0xD7, 0xA3, 0xD8, 0xA3, 0xD9, 0xA3, 0xDA]

/-- `arr_A3E0`: the back quote and `a` to `o`. -/
def arrA3E0 : List UInt8 :=
  [0xA3, 0xE0, 0xA3, 0xE1, 0xA3, 0xE2, 0xA3, 0xE3, 0xA3, 0xE4, 0xA3, 0xE5,
    0xA3, 0xE6, 0xA3, 0xE7, 0xA3, 0xE8, 0xA3, 0xE9, 0xA3, 0xEA, 0xA3, 0xEB,
    0xA3, 0xEC, 0xA3, 0xED, 0xA3, 0xEE, 0xA3, 0xEF]

/-- `arr_A3F0`: `p` to `z`. -/
def arrA3F0 : List UInt8 :=
  [0xA3, 0xF0, 0xA3, 0xF1, 0xA3, 0xF2, 0xA3, 0xF3, 0xA3, 0xF4, 0xA3, 0xF5,
    0xA3, 0xF6, 0xA3, 0xF7, 0xA3, 0xF8, 0xA3, 0xF9, 0xA3, 0xFA]

/-- The entry of a table of two-byte characters. -/
def gbEntry (table : List UInt8) (i : ℕ) : List UInt8 :=
  (table.drop (i * 2)).take 2

/-- What the loop of `AsciiToGb` stores for one character. -/
def gbChar (b : UInt8) : List UInt8 :=
  let m := b.toNat
  if m ≥ 0x30 ∧ m ≤ 0x39 then gbEntry arrA3B0 (m - 0x30)
  else if m ≥ 0x41 ∧ m ≤ 0x4f then gbEntry arrA3C0 (m - 0x41 + 1)
  else if m ≥ 0x50 ∧ m ≤ 0x5a then gbEntry arrA3D0 (m - 0x50)
  else if m ≥ 0x61 ∧ m ≤ 0x6f then gbEntry arrA3E0 (m - 0x61 + 1)
  else if m ≥ 0x70 ∧ m ≤ 0x7a then gbEntry arrA3F0 (m - 0x70)
  else [b]

/-- The string `AsciiToGb` stores; its length parameter is a `u8`. -/
def asciiToGb (f : ℕ → UInt8) (src : ℕ) (len : ℤ) : List UInt8 :=
  (readBytes f src (len % 256).toNat).flatMap gbChar

/-- A hexadecimal digit. -/
def hexDigit (c : ℕ) : UInt8 :=
  if c ≥ 10 then UInt8.ofNat (0x41 + c - 10) else UInt8.ofNat (0x30 + c)

/-- The string `GSM_HextoAscii_Convert` stores, with the terminator behind the
last character. -/
def gsmHextoAscii (bs : List UInt8) : List UInt8 :=
  bs.flatMap (fun c => [hexDigit (c.toNat / 16), hexDigit (c.toNat % 16)]) ++
    (if bs = [] then [] else [0])

namespace AppState

/-- `TTS_Get_Data`; `sizeof` of a pointer clears four bytes of the buffer. -/
def ttsGetData (s : AppState) (f : ℕ → UInt8) (src : ℕ) (len : ℤ) : AppState :=
  let len16 := (len % 65536).toNat
  if s.texts.tts.playing ≠ 0 then
    let s := (s.memset .hexBuf 4).memcpy .hexBuf f src len16
    { s with
      texts.tts.hexLen := len16
      texts.tts.save := 1 }
  else
    let s := s.memset .asciiBuf 4
    let xs := gsmHextoAscii (readBytes f src len16)
    let s := s.store .asciiBuf xs xs.length
    { s with
      texts.tts.asciiLen := len16 * 2 % 65536
      texts.tts.timeOutLimt := len16 / 3 + 3
      texts.tts.timeCounter := 0
      texts.tts.needtoPlay := 1 }

/-- The destination of `AsciiToGb` filled. -/
def storeGb (s : AppState) (d : Arr) (f : ℕ → UInt8) (src : ℕ) (len : ℤ) :
    AppState :=
  let xs := asciiToGb f src len
  s.store d xs xs.length

/-- `DwinLCD.Type=LCD_SDTXT` and the display text from `AsciiToGb`. -/
def showText (s : AppState) (f : ℕ → UInt8) (src : ℕ) (len : ℤ) : AppState :=
  let s := (s.memset .txtContent 256).storeGb .txtContent f src len
  { s with
    texts.lcdType := 3
    texts.lcdTxtContentLen := (asciiToGb f src len).length }

/-- `TEXTMSG_Write(num,new_state,len,TextInfo.TEXT_Content)`. -/
def textmsgWrite (s : AppState) (num newState len : UInt8) : AppState :=
  let s := { s with texts.textObj := ⟨newState, num, len⟩ }
  let s := (s.memset .textStr 150).memcpy .textStr (s.mem .textContent) 0
    len.toNat
  let pos := if num.toNat % 8 ≠ 0 then num.toNat % 8 else 8
  s.recordNumWrite .textMsg pos s.textBytes

/-! ## Resets of the record tables -/

/-- `Event_Init(1)`. -/
def eventInit (s : AppState) : AppState :=
  let s := { s with records.eventObj.eventLen := 0 }
  let s := s.memset .eventStr 20
  let s := { s with records.eventObj.eventEffective := 0 }
  (List.range 8).foldl (fun s i =>
    let s := { s with
      records.eventObj.eventId := UInt8.ofNat (i + 1) }
    s.writeEvent) s

/-- `MSG_BroadCast_Init(1)`. -/
def msgBroadCastInit (s : AppState) : AppState :=
  let s := { s with
    records.msgBroadCastObj.infoLen := 0
    records.msgBroadCastObj.infoEffective := 0 }
  let s := s.memset .infoStr 30
  (List.range 8).foldl (fun s i =>
    let s := { s with records.msgBroadCastObj.infoType := UInt8.ofNat (i + 1) }
    s.writeMsgBroadCast) s

/-- `Time2BCD` of the two times of a rail or route. -/
def storeNow (s : AppState) (start stop : Arr) : AppState :=
  let now := readBytes s.timeNow 0 6
  (s.store start now 6).store stop now 6

/-- `RailCycle_Init`. -/
def railCycleInit (s : AppState) : AppState :=
  let s := s.storeNow .cycleStartTime .cycleEndTime
  let s := { s with records.railCycle :=
    { radius := 100, maxSpd := 100, keepDur := 30, railNum := 8 } }
  (List.range 8).foldl (fun s i =>
    let s := { s with records.railCycle.areaId := i + 1 }
    s.writeRailCycle) s

/-- `RailRect_Init`. -/
def railRectInit (s : AppState) : AppState :=
  let s := s.storeNow .rectStartTime .rectEndTime
  let s := { s with records.railRectangle :=
    { maxSpd := 100, keepDur := 30, railNum := 8 } }
  (List.range 8).foldl (fun s i =>
    let s := { s with records.railRectangle :=
      { s.records.railRectangle with areaId := i + 1 } }
    s.writeRailRectangle) s

/-- `RailPolygen_Init`; it leaves `Rail_Num` alone. -/
def railPolygenInit (s : AppState) : AppState :=
  let s := s.storeNow .polygenStartTime .polygenEndTime
  let s := { s with records.railPolygen := {
    maxSpd := 100
    keepDur := 30
    acmeNum := 3
    acme1Latitude := 10
    acme1Longitude := 10
    acme2Latitude := 20
    acme2Longitude := 20
    acme3Latitude := 30
    acme3Longitude := 30
    railNum := s.records.railPolygen.railNum } }
  (List.range 8).foldl (fun s i =>
    let s := { s with records.railPolygen.areaId := i + 1 }
    s.writeRailPolygen) s

/-- `RouteLine_Init`, with `RouteLine_Obj_init`. -/
def routeLineInit (s : AppState) : AppState :=
  let s := s.storeNow .routeStartTime .routeEndTime
  let points : ℕ → RoutePoint := fun i =>
    if i < 3 then
      { pointId := i + 1
        lineId := i
        pointLatitude := i + 300
        pointLongitude := i + 500
        width := 20
        atribute := 0
        tooLongValue := 100
        tooLessValue := 50
        maxSpd := 60
        keepDur := 3 }
    else s.records.routeObj.routePoints i
  let s := { s with
    records.routeObj := { pointsNum := 3, routePoints := points }
    stores := s.stores ++ [⟨.routePoints, 0, 3⟩] }
  (List.range 8).foldl (fun s i =>
    let s := { s with records.routeObj.routeId := i + 1 }
    s.writeRoute) s

/-! ## Alarms and the media transfer -/

/-- `StatusReg_WARN_Clear`. -/
def statusRegWarnClear (s : AppState) : AppState :=
  { s with vehicle.warnStatus3 := s.vehicle.warnStatus3 &&& 0xfe }

/-- `DataLinkOK_Process`. -/
def dataLinkOkProcess (s : AppState) : AppState :=
  { s with
    link.dataLinkOnline := 1
    link.moduleStatus := s.link.moduleStatus ||| 0x02 }

/-- `Spd_ExpInit`. -/
def spdExpInit (s : AppState) : AppState :=
  { s with
    vehicle.speedExdMaxSpd := 0
    vehicle.speedExdDurSeconds := 0
    vehicle.speedExdStatus := 0
    vehicle.speedExdStartTime :=
      List.replicate 5 0 ++ s.vehicle.speedExdStartTime.drop 5
    vehicle.speedExdFlag := 0 }

/-- `TIRED_Drive_Init`. -/
def tiredDriveInit (s : AppState) : AppState :=
  let d := s.tiredConf.tiredDrive
  { s with tiredConf := { s.tiredConf with tiredDrive := {
      startTime := List.replicate 5 0 ++ d.startTime.drop 5
      endTime := List.replicate 5 0 ++ d.endTime.drop 5 } } }

/-- `Media_Clear_State`. -/
def mediaClearState (s : AppState) : AppState :=
  { s with media.mediaObj := {
      mediaType := s.media.mediaObj.mediaType
      mediaCodeType := s.media.mediaObj.mediaCodeType } }

/-- `Photo_send_end`. -/
def photoSendEnd (s : AppState) : AppState :=
  { s with media.photoSdState := {} }.mediaClearState

/-- `Sound_send_end`. -/
def soundSendEnd (s : AppState) : AppState :=
  { s with
    media.soundSdState := {}
    media.mp3Sendstate := 0
    media.vocRec.running := 0 }.mediaClearState

/-- `Video_send_end`. -/
def videoSendEnd (s : AppState) : AppState :=
  { s with media.videoSdState := {}, media.wmvSendstate := 0 }.mediaClearState

/-- `Media_Start_Init`. -/
def mediaStartInit (s : AppState) (mdType mdCodeType : UInt8) : AppState :=
  { s with
    media.mediaObj.mediaType := mdType
    media.mediaObj.mediaCodeType := mdCodeType
    media.mediaObj.sdMediaFlag := 1
    media.mediaObj.sdEventstate := 1
    media.mediaObj.rsdState := 0
    media.mediaObj.rsdTimer := 0
    media.mediaObj.rsdTotal := 0
    media.mediaObj.rsdReader := 0
    media.mediaObj.sdDataFlag := 0
    media.mediaObj.mediaTransmittingFlag := 0 }

/-- `MP3_send_start`. -/
def mp3SendStart (s : AppState) : AppState :=
  { s with
    media.mp3Sendstate := 1
    media.soundSdState := {
      sdPacketNum := 1
      totalPacketNum :=
        (if s.media.mp3Fsize % 512 ≠ 0 then s.media.mp3Fsize / 512 + 1
          else s.media.mp3Fsize / 512) % 65536 } }.mediaStartInit 1 2

/-- `VOC_REC_Start`; it takes its parameters from `UDP_HEX_Rx`. -/
def vocRecStart (s : AppState) (rx : ℕ → UInt8) : AppState :=
  if s.link.gsmPowerOver ≠ 0 ∧ s.media.vocRec.running = 0 then
    { s with media.vocRec := {
        running := 1
        jt808Duration := be16 rx 14
        jt808SaveOrNot := rx 16
        sate := 1
        excuteFlag := 1
        currenPageCnt := 5249
        halfPage := 0 } }
  else s

/-- `Camera_Take_Enable`. -/
def cameraTakeEnable (s : AppState) : Bool :=
  s.media.cameraStatus = 2 ∧ s.media.multiTaking = 0 ∧
    s.media.multiTransfering = 0

end AppState

/-! ## IP addresses -/

/-- The characters in front of the terminator. -/
def cString (xs : List UInt8) : List UInt8 := xs.takeWhile (· ≠ 0)

/-- `strtrim(s,' ')`. -/
def strtrim (xs : List UInt8) : List UInt8 :=
  ((xs.reverse.dropWhile (· = 0x20)).reverse).dropWhile (· = 0x20)

/-- White space, as `sscanf` skips it. -/
def isSpace (c : UInt8) : Bool := c = 0x20 ∨ (0x09 ≤ c ∧ c ≤ 0x0d)

/-- A decimal digit. -/
def isDigit (c : UInt8) : Bool := 0x30 ≤ c ∧ c ≤ 0x39

/-- The value of a digit string. -/
def decValue (ds : List UInt8) : ℕ :=
  ds.foldl (fun n d => n * 10 + (d.toNat - 0x30)) 0

/-- One `%u` of `sscanf`: the value, limited to 32 bits, and the rest. -/
def scanU (xs : List UInt8) : Option (ℕ × List UInt8) :=
  let xs := xs.dropWhile isSpace
  let negative := xs.head? = some 0x2d
  let xs := if negative ∨ xs.head? = some 0x2b then xs.tail else xs
  let ds := xs.takeWhile isDigit
  if ds = [] then none
  else
    let v := min (decValue ds) 4294967295
    some (if negative then (4294967296 - v) % 4294967296 else v,
      xs.dropWhile isDigit)

/-- The values `sscanf(buf,"%u.%u.%u.%u",...)` converts; at most `n` are left to
read. -/
def scanIp : ℕ → List UInt8 → List ℕ
  | 0, _ => []
  | n + 1, xs =>
      match scanU xs with
      | none => []
      | some (v, rest) =>
          v :: (if rest.head? = some 0x2e then scanIp n rest.tail else [])

/-- The entries of `_ip`, 16 bits each.  Every value is stored as 32 bits, so
that its upper half reaches the next entry. -/
def ipWord (vs : List ℕ) (k : ℕ) : ℕ :=
  match vs[k]? with
  | some v => v % 65536
  | none => if k = 0 ∨ k > vs.length then 0 else vs.getD (k - 1) 0 / 65536

/-- `str2ip`: the number of values, `255` for the `EOF` of an empty string, and
the four bytes. -/
def str2ip (buf : List UInt8) : ℕ × List UInt8 :=
  let xs := strtrim (cString buf)
  let vs := scanIp 4 xs
  (if xs.all isSpace then 255 else vs.length,
    (List.range 4).map fun k => UInt8.ofNat (ipWord vs k))

end VehicleRecorder.Protocol
