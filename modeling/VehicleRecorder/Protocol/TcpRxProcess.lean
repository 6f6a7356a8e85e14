import VehicleRecorder.Protocol.Parameters

/-!
# The handlers of downlink messages

The command switch of `TCP_RX_Process`.  Every `case` is a function of the
buffer `UDP_HEX_Rx` and the state; only what a case prints is left out.
-/

namespace VehicleRecorder.Protocol

open Bytes

/-- `infolen`: the length of the body as the header gives it. -/
def infolen (rx : ℕ → UInt8) : ℕ := (rx 3 &&& 0x03).toNat * 256 + (rx 4).toNat

/-- The number of an area or route, `1` if it is out of range. -/
def areaNumber (max id : ℕ) : ℕ := if id > max ∨ id = 0 then 1 else id

/-- `strncmp(a,b,n)==0` from index `i` on. -/
def strncmpEq (a b : ℕ → UInt8) : ℕ → ℕ → Bool
  | _, 0 => true
  | i, n + 1 =>
      if a i ≠ b i then false
      else if a i = 0 then true
      else strncmpEq a b (i + 1) n

theorem strncmpEq_iff {a b : ℕ → UInt8} {i n : ℕ}
    (hb : ∀ j < n, b (i + j) ≠ 0) :
    strncmpEq a b i n = true ↔ ∀ j < n, a (i + j) = b (i + j) := by
  induction n generalizing i with
  | zero => exact iff_of_true rfl fun j hj => absurd hj (Nat.not_lt_zero j)
  | succ n ih =>
      have hshift (j : ℕ) : i + (j + 1) = i + 1 + j := by omega
      have hrest : ∀ j < n, b (i + 1 + j) ≠ 0 := by
        intro j hj
        rw [← hshift]
        exact hb (j + 1) (by omega)
      have hfirst := hb 0 (Nat.succ_pos n)
      unfold strncmpEq
      by_cases heq : a i = b i
      · rw [if_neg (not_not_intro heq), if_neg (heq ▸ hfirst), ih hrest]
        constructor
        · intro h j hj
          cases j with
          | zero => exact heq
          | succ j =>
              rw [hshift]
              exact h j (by omega)
        · intro h j hj
          rw [← hshift]
          exact h (j + 1) (by omega)
      · rw [if_pos heq]
        exact iff_of_false Bool.false_ne_true fun h => heq (h 0 (Nat.succ_pos n))

namespace AppState

/-! ## Answers and registration -/

/-- The answer to a position report. -/
def ackPosition (s : AppState) : AppState :=
  let s :=
    if s.vehicle.warnStatus3 &&& 0x01 ≠ 0 then
      { s.statusRegWarnClear with
        vehicle.exigentWarning := 0
        vehicle.warnFlag := 0
        vehicle.sendWarnTimes := 0 }.statusRegWarnClear
    else s
  let s :=
    if s.vehicle.warnStatus1 &&& 0x10 ≠ 0 then
      { s with
        vehicle.inOutType := 0
        vehicle.inOutId := 0
        vehicle.inOutState := 0
        vehicle.warnStatus1 := s.vehicle.warnStatus1 &&& 0xef }
    else s
  let s :=
    if s.vehicle.warnStatus1 &&& 0x20 ≠ 0 then
      { s with
        vehicle.inOutType := 0
        vehicle.inOutId := 0
        vehicle.inOutState := 0
        vehicle.warnStatus1 := s.vehicle.warnStatus1 &&& 0xdf }
    else s
  let s :=
    if s.vehicle.warnStatus0 &&& 0x20 ≠ 0 then
      { s with vehicle.warnStatus0 := s.vehicle.warnStatus0 &&& 0xdf }
    else s
  if s.vehicle.warnStatus0 &&& 0x60 ≠ 0 then
    { s with vehicle.warnStatus0 := s.vehicle.warnStatus0 &&& 0x9f }
  else s

/-- `case 0x8001`: the general answer of the platform. -/
def case8001 (rx : ℕ → UInt8) (s : AppState) : AppState :=
  match be16 rx 15 with
  | 0x0200 => if rx 17 ≠ 0 then s else s.ackPosition
  | 0x0002 =>
      { s with conf := { s.conf with
          duration := { s.conf.duration with
            tcpAckDurCnter := 0
            tcpSdState := 0 } } }
  | 0x0101 =>
      if rx 17 = 0 then s.putConf { s.conf with regsiterStatus := 0 } else s
  | 0x0102 =>
      if rx 17 = 0 then
        let s := { s with
          link.devLoginOperateEnable := 2
          link.devLoginSdAdd := 0 }
        if s.link.dataLinkOnline ≠ 0 then s.dataLinkOkProcess else s
      else s
  | _ => s

/-- `case 0x8100`: the answer to a registration. -/
def case8100 (rx : ℕ → UInt8) (s : AppState) : AppState :=
  match rx 15 with
  | 0 =>
      let s := s.memset .confirmCode 20
      let s := s.memcpy .confirmCode rx 16 (infolen rx - 3)
      let s := { s with
        conf.regsiterStatus := 1
        link.devRegistSdAdd := 0 }.saveJT808
      { s with link.devLoginOperateEnable := 1 }
  | 3 =>
      if s.conf.regsiterStatus = 0 then s
      else if s.conf.regsiterStatus = 1 then
        { s with link.devLoginOperateEnable := 1 }
      else s
  | _ => s

/-! ## Parameters and control -/

/-- `case 0x8103`: set parameters.  `contentlen` is at least 12, so the test of
it holds always. -/
def case8103 (rx : ℕ → UInt8) (s : AppState) : AppState :=
  let s := parameterLoop .sub8103H rx (rx 13).toNat 14 s
  if s.sdAckFlag.centreCmdAck0001H = 2 then
    { s with sdAckFlag.centreCmdAckResualt := 0 }
  else if s.sdAckFlag.centreCmdAck0001H = 0 then s.ack
  else s

/-- `case 0x8104`: query parameters. -/
def case8104 (s : AppState) : AppState :=
  { s with sdAckFlag.settingPram0104H := 1 }

/-- `case 0x8105`: terminal control. -/
def case8105 (rx : ℕ → UInt8) (s : AppState) : AppState :=
  let s := centreSetSubService8105H (rx 13) s
  if s.sdAckFlag.centreCmdAck0001H = 0 then s.ack else s

/-- `case 0x8201`: query the position. -/
def case8201 (s : AppState) : AppState :=
  { s with sdAckFlag.currentPosition0201H := 1 }

/-- `case 0x8202`: follow the position for a time. -/
def case8202 (rx : ℕ → UInt8) (s : AppState) : AppState :=
  let lockKeepDur := be32 rx 15
  let s := { s with
    conf := { s.conf with
      rtLock := {
        lockState := 1
        lockDur := be16 rx 13
        lockKeepDur := lockKeepDur
        lockKeepCnter := 0 }
      durTotalMode := 1
      durDefaultMode := 1 }
    link.currentSdDuration := lockKeepDur }
  s.saveJT808.ack

/-! ## Texts -/

/-- The voice output of a text message of `len` bytes. -/
def playText (rx : ℕ → UInt8) (len : ℤ) (s : AppState) : AppState :=
  if s.texts.textFlag &&& 0x09 ≠ 0 then
    let s := { s with texts.voiceCmdType := 0x32 }
    let s := (s.memset .playInfo 100).memcpy .playInfo rx 14 len
    { s with texts.voiceInfoSdFlag := 1 }.ttsGetData rx 14 len
  else s

/-- The content of a text message of `len` bytes, kept and stored. -/
def keepText (rx : ℕ → UInt8) (len : ℤ) (s : AppState) : AppState :=
  if s.texts.textFlag &&& 0x04 ≠ 0 ∨ s.texts.textFlag &&& 0x01 ≠ 0 then
    let s := (s.memset .textContent 100).memcpy .textContent rx 14 len
    let s := { s with
      texts.textSdFlag := 1
      texts.textInforCounter := s.texts.textInforCounter + 1 }
    s.textmsgWrite s.texts.textInforCounter 1 (UInt8.ofNat (len % 256).toNat)
  else s

/-- `case 0x8300`: a text message. -/
def case8300 (rx : ℕ → UInt8) (s : AppState) : AppState :=
  let len : ℤ := infolen rx - 1
  let s := { s with texts.textFlag := rx 13 }
  let s := (s.playText rx len).keepText rx len
  (s.showText rx 14 len).ack

/-- `case 0x8301`: set events. -/
def case8301 (rx : ℕ → UInt8) (s : AppState) : AppState :=
  let s :=
    if rx 13 = 0 then s.eventInit
    else if rx 13 ≤ 4 then
      if rx 14 ≠ 1 then s
      else
        let s := { s with records.eventObj :=
          { s.records.eventObj with eventId := rx 15, eventLen := rx 16 } }
        let s := s.memset .eventStr 20
        let s := s.memcpy .eventStr rx 17 (rx 16).toNat
        let s := { s with
          records.eventObj.eventEffective := 1 }
        s.writeEvent
    else s
  s.ack

/-- `case 0x8302`: ask a question. -/
def case8302 (rx : ℕ → UInt8) (s : AppState) : AppState :=
  let askInfolen := (rx 14).toNat
  let s := { s with records.askCentre.askInfolen := rx 14 }
  let s := (s.memset .askInfo 30).memcpy .askInfo rx 15 askInfolen
  let s := (s.memset .askAnswer 30).memcpy .askAnswer rx (15 + askInfolen)
    (infolen rx - 2 - askInfolen)
  let s := { s with
    records.askCentre.askSdFlag := 1
    records.askCentre.askFloatId := be16 rx 11
    records.askCentre.askDispEnable := 1 }
  (s.recordNumWrite .askQuesstion 1 s.askBytes).ack

/-- `case 0x8303`: set the menu of information on demand. -/
def case8303 (rx : ℕ → UInt8) (s : AppState) : AppState :=
  let s :=
    if rx 13 = 0 then s.msgBroadCastInit
    else if rx 13 ≤ 3 then
      if rx 14 ≠ 1 then s
      else
        let s := { s with
          records.msgBroadCastObj.infoType := rx 15
          records.msgBroadCastObj.infoLen := be16 rx 16 }
        let s := s.memset .infoStr 30
        let s := s.memcpy .infoStr rx 18 (be16 rx 16)
        let s := { s with
          records.msgBroadCastObj.infoEffective := 1
          records.msgBroadCastObj.infoPlyCancel := 1 }
        s.writeMsgBroadCast
    else s
  s.ack

/-- `case 0x8304`: an information service. -/
def case8304 (rx : ℕ → UInt8) (s : AppState) : AppState :=
  let len : ℤ := infolen rx - 3
  let s := { s with
    records.msgBroadCastObj.infoType := rx 13
    records.msgBroadCastObj.infoLen := be16 rx 14 }
  let s := (s.memset .infoStr 30).memcpy .infoStr rx 16 len
  let s := { s with
    records.msgBroadCastObj.infoSdFlag := 1 }
  let s := (s.memset .textContent 100).memcpy .textContent rx 16 len
  { s with texts.textSdFlag := 1 }.ack

/-! ## Telephone and vehicle -/

/-- `case 0x8400`: call back. -/
def case8400 (rx : ℕ → UInt8) (s : AppState) : AppState :=
  if infolen rx = 0 then s
  else if rx 13 ≤ 1 then
    let s := { s with texts.speakOn := rx 13 = 0 }
    let s := s.memset .listenNum 30
    let s := (s.memcpy .listenNum rx 14 (infolen rx - 1)).saveJT808
    { s with texts.callState := 5 }.ack
  else s

/-- The number and the name of a phone book entry, in both branches of
`case 0x8401`; `flag` stands for what is done between the two. -/
def receivePhoneBook (rx : ℕ → UInt8) (flag : PhoneBook → PhoneBook)
    (s : AppState) : AppState :=
  let numLen := (rx 16).toNat
  let userLen := rx (17 + numLen)
  let s := { s with
    records.rxPhoneBook.callType := rx 15
    records.rxPhoneBook.numLen := rx 16 }
  let s := s.memset .numberStr 20
  let s := s.memcpy .numberStr rx 17 numLen
  let s := { s with records.rxPhoneBook.userLen := userLen }
  let s := s.memset .userStr 10
  let s := { s with records.rxPhoneBook := flag s.records.rxPhoneBook }
  s.memcpy .userStr rx (18 + numLen) userLen.toNat

/-- A phone book record read into an entry. -/
def phoneBookOfBytes (xs : List UInt8) : PhoneBook where
  callType := xs.getD 0 0
  numLen := xs.getD 1 0
  userLen := xs.getD 2 0
  effectiveFlag := xs.getD 3 0

/-- `Api_RecordNum_Read(phonebook,n,&PhoneBook,...)`. -/
def readPhoneBook (s : AppState) (recNum : ℕ) : AppState :=
  let xs := Dataflash.apiRecordNumRead s.device .phonebook recNum 34
  let s := { s with records.phoneBook := phoneBookOfBytes xs }
  (s.store .bookNumberStr ((xs.drop 4).take 20) 20).store .bookUserStr
    ((xs.drop 24).take 10) 10

/-- `Api_RecordNum_Read(phonebook,n,&Rx_PhoneBOOK,...)`. -/
def readRxPhoneBook (s : AppState) (recNum : ℕ) : AppState :=
  let xs := Dataflash.apiRecordNumRead s.device .phonebook recNum 34
  let s := { s with records.rxPhoneBook := phoneBookOfBytes xs }
  (s.store .numberStr ((xs.drop 4).take 20) 20).store .userStr
    ((xs.drop 24).take 10) 10

/-- The search for an entry of the received name, for `n` more entries. -/
def replacePhoneBook : ℕ → ℕ → AppState → AppState
  | 0, _, s => s
  | n + 1, i, s =>
      let s := { s with
        records.phoneBook.callType := 2
        records.phoneBook.numLen := 0 }
      let s := s.memset .bookNumberStr 20
      let s := { s with records.phoneBook.userLen := 0 }
      let s := (s.memset .bookUserStr 10).readPhoneBook (i + 1)
      if strncmpEq (s.mem .bookUserStr) (s.mem .userStr) 0
          s.records.rxPhoneBook.userLen.toNat then
        s.recordNumWrite .phonebook (i + 1)
          (phoneBookBytes s.records.rxPhoneBook (s.bytes .numberStr)
            (s.bytes .userStr))
      else replacePhoneBook n (i + 1) s

/-- `case 0x8401`: set the phone book.  Type 2 ends with a read of the record
where one would expect a write. -/
def case8401 (rx : ℕ → UInt8) (s : AppState) : AppState :=
  let s :=
    match rx 13 with
    | 1 => replacePhoneBook 8 0 (s.receivePhoneBook rx id)
    | 3 => replacePhoneBook 8 0 (s.receivePhoneBook rx id)
    | 2 =>
        (s.receivePhoneBook rx
          fun o => { o with effectiveFlag := 1 }).readRxPhoneBook (rx 14).toNat
    | _ => s
  s.ack

/-- `case 0x8500`: vehicle control. -/
def case8500 (rx : ℕ → UInt8) (s : AppState) : AppState :=
  { s with
    vehicle.controlFlag := rx 13
    vehicle.carStatus2 :=
      if rx 13 &&& 0x01 ≠ 0 then s.vehicle.carStatus2 ||| 0x10
      else s.vehicle.carStatus2 &&& 0xef
    vehicle.controlAckSdFlag := 1 }

/-! ## Areas -/

/-- `memset((u8*)&Rail_Cycle,0,sizeof(Rail_Cycle))`. -/
def clearRailCycle (s : AppState) : AppState :=
  { (s.memset .cycleStartTime 6).memset .cycleEndTime 6 with
    records.railCycle := {} }

/-- `memset((u8*)&Rail_Rectangle,0,sizeof(Rail_Rectangle))`. -/
def clearRailRectangle (s : AppState) : AppState :=
  { (s.memset .rectStartTime 6).memset .rectEndTime 6 with
    records.railRectangle := {} }

/-- `memset((u8*)&Rail_Polygen,0,sizeof(Rail_Polygen))`. -/
def clearRailPolygen (s : AppState) : AppState :=
  { (s.memset .polygenStartTime 6).memset .polygenEndTime 6 with
    records.railPolygen := {} }

/-- `memset((u8*)&ROUTE_Obj,0,sizeof(ROUTE_Obj))`. -/
def clearRoute (s : AppState) : AppState :=
  let s := (s.memset .routeStartTime 6).memset .routeEndTime 6
  let points : ℕ → RoutePoint := fun i =>
    if i < 3 then {} else s.records.routeObj.routePoints i
  { s with
    records.routeObj := { routePoints := points }
    stores := s.stores ++ [⟨.routePoints, 0, 3⟩] }

/-- `case 0x8600`: set a circular area.  To append one the source first writes
an empty record eight times, to the number of the empty record. -/
def case8600 (rx : ℕ → UInt8) (s : AppState) : AppState :=
  let s :=
    if rx 14 = 1 ∧ rx 13 ≤ 2 then
      let s :=
        if rx 13 = 1 then
          (List.range 8).foldl (fun s _ =>
            let s := s.clearRailCycle
            s.writeRailCycle) s
        else s
      let s := s.clearRailCycle
      let s := (s.memcpy .cycleStartTime rx 33 6).memcpy .cycleEndTime rx 39 6
      let s := { s with
        records.railCycle := {
          areaId := areaNumber 8 (be32 rx 15)
          areaAttribute := be16 rx 19
          centerLatitude := be32 rx 21
          centerLongitude := be32 rx 25
          radius := be32 rx 29
          maxSpd := be16 rx 45
          keepDur := rx 47
          effectiveFlag := 1 } }
      s.writeRailCycle
    else s
  s.ack

/-- `case 0x8602`: set a rectangular area. -/
def case8602 (rx : ℕ → UInt8) (s : AppState) : AppState :=
  let s :=
    if rx 14 = 1 ∧ rx 13 ≤ 2 then
      let s := s.clearRailRectangle
      let s := (s.memcpy .rectStartTime rx 37 6).memcpy .rectEndTime rx 43 6
      let s := { s with
        records.railRectangle := {
          areaId := areaNumber 8 (be32 rx 15)
          areaAttribute := be16 rx 19
          leftUpLatitude := be32 rx 21
          leftUpLongitude := be32 rx 25
          rightDownLatitude := be32 rx 29
          rightDownLongitude := be32 rx 33
          maxSpd := be16 rx 49
          keepDur := rx 51
          effectiveFlag := 1 } }
      s.writeRailRectangle
    else s
  s.ack

/-- `case 0x8604`: set a polygonal area.  The start time overlaps the
attribute. -/
def case8604 (rx : ℕ → UInt8) (s : AppState) : AppState :=
  let s :=
    if rx 14 = 1 ∧ rx 13 ≤ 2 then
      let s := s.clearRailPolygen
      let s := s.memcpy .polygenStartTime rx 20 6
      let s := s.memcpy .polygenEndTime rx 26 6
      let s := { s with
        records.railPolygen := {
          areaId := areaNumber 8 (be32 rx 15)
          areaAttribute := be16 rx 19
          maxSpd := be16 rx 32
          keepDur := rx 34
          acmeNum := (rx 35).toNat
          acme1Latitude := be32 rx 36
          acme1Longitude := be32 rx 40
          acme2Latitude := be32 rx 44
          acme2Longitude := be32 rx 48
          acme3Latitude := be32 rx 52
          acme3Longitude := be32 rx 56
          effectiveFlag := 1 } }
      s.writeRailPolygen
    else s
  s.ack

/-- The loop of the cases that delete areas or routes: every turn reads a
number, one byte behind the number before it. -/
def deleteLoop (delete : ℕ → AppState → AppState) (rx : ℕ → UInt8)
    (s : AppState) : AppState :=
  (List.range (rx 13).toNat).foldl (fun s i => delete (be32 rx (14 + i)) s) s

/-- `case 0x8601`: delete circular areas. -/
def case8601 (rx : ℕ → UInt8) (s : AppState) : AppState :=
  let s :=
    if rx 13 = 0 then s.railCycleInit
    else
      deleteLoop (fun id s =>
        let s := { s with
          records.railCycle.areaId := areaNumber 8 id
          records.railCycle.effectiveFlag := 0 }
        s.writeRailCycle) rx
        s.clearRailCycle
  s.ack

/-- `case 0x8603`: delete rectangular areas. -/
def case8603 (rx : ℕ → UInt8) (s : AppState) : AppState :=
  let s :=
    if rx 13 = 0 then s.railRectInit
    else
      deleteLoop (fun id s =>
        let s := { s with
          records.railRectangle.areaId := areaNumber 8 id
          records.railRectangle.effectiveFlag := 0 }
        s.writeRailRectangle) rx s.clearRailRectangle
  s.ack

/-- `case 0x8605`: delete polygonal areas. -/
def case8605 (rx : ℕ → UInt8) (s : AppState) : AppState :=
  let s :=
    if rx 13 = 0 then s.railPolygenInit
    else
      deleteLoop (fun id s =>
        let s := { s with
          records.railPolygen.areaId := areaNumber 8 id
          records.railPolygen.effectiveFlag := 0 }
        s.writeRailPolygen) rx s.clearRailPolygen
  s.ack

/-! ## Routes -/

/-- A turning point read from offset `r`, and the offset behind it.  Two
increments in one expression are taken from left to right. -/
def readRoutePoint (rx : ℕ → UInt8) (r : ℕ) (old : RoutePoint) :
    RoutePoint × ℕ :=
  let p := { old with
    pointId := be32 rx r
    lineId := be32 rx (r + 4)
    pointLatitude := be32 rx (r + 8)
    pointLongitude := be32 rx (r + 12)
    width := rx (r + 16)
    atribute := rx (r + 17) }
  if rx (r + 17) = 0 then (p, r + 18)
  else if rx (r + 17) = 1 then ({ p with maxSpd := be16 rx (r + 18) }, r + 20)
  else
    ({ p with
        tooLongValue := be16 rx (r + 18)
        tooLessValue := be16 rx (r + 20)
        maxSpd := be16 rx (r + 22)
        keepDur := UInt8.ofNat (be16 rx (r + 24)) }, r + 26)

/-- The loop over the turning points, for `n` more of them from index `i` and
offset `r` on. -/
def routeLoop (rx : ℕ → UInt8) : ℕ → ℕ → ℕ → AppState → AppState
  | 0, _, _, s => s
  | n + 1, i, r, s =>
      let (p, r) := readRoutePoint rx r (s.records.routeObj.routePoints i)
      let points := Function.update s.records.routeObj.routePoints i p
      routeLoop rx n (i + 1) r { s with
        records.routeObj.routePoints := points
        stores := s.stores ++ [⟨.routePoints, i, 1⟩] }

/-- `case 0x8606`: set a route.  The loop always reads six points. -/
def case8606 (rx : ℕ → UInt8) (s : AppState) : AppState :=
  let s := s.clearRoute
  let s := (s.memcpy .routeStartTime rx 19 6).memcpy .routeEndTime rx 25 6
  let s := { s with
    records.routeObj.routeId := be32 rx 13
    records.routeObj.routeAttribute := be16 rx 17
    records.routeObj.pointsNum := be16 rx 31 }
  if be16 rx 31 < 3 then s.ack
  else
    let s := routeLoop rx 6 0 33 s
    let s := { s with
      records.routeObj.routeId := areaNumber 16 s.records.routeObj.routeId
      records.routeObj.effectiveFlag := 1 }
    (s.writeRoute).ack

/-- `case 0x8607`: delete routes. -/
def case8607 (rx : ℕ → UInt8) (s : AppState) : AppState :=
  let s :=
    if rx 13 = 0 then s.routeLineInit
    else
      deleteLoop (fun id s =>
        let s := { s with
          records.routeObj.routeId := areaNumber 16 id
          records.routeObj.effectiveFlag := 0 }
        s.writeRoute) rx
        s.clearRoute
  s.ack

/-! ## The recorder, cameras and media -/

/-- The start of the cases `0x8700` and `0x8701`. -/
def noteRecode (rx : ℕ → UInt8) (s : AppState) : AppState :=
  { s with
    media.recodeFloatId := be16 rx 11
    media.recodeCmd := rx 13
    media.recodeSdDataFlag := 1 }

/-- `case 0x8700`: collect recorder data. -/
def case8700 (rx : ℕ → UInt8) (s : AppState) : AppState := noteRecode rx s

/-- `case 0x8701`: set recorder parameters. -/
def case8701 (rx : ℕ → UInt8) (s : AppState) : AppState :=
  centerSetSubService8701H (rx 13) (fun i => rx (14 + i)) (noteRecode rx s)

/-- `case 0x8800`: the answer to a media upload. -/
def case8800 (rx : ℕ → UInt8) (s : AppState) : AppState :=
  if infolen rx = 5 then
    let s :=
      match s.media.mediaObj.mediaType with
      | 0 => s.photoSendEnd
      | 1 => s.soundSendEnd
      | 2 => s.videoSendEnd
      | _ => s
    s.mediaClearState
  else if rx 17 ≠ 0 then
    let s := { s with
      media.mediaObj.rsdState := 1
      media.mediaObj.rsdTimer := 0
      media.mediaObj.rsdReader := 0
      media.mediaObj.rsdTotal := rx 17 }
    (s.memset .mediaReSdList 125).memcpy .mediaReSdList rx 18 (rx 17).toNat
  else s

/-- `case 0x8801`: take a picture. -/
def case8801 (rx : ℕ → UInt8) (s : AppState) : AppState :=
  let s := { s with
    media.cameraChannelId := rx 13
    media.cameraOperateState := rx 18 }
  if s.cameraTakeEnable ∧ s.media.photoSdState.photoSending = 0 then
    let s := { s with media.cameraNumber := rx 13 }
    -- the guard of the source asks for both and never holds
    if s.media.cameraNumber > 4 ∧ s.media.cameraNumber < 1 then s
    else
      { s.call (.startCamera s.media.cameraNumber) with
        media.singleCameraTakeRetry := 0 }.ack
  else s.ack

/-- `case 0x8802`: search the stored media.  Sound goes on into video. -/
def case8802 (rx : ℕ → UInt8) (s : AppState) : AppState :=
  let flags := { s.sdAckFlag with queryEventCode := rx 15 }
  match rx 13 with
  | 0 => { s with sdAckFlag := { flags with mediaIndexAck0802H := 1 } }
  | 1 => { s with sdAckFlag := { flags with mediaIndexAck0802H := 3 } }
  | 2 => { s with sdAckFlag := { flags with mediaIndexAck0802H := 3 } }
  | _ => { s with sdAckFlag := flags }

/-- `case 0x8803`: upload stored media. -/
def case8803 (rx : ℕ → UInt8) (s : AppState) : AppState :=
  (if rx 13 = 1 then s.mp3SendStart else s).ack

/-- `case 0x8804`: record sound; `VOC_REC_Stop` is empty. -/
def case8804 (rx : ℕ → UInt8) (s : AppState) : AppState :=
  (if rx 13 = 1 then s.vocRecStart rx else s).ack

/-! ## Transparent data -/

/-- `Nullpro_8900H`. -/
def nullpro8900H (instr : ℕ → UInt8) (s : AppState) : AppState :=
  match instr 15 with
  | 0x91 =>
      { s with
        isp.rxCmd := instr 15
        isp.ack := 1
        isp.runningState := 1
        isp.runningCounter := 0
        isp.repeatCounter := 0 }
  | 0x93 =>
      { s with
        isp.currentPacknum := be16 instr 16
        isp.totalPacknum := be16 instr 18
        isp.ackResualt := 1
        isp.repeatCounter := 0
        isp.runningState := 1
        isp.runningCounter := 0
        isp.ack88 := 1 }
  | 0x95 =>
      { s with
        isp.ack23 := 1
        isp.runningState := 1
        isp.runningCounter := 0
        isp.repeatCounter := 0 }
  | _ => s

/-- `case 0x8900`: transparent data. -/
def case8900 (linkNum : ℕ) (rx : ℕ → UInt8) (s : AppState) : AppState :=
  if linkNum = 0 then
    let len : ℤ := infolen rx - 1
    let s := { s with texts.dataTransType := rx 13 }
    let s := (s.memset .dataRx 10).memcpy .dataRx rx 14 len
    let s := { s with texts.dataTransRxLen := UInt8.ofNat (len % 256).toNat }
    let s := (s.memset .textContent 100).storeGb .textContent rx 14 len
    let s := { s with texts.textSdFlag := 1 }
    (s.showText rx 14 len).ack
  else if rx 13 = 0x1F then nullpro8900H (fun i => rx (14 + i)) s
  else s

/-! ## Extensions -/

/-- `case 0xFF01`. -/
def caseFF01 (rx : ℕ → UInt8) (s : AppState) : AppState :=
  (parameterLoop .subFF01H rx (rx 13).toNat 14 s).bdExtWrite.ack

/-- `case 0xFF02`. -/
def caseFF02 (s : AppState) : AppState :=
  { s with sdAckFlag.bdExtend7F02H := 1 }

/-- `case 0xFF03`. -/
def caseFF03 (rx : ℕ → UInt8) (s : AppState) : AppState :=
  (parameterLoop .subFF03H rx (rx 13).toNat 14 s).ack

/-- The command switch. -/
def commandSwitch (cmdId linkNum : ℕ) (rx : ℕ → UInt8) (s : AppState) :
    AppState :=
  match cmdId with
  | 0x8001 => s.case8001 rx
  | 0x8100 => s.case8100 rx
  | 0x8103 => s.case8103 rx
  | 0x8104 => s.case8104
  | 0x8105 => s.case8105 rx
  | 0x8201 => s.case8201
  | 0x8202 => s.case8202 rx
  | 0x8300 => s.case8300 rx
  | 0x8301 => s.case8301 rx
  | 0x8302 => s.case8302 rx
  | 0x8303 => s.case8303 rx
  | 0x8304 => s.case8304 rx
  | 0x8400 => s.case8400 rx
  | 0x8401 => s.case8401 rx
  | 0x8500 => s.case8500 rx
  | 0x8600 => s.case8600 rx
  | 0x8601 => s.case8601 rx
  | 0x8602 => s.case8602 rx
  | 0x8603 => s.case8603 rx
  | 0x8604 => s.case8604 rx
  | 0x8605 => s.case8605 rx
  | 0x8606 => s.case8606 rx
  | 0x8607 => s.case8607 rx
  | 0x8700 => s.case8700 rx
  | 0x8701 => s.case8701 rx
  | 0x8800 => s.case8800 rx
  | 0x8801 => s.case8801 rx
  | 0x8802 => s.case8802 rx
  | 0x8803 => s.case8803 rx
  | 0x8804 => s.case8804 rx
  | 0x8805 => s.ack
  | 0x8900 => s.case8900 linkNum rx
  | 0x8A00 => s.ack
  | 0xFF01 => s.caseFF01 rx
  | 0xFF02 => s.caseFF02
  | 0xFF03 => s.caseFF03 rx
  | _ => s

end AppState

/-- `TCP_RX_Process`. -/
def tcpRxProcess (linkNum : ℕ) (r : RxState) (s : AppState) :
    RxState × AppState :=
  match tcpRxCheck r with
  | (r, false) => (r, s)
  | (r, true) => (r, s.commandSwitch r.centreCmdID linkNum r.hexRx)

theorem tcpRxProcess_of_accepted {r : RxState}
    (h : (tcpRxCheck r).2 = true) (linkNum : ℕ) (s : AppState) :
    tcpRxProcess linkNum r s =
      ((tcpRxCheck r).1, s.commandSwitch (tcpRxCheck r).1.centreCmdID linkNum
        (tcpRxCheck r).1.hexRx) := by
  rw [tcpRxProcess]
  split
  next heq => simp [heq] at h
  next heq => rw [heq]

theorem received_infolen {body : List UInt8} (hsize : body.length < 1024)
    (cmdId : ℕ) (rest : UInt8) :
    infolen (tcpRxCheck (received (message cmdId body) rest)).1.hexRx =
      body.length := by
  have hhigh : ∀ q < 4, (UInt8.ofNat q &&& 0x03).toNat = q := by decide
  have h3 := received_hexRx (m := message cmdId body) (i := 2) rfl rest
  have h4 := received_hexRx (m := message cmdId body) (i := 3) rfl rest
  rw [infolen, h3, h4, hhigh _ (by omega), UInt8.toNat_ofNat']
  omega

end VehicleRecorder.Protocol
