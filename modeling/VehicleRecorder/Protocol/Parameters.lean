import VehicleRecorder.Protocol.Framing
import VehicleRecorder.Protocol.Services

/-!
# Parameters set by the centre

The services behind the messages `0x8103`, `0x8105`, `0x8701`, `0xFF01` and
`0xFF03`, and the loop that calls a service for every item of a parameter list.
A service gets the number of an item, its length, and the memory from its
content on.
-/

namespace VehicleRecorder.Protocol

open Bytes

namespace AppState

/-! ## Message `0x8103` -/

/-- A parameter whose content is a word of four bytes; others are ignored. -/
def setDword (s : AppState) (infolen : UInt8) (content : ℕ → UInt8)
    (put : ℕ → AppState) : AppState :=
  if infolen ≠ 4 then s else put (be32 content 0)

/-- A member of `JT808Conf_struct` set and the structure saved. -/
def putConf (s : AppState) (conf : JT808Conf) : AppState :=
  { s with conf }.saveJT808

/-- A member of `JT808Conf_struct.DURATION`. -/
def putDuration (s : AppState) (duration : SendDur) : AppState :=
  s.putConf { s.conf with duration }

/-- A member of `JT808Conf_struct.DISTANCE`. -/
def putDistance (s : AppState) (distance : SendDist) : AppState :=
  s.putConf { s.conf with distance }

/-- A member of `TiredConf_struct.TiredDoor`. -/
def putTiredDoor (s : AppState) (tiredDoor : TiredDoor) : AppState :=
  { s with tiredConf.tiredDoor := tiredDoor }.saveTiredConf

/-- `SD_ACKflag.f_CentreCMDack_0001H=v`. -/
def setCentreCmdAck (s : AppState) (v : UInt8) : AppState :=
  { s with sdAckFlag.centreCmdAck0001H := v }

/-- `LISTEN_Num` from the content of an item. -/
def setListenNum (s : AppState) (infolen : UInt8) (content : ℕ → UInt8) :
    AppState :=
  if infolen = 0 then s
  else ((s.memset .listenNum 30).memcpy .listenNum content 0
    infolen.toNat).saveJT808

/-- The content of an item as `reg_in` holds it, with the terminator.  Twenty
bytes fill `reg_in`, and `str2ip` reads on behind it; here they end there. -/
def regIn (infolen : UInt8) (content : ℕ → UInt8) : List UInt8 :=
  readBytes content 0 infolen.toNat ++ List.replicate (20 - infolen.toNat) 0

/-- `CentreSet_subService_8103H`, parameter `0x0010`. -/
def setApn (s : AppState) (infolen : UInt8) (content : ℕ → UInt8) : AppState :=
  if infolen = 0 then s
  else
    let s := (s.memset .apnString 30).memcpy .apnString content 0 infolen.toNat
    let s := (s.memset .apnStr 30).memcpy .apnStr content 0 infolen.toNat
    s.saveSysConf.call (.dataLinkApnSet (s.bytes .apnString))

/-- `CentreSet_subService_8103H`, parameter `0x0013`. -/
def setMainServer (s : AppState) (infolen : UInt8) (content : ℕ → UInt8) :
    AppState :=
  let (n, ip) := str2ip (regIn infolen content)
  let s := { s with link.remoteIpMain := ip }
  if n ≤ 3 then
    let s := (s.memset .domainNameStr 50).memset .dnsr 50
    let s := s.memcpy .domainNameStr content 0 infolen.toNat
    let s := (s.memcpy .dnsr content 0 infolen.toNat).saveSysConf
    (s.call (.dataLinkDnsrSet (s.bytes .dnsr))).setCentreCmdAck 2
  else
    let s := { s with
      sysConf.ipMain := s.link.remoteIpMain
      sysConf.portMain := s.link.remotePortMain }.saveSysConf
    (s.call (.dataLinkMainSocketSet s.link.remoteIpMain
      s.link.remotePortMain)).setCentreCmdAck 2

/-- `CentreSet_subService_8103H`, parameter `0x0017`; an address is neither
stored in `SysConf_struct` nor acknowledged apart. -/
def setAuxServer (s : AppState) (infolen : UInt8) (content : ℕ → UInt8) :
    AppState :=
  let (n, ip) := str2ip (regIn infolen content)
  let s := { s with link.remoteIpAux := ip }
  if n ≤ 3 then
    let s := (s.memset .domainNameStrAux 50).memset .dnsrAux 50
    let s := s.memcpy .domainNameStrAux content 0 infolen.toNat
    let s := (s.memcpy .dnsrAux content 0 infolen.toNat).saveSysConf
    (s.call (.dataLinkDnsr2Set (s.bytes .dnsrAux))).setCentreCmdAck 2
  else
    s.saveSysConf.call
      (.dataLinkAuxSocketSet s.link.remoteIpAux s.link.remotePortAux)

/-- `CentreSet_subService_8103H`.  The numbers that are left out do nothing, and
nothing depends on the result. -/
def centreSetSubService8103H (subId : ℕ) (infolen : UInt8)
    (content : ℕ → UInt8) (s : AppState) : AppState :=
  let duration := s.conf.duration
  let distance := s.conf.distance
  let door := s.tiredConf.tiredDoor
  match subId with
  | 0x0001 => s.setDword infolen content fun v =>
      s.putDuration { duration with heartDur := v }
  | 0x0002 => s.setDword infolen content fun v =>
      s.putDuration { duration with tcpAckDur := v }
  | 0x0003 => s.setDword infolen content fun v =>
      s.putDuration { duration with tcpReSdNum := v }
  | 0x0004 => s.setDword infolen content fun v =>
      s.putDuration { duration with udpAckDur := v }
  | 0x0005 => s.setDword infolen content fun v =>
      s.putDuration { duration with udpReSdNum := v }
  | 0x0010 => s.setApn infolen content
  | 0x0013 => s.setMainServer infolen content
  | 0x0017 => s.setAuxServer infolen content
  | 0x0018 => s.setDword infolen content fun v =>
      let s := { s with link.remotePortMain := v % 65536 }.saveSysConf
      (s.call (.dataLinkMainSocketSet s.link.remoteIpMain
        s.link.remotePortMain)).setCentreCmdAck 2
  | 0x0019 => s.setDword infolen content fun v =>
      { s with link.remotePortAux := v % 65536 }.saveSysConf
  | 0x0022 => s.setDword infolen content fun v =>
      s.putDuration { duration with noDrvLoginDur := v }
  | 0x0027 => s.setDword infolen content fun v =>
      s.putDuration { duration with sleepDur := v }
  | 0x0028 => s.setDword infolen content fun v =>
      s.putDuration { duration with emegenceDur := v }
  | 0x0029 => s.setDword infolen content fun v =>
      s.putDuration { duration with defaultDur := v }
  | 0x002C => s.setDword infolen content fun v =>
      s.putDistance { distance with defalutDistDelta := v }
  | 0x002D => s.setDword infolen content fun v =>
      s.putDistance { distance with noDrvLoginDist := v }
  | 0x002E => s.setDword infolen content fun v =>
      s.putDistance { distance with sleepDist := v }
  | 0x002F => s.setDword infolen content fun v =>
      s.putDistance { distance with emergenDist := v }
  | 0x0030 => s.setDword infolen content fun v =>
      s.putDuration { duration with sdDeltaMaxAngle := v }
  | 0x0031 =>
      -- no `break`: the content goes on into the monitor number
      if infolen ≠ 2 then s
      else
        let s := s.putDuration
          { duration with illgleMovoDisttance := be16 content 0 }
        s.setListenNum infolen content
  | 0x0040 => s.setListenNum infolen content
  | 0x0048 =>
      if infolen = 0 then s
      else { s.setListenNum infolen content with texts.callState := 5 }
  | 0x0055 => s.setDword infolen content fun v =>
      (s.putConf { s.conf with speedWarnMax := v }).spdExpInit
  | 0x0056 => s.setDword infolen content fun v =>
      (s.putConf { s.conf with spdExdLimitSeconds := v }).spdExpInit
  | 0x0057 => s.setDword infolen content fun v =>
      let s := s.putTiredDoor { door with drvKeepingSec := v }
      { s with
        vehicle.warnStatus3 := s.vehicle.warnStatus3 &&& 0xfb }.tiredDriveInit
  | 0x0058 => s.setDword infolen content fun v =>
      let s := s.putTiredDoor { door with dayAccumlateDrvSec := v }
      { s with tiredConf := { s.tiredConf with
          tiredDrive := { s.tiredConf.tiredDrive with
            accOnStateCounter := 0
            accOffStateCounter := 0 } } }.saveJT808
  | 0x0059 => s.setDword infolen content fun v =>
      s.putTiredDoor { door with minSleepSec := v }
  | 0x005A => s.setDword infolen content fun v =>
      let s := s.putTiredDoor { door with maxParkingSec := v }
      { s with
        tiredConf := { s.tiredConf with
          tiredDoor := { s.tiredConf.tiredDoor with parkingCurrentcnt := 0 } }
        vehicle.warnStatus1 := s.vehicle.warnStatus1 &&& 0xf7 }
  | 0x0081 =>
      if infolen ≠ 2 then s
      else s.putConf { s.conf with devProvinceId := be16 content 0 }
  | 0x0082 =>
      -- the city goes into the member of the province
      if infolen ≠ 2 then s
      else s.putConf { s.conf with devProvinceId := be16 content 0 }
  | 0x0083 =>
      if infolen < 4 then s
      else ((s.memset .vechNum 13).memcpy .vechNum content 0
        infolen.toNat).saveJT808
  | 0x0084 =>
      if infolen ≠ 1 then s
      else s.putConf { s.conf with devColor := content 0 }
  | 0xF000 =>
      if infolen ≠ 12 then s
      else s.call (.deviceid (regIn infolen content))
  | _ => s

/-! ## Messages `0x8105` and `0x8701` -/

/-- `CentreSet_subService_8105H`.  Its content is only printed. -/
def centreSetSubService8105H (controlId : UInt8) (s : AppState) : AppState :=
  match controlId with
  | 3 => s.setCentreCmdAck 5
  | 4 => s.setCentreCmdAck 3
  | 6 => s.setCentreCmdAck 5
  | 7 => s.setCentreCmdAck 5
  | _ => s

/-- `CenterSet_subService_8701H`. -/
def centerSetSubService8701H (cmd : UInt8) (instr : ℕ → UInt8)
    (s : AppState) : AppState :=
  match cmd with
  | 0x81 =>
      let s := (s.memset .driverCardId 18).memcpy .driveCode instr 0 3
      (s.memcpy .driverCardId instr 3 18).saveJT808
  | 0x82 =>
      let s := ((s.memset .vechVin 18).memset .vechNum 13).memset .vechType 13
      let s := { s with conf :=
        { s.conf with devProvinceId := 0, devCityId := 0, devColor := 0 } }
      let s := (s.memcpy .vechVin instr 0 17).memcpy .vechNum instr 17 12
      (s.memcpy .vechType instr 29 12).saveJT808
  | 0xC3 =>
      let s := { s with
        conf.vechCharacterValue := (instr 0).toNat * 65536 + be16 instr 1
        conf.dfKAdjustState := 0
        link.moduleStatus := s.link.moduleStatus &&& 0xf7 }
      s.saveJT808
  | _ => s

/-! ## Messages `0xFF01` and `0xFF03` -/

/-- A frame for the second CAN controller. -/
def can2Frame (bs : List UInt8) : List UInt8 :=
  0x7e :: (protocol808Encode bs ++ [0x7e])

/-- `CentreSet_subService_FF01H`. -/
def centreSetSubServiceFF01H (subId : ℕ) (infolen : UInt8)
    (content : ℕ → UInt8) (s : AppState) : AppState :=
  match subId with
  | 0x0001 => s.setDword infolen content fun v =>
      let s := { s with bdExt.bdMode := v }
      match v with
      | 0 => s.call (.gpsMode "2")
      | 1 => s.call (.gpsMode "1")
      | 2 => s.call (.gpsMode "3")
      | _ => s
  | 0x0002 => s.setDword infolen content fun v =>
      { s with bdExt.bdBaud := v }
  | 0x0003 => s.setDword infolen content fun v =>
      let s := { s with bdExt.bdOutputFreq := v }
      match v with
      | 0 => s.call (.gpsWrite "$PCAS02,500*1A\r\n")
      | 1 => s.call (.gpsWrite "$PCAS02,1000*2E\r\n")
      | 2 => s.call (.gpsWrite "$PCAS02,2000*2D\r\n")
      | 3 => s.call (.gpsWrite "$PCAS02,3000*2C\r\n")
      | 4 => s.call (.gpsWrite "$PCAS02,4000*2B\r\n")
      | _ => s
  | 0x0004 => s.setDword infolen content fun v =>
      { s with bdExt.bdSampleFrea := v }
  | 0x0005 => s.setDword infolen content fun v =>
      { s with bdExt.can1Mode := v }.call .canAppInit
  | 0x0006 => s.setDword infolen content fun v =>
      { s with bdExt.can2Mode := v }.call
        (.can2Write (can2Frame (0x33 :: 0x01 :: beBytes4 v)))
  | 0x0007 => s.setDword infolen content fun v =>
      { s with bdExt.collisionCheck := v }.call
        (.mma8451Config (v / 65536) (v % 65536))
  | _ => s

/-- A filter of the first CAN controller, set and saved. -/
def putCan1 (s : AppState) (id : ℕ) (type duration : UInt8) : AppState :=
  { s with
    bdExt.can1Id := id
    bdExt.can1Type := type
    bdExt.can1Duration := duration }.bdExtWrite

/-- A filter of the second CAN controller, set, sent to it, and saved. -/
def putCan2 (s : AppState) (id : ℕ) (type duration : UInt8)
    (sent : List UInt8) : AppState :=
  let s := { s with
    bdExt.can2Id := id
    bdExt.can2Type := type
    bdExt.can2Duration := duration }
  (s.call (.can2Write (can2Frame (0x33 :: 0x02 :: sent)))).bdExtWrite

/-- `CentreSet_subService_FF03H`, parameter `0x0001`: up to eleven bytes of an
item of at least four. -/
def setCanFilter (s : AppState) (infolen : UInt8) (content : ℕ → UInt8) :
    AppState :=
  if infolen < 4 then s
  else
    let type : UInt8 := if content 3 &&& 0x40 ≠ 0 then 1 else 0
    let duration := UInt8.ofNat (be16 content 9)
    if content 3 &&& 0x80 ≠ 0 then
      s.putCan2 (be32 content 4) type duration (readBytes content 3 8)
    else s.putCan1 (be32 content 4) type duration

/-- `CentreSet_subService_FF03H`, parameter `0x0002`. -/
def setItemText (s : AppState) (infolen : UInt8) (content : ℕ → UInt8) :
    AppState :=
  let len : ℤ := infolen.toNat - 2
  let s := (s.memset .textContent 100).storeGb .textContent content 2 len
  let s := { s with
    texts.lcdTxInfolen := (asciiToGb content 2 len).length
    texts.textSdFlag := 1 }
  s.showText content 2 len

/-- `CentreSet_subService_FF03H`. -/
def centreSetSubServiceFF03H (subId : ℕ) (infolen : UInt8)
    (content : ℕ → UInt8) (s : AppState) : AppState :=
  match subId with
  | 0x0001 => s.setCanFilter infolen content
  | 0x0002 => s.setItemText infolen content
  | _ => s

end AppState

/-! ## The loop over a parameter list -/

/-- The service of a loop. -/
def SubService.run : SubService → ℕ → UInt8 → (ℕ → UInt8) → AppState → AppState
  | .sub8103H => AppState.centreSetSubService8103H
  | .subFF01H => AppState.centreSetSubServiceFF01H
  | .subFF03H => AppState.centreSetSubServiceFF03H

/-- The assignment to `SubCMD_8103H`, `SubCMD_FF01H` or `SubCMD_FF03H`. -/
def SubService.note (sub : SubService) (subId : ℕ) (s : AppState) : AppState :=
  match sub with
  | .sub8103H => { s with link.subCmd8103H := subId }
  | .subFF01H => { s with link.subCmdFF01H := subId }
  | .subFF03H => { s with link.subCmdFF03H := subId }

/-- The body of the loop for the item at offset `c`. -/
def serveItem (sub : SubService) (rx : ℕ → UInt8) (c : ℕ) (s : AppState) :
    AppState :=
  let subId := be32 rx c
  let subInfolen := rx (c + 4)
  let content : ℕ → UInt8 := fun i => rx (c + 5 + i)
  let s := sub.note subId s
  let s := { s with serviceCalls := s.serviceCalls ++
    [⟨sub, subId, subInfolen, readBytes content 0 subInfolen.toNat⟩] }
  sub.run subId subInfolen content s

/-- `ContentRdAdd`, a `u8`, behind the item at offset `c`. -/
def nextItem (rx : ℕ → UInt8) (c : ℕ) : ℕ := (c + 5 + (rx (c + 4)).toNat) % 256

/-- The loop of the messages `0x8103`, `0xFF01` and `0xFF03` for `n` more items,
with `ContentRdAdd` at `c`. -/
def parameterLoop (sub : SubService) (rx : ℕ → UInt8) :
    ℕ → ℕ → AppState → AppState
  | 0, _, s => s
  | n + 1, c, s =>
      parameterLoop sub rx n (nextItem rx c) (serveItem sub rx c s)

end VehicleRecorder.Protocol
