import VehicleRecorder.Lib.Bytes
import VehicleRecorder.Dataflash.RecordNum
import Mathlib.Data.Int.Notation
import Mathlib.Logic.Function.Basic

/-!
# The state of the protocol application

The global variables of `protocol_808.c` and `Sys_config.c` that the handlers of
downlink messages read or write, grouped as the source groups them.  A `u8` is a
`UInt8`, a `u16` or `u32` a natural number that the handlers keep within its
type.

The byte arrays are kept apart from the other members: an array is the memory
from its first byte on, so that a copy that is longer than its destination has a
meaning, and every store into an array is noted in a log.
-/

namespace VehicleRecorder.Protocol

open Bytes Dataflash

/-! ## Arrays -/

/-- The arrays the handlers store into. -/
inductive Arr
  | confirmCode
  | listenNum
  | vechVin
  | vechNum
  | vechType
  | driveCode
  | driverCardId
  | apnStr
  | dnsr
  | dnsrAux
  | apnString
  | domainNameStr
  | domainNameStrAux
  | playInfo
  | textContent
  | textStr
  | txtContent
  | hexBuf
  | asciiBuf
  | eventStr
  | askInfo
  | askAnswer
  | infoStr
  | numberStr
  | userStr
  | bookNumberStr
  | bookUserStr
  | cycleStartTime
  | cycleEndTime
  | rectStartTime
  | rectEndTime
  | polygenStartTime
  | polygenEndTime
  | routeStartTime
  | routeEndTime
  | routePoints
  | mediaReSdList
  | dataRx
  deriving DecidableEq, Repr

/-- The number of elements an array is declared with. -/
def Arr.size : Arr → ℕ
  | .confirmCode => 20
  | .listenNum => 30
  | .vechVin => 18
  | .vechNum => 13
  | .vechType => 13
  | .driveCode => 3
  | .driverCardId => 19
  | .apnStr => 40
  | .dnsr => 50
  | .dnsrAux => 50
  | .apnString => 30
  | .domainNameStr => 50
  | .domainNameStrAux => 50
  | .playInfo => 100
  | .textContent => 100
  | .textStr => 150
  | .txtContent => 256
  | .hexBuf => 400
  | .asciiBuf => 800
  | .eventStr => 20
  | .askInfo => 30
  | .askAnswer => 30
  | .infoStr => 30
  | .numberStr => 20
  | .userStr => 10
  | .bookNumberStr => 20
  | .bookUserStr => 10
  | .cycleStartTime => 6
  | .cycleEndTime => 6
  | .rectStartTime => 6
  | .rectEndTime => 6
  | .polygenStartTime => 6
  | .polygenEndTime => 6
  | .routeStartTime => 6
  | .routeEndTime => 6
  | .routePoints => 3
  | .mediaReSdList => 10
  | .dataRx => 10

/-- A store of `len` elements from index `start` of an array on.  The length is
that of the call, before its conversion to `size_t`. -/
structure Store where
  dest : Arr
  start : ℕ
  len : ℤ
  deriving DecidableEq, Repr

/-- The store stays inside its array. -/
def Store.Fits (st : Store) : Prop :=
  0 ≤ st.len ∧ st.start + st.len ≤ st.dest.size

instance (st : Store) : Decidable st.Fits := by
  unfold Store.Fits
  infer_instance

/-- The conversion of an `int` to `size_t`. -/
def sizeT (n : ℤ) : ℕ := (n % 4294967296).toNat

/-! ## Configuration -/

/-- `SEND_DUR`. -/
structure SendDur where
  heartDur : ℕ := 0
  tcpAckDur : ℕ := 0
  tcpAckDurCnter : ℕ := 0
  tcpSdState : UInt8 := 0
  tcpReSdNum : ℕ := 0
  udpAckDur : ℕ := 0
  udpReSdNum : ℕ := 0
  noDrvLoginDur : ℕ := 0
  sleepDur : ℕ := 0
  emegenceDur : ℕ := 0
  defaultDur : ℕ := 0
  sdDeltaMaxAngle : ℕ := 0
  illgleMovoDisttance : ℕ := 0
  deriving DecidableEq, Repr

/-- `SEND_DIST`. -/
structure SendDist where
  defalutDistDelta : ℕ := 0
  noDrvLoginDist : ℕ := 0
  sleepDist : ℕ := 0
  emergenDist : ℕ := 0
  deriving DecidableEq, Repr

/-- `REALTIME_LOCK`. -/
structure RealtimeLock where
  lockState : UInt8 := 0
  lockDur : ℕ := 0
  lockKeepDur : ℕ := 0
  lockKeepCnter : ℕ := 0
  deriving DecidableEq, Repr

/-- `JT808Conf_struct`, its arrays apart. -/
structure JT808Conf where
  distance : SendDist := {}
  duration : SendDur := {}
  durTotalMode : UInt8 := 0
  durDefaultMode : UInt8 := 0
  regsiterStatus : UInt8 := 0
  vechCharacterValue : ℕ := 0
  speedWarnMax : ℕ := 0
  spdExdLimitSeconds : ℕ := 0
  dfKAdjustState : UInt8 := 0
  rtLock : RealtimeLock := {}
  devProvinceId : ℕ := 0
  devCityId : ℕ := 0
  devColor : UInt8 := 0
  deriving DecidableEq, Repr

/-- The arrays of `JT808Conf_struct`. -/
def JT808Conf.arrays : List Arr :=
  [.confirmCode, .listenNum, .driveCode, .driverCardId, .vechVin, .vechNum,
    .vechType]

/-- `SysConf_struct`, its arrays apart. -/
structure SysConf where
  ipMain : List UInt8 := [0, 0, 0, 0]
  portMain : ℕ := 0
  ipAux : List UInt8 := [0, 0, 0, 0]
  portAux : ℕ := 0
  deriving DecidableEq, Repr

/-- The arrays of `SysConf_struct`. -/
def SysConf.arrays : List Arr := [.apnStr, .dnsr, .dnsrAux]

/-- `TID_DRV`. -/
structure TiredDrive where
  accOnStateCounter : ℕ := 0
  accOffStateCounter : ℕ := 0
  tireddrvStatus : UInt8 := 0
  tgvoicePlay : UInt8 := 0
  voicePlyTimer : UInt8 := 0
  voicePlyCounter : UInt8 := 0
  startTime : List UInt8 := List.replicate 6 0
  endTime : List UInt8 := List.replicate 6 0
  flag : UInt8 := 0
  statusTiredwhRst : UInt8 := 0
  deriving DecidableEq, Repr

/-- `TIRED_DOOR`. -/
structure TiredDoor where
  drvKeepingSec : ℕ := 0
  dayAccumlateDrvSec : ℕ := 0
  minSleepSec : ℕ := 0
  maxParkingSec : ℕ := 0
  parkingCurrentcnt : ℕ := 0
  deriving DecidableEq, Repr

/-- `TiredConf_struct`. -/
structure TiredConf where
  tiredDrive : TiredDrive := {}
  tiredDoor : TiredDoor := {}
  deriving DecidableEq, Repr

/-- `BD_EXTEND`: what the messages `0xFF01` and `0xFF03` set. -/
structure BdExtend where
  bdMode : ℕ := 0
  bdBaud : ℕ := 0
  bdOutputFreq : ℕ := 0
  bdSampleFrea : ℕ := 0
  can1Mode : ℕ := 0
  can1Id : ℕ := 0
  can1Type : UInt8 := 0
  can1Duration : UInt8 := 0
  can2Mode : ℕ := 0
  can2Id : ℕ := 0
  can2Type : UInt8 := 0
  can2Duration : UInt8 := 0
  collisionCheck : ℕ := 0
  deriving DecidableEq, Repr

/-- The configuration records in flash. -/
structure SavedConf where
  jt808 : JT808Conf := {}
  jt808Arrays : List (List UInt8) := []
  sys : SysConf := {}
  sysArrays : List (List UInt8) := []
  tired : TiredConf := {}
  bdExt : BdExtend := {}
  deriving DecidableEq, Repr

/-! ## Numbered records -/

/-- `EVENT`, without `Event_Str`. -/
structure Event where
  eventId : UInt8 := 0
  eventLen : UInt8 := 0
  eventEffective : UInt8 := 0
  deriving DecidableEq, Repr

/-- `CENTRE_ASK`, without `ASK_info` and `ASK_answer`. -/
structure CentreAsk where
  askSdFlag : UInt8 := 0
  askFloatId : ℕ := 0
  askInfolen : UInt8 := 0
  askAnswerId : UInt8 := 0
  askDispEnable : UInt8 := 0
  deriving DecidableEq, Repr

/-- `MSG_BRODCAST`, without `INFO_STR`. -/
structure MsgBroadcast where
  infoType : UInt8 := 0
  infoLen : ℕ := 0
  infoPlyCancel : UInt8 := 0
  infoSdFlag : UInt8 := 0
  infoEffective : UInt8 := 0
  deriving DecidableEq, Repr

/-- `MSG_TEXT`, without `TEXT_STR`. -/
structure MsgText where
  textMOld : UInt8 := 0
  textType : UInt8 := 0
  textLen : UInt8 := 0
  deriving DecidableEq, Repr

/-- `PHONE_BOOK`, without `NumberStr` and `UserStr`. -/
structure PhoneBook where
  callType : UInt8 := 0
  numLen : UInt8 := 0
  userLen : UInt8 := 0
  effectiveFlag : UInt8 := 0
  deriving DecidableEq, Repr

/-- `CIRCLE_RAIL`, without its times. -/
structure CircleRail where
  areaId : ℕ := 0
  areaAttribute : ℕ := 0
  centerLatitude : ℕ := 0
  centerLongitude : ℕ := 0
  radius : ℕ := 0
  maxSpd : ℕ := 0
  keepDur : UInt8 := 0
  railNum : UInt8 := 0
  effectiveFlag : UInt8 := 0
  deriving DecidableEq, Repr

/-- `RECT_RAIL`, without its times. -/
structure RectRail where
  areaId : ℕ := 0
  areaAttribute : ℕ := 0
  leftUpLatitude : ℕ := 0
  leftUpLongitude : ℕ := 0
  rightDownLatitude : ℕ := 0
  rightDownLongitude : ℕ := 0
  maxSpd : ℕ := 0
  keepDur : UInt8 := 0
  railNum : UInt8 := 0
  effectiveFlag : UInt8 := 0
  deriving DecidableEq, Repr

/-- `POLYGEN_RAIL`, without its times. -/
structure PolygenRail where
  areaId : ℕ := 0
  areaAttribute : ℕ := 0
  maxSpd : ℕ := 0
  keepDur : UInt8 := 0
  acmeNum : ℕ := 0
  acme1Latitude : ℕ := 0
  acme1Longitude : ℕ := 0
  acme2Latitude : ℕ := 0
  acme2Longitude : ℕ := 0
  acme3Latitude : ℕ := 0
  acme3Longitude : ℕ := 0
  railNum : UInt8 := 0
  effectiveFlag : UInt8 := 0
  deriving DecidableEq, Repr

/-- `POINT`. -/
structure RoutePoint where
  pointId : ℕ := 0
  lineId : ℕ := 0
  pointLatitude : ℕ := 0
  pointLongitude : ℕ := 0
  width : UInt8 := 0
  atribute : UInt8 := 0
  tooLongValue : ℕ := 0
  tooLessValue : ℕ := 0
  maxSpd : ℕ := 0
  keepDur : UInt8 := 0
  deriving DecidableEq, Repr

/-- `ROUTE`, without its times. -/
structure Route where
  routeId : ℕ := 0
  routeAttribute : ℕ := 0
  pointsNum : ℕ := 0
  effectiveFlag : UInt8 := 0
  /-- The memory from `RoutePoints` on. -/
  routePoints : ℕ → RoutePoint := fun _ => {}

/-! ## Other variables -/

/-- `SD_ACKflag`. -/
structure SdAckFlag where
  centreCmdAck0001H : UInt8 := 0
  centreCmdAckResualt : UInt8 := 0
  currentPosition0201H : UInt8 := 0
  mediaIndexAck0802H : UInt8 := 0
  queryEventCode : UInt8 := 0
  settingPram0104H : UInt8 := 0
  bdExtend7F02H : UInt8 := 0
  deriving DecidableEq, Repr

/-- `TTS_Var`, without its buffers. -/
structure Tts where
  hexLen : ℕ := 0
  save : UInt8 := 0
  asciiLen : ℕ := 0
  needtoPlay : UInt8 := 0
  playing : UInt8 := 0
  timeOutLimt : ℕ := 0
  timeCounter : ℕ := 0
  deriving DecidableEq, Repr

/-- `MediaObj`, without `Media_ReSdList`. -/
structure Multimedia where
  mediaType : UInt8 := 0
  mediaCodeType : UInt8 := 0
  sdEventstate : UInt8 := 0
  sdMediaFlag : UInt8 := 0
  sdDataFlag : UInt8 := 0
  sdTimer : UInt8 := 0
  maxSdCounter : UInt8 := 0
  mediaTransmittingFlag : UInt8 := 0
  rsdState : UInt8 := 0
  rsdTimer : UInt8 := 0
  rsdReader : UInt8 := 0
  rsdTotal : UInt8 := 0
  deriving DecidableEq, Repr

/-- `_Media_SD_state`. -/
structure MediaSdState where
  sdFlag : UInt8 := 0
  photoSending : UInt8 := 0
  sdPacketNum : ℕ := 0
  totalPacketNum : ℕ := 0
  exeptionTimer : ℕ := 0
  deriving DecidableEq, Repr

/-- `VocREC`. -/
structure VocRec where
  sate : UInt8 := 0
  excuteFlag : UInt8 := 0
  running : UInt8 := 0
  currenPageCnt : ℕ := 0
  halfPage : UInt8 := 0
  jt808Duration : ℕ := 0
  jt808SaveOrNot : UInt8 := 0
  deriving DecidableEq, Repr

/-- The variables of the remote update. -/
structure Isp where
  ack : UInt8 := 0
  totalPacknum : ℕ := 0
  currentPacknum : ℕ := 0
  ackResualt : UInt8 := 0
  rxCmd : UInt8 := 0
  ack88 : UInt8 := 0
  ack23 : UInt8 := 0
  runningState : UInt8 := 0
  runningCounter : ℕ := 0
  repeatCounter : UInt8 := 0
  deriving DecidableEq, Repr

/-- What the handlers ask of the other parts of the program. -/
inductive Call
  | gpsMode (mode : String)
  | gpsWrite (sentence : String)
  | canAppInit
  | can2Write (frame : List UInt8)
  | mma8451Config (high low : ℕ)
  | startCamera (cameraNum : UInt8)
  | dataLinkApnSet (apn : List UInt8)
  | dataLinkDnsrSet (name : List UInt8)
  | dataLinkDnsr2Set (name : List UInt8)
  | dataLinkMainSocketSet (ip : List UInt8) (port : ℕ)
  | dataLinkAuxSocketSet (ip : List UInt8) (port : ℕ)
  | deviceid (str : List UInt8)
  deriving DecidableEq, Repr

/-- The services called from the loops over parameter lists:
`CentreSet_subService_8103H`, `_FF01H` and `_FF03H`. -/
inductive SubService
  | sub8103H
  | subFF01H
  | subFF03H
  deriving DecidableEq, Repr

/-- A call from the loop over a parameter list. -/
structure ServiceCall where
  service : SubService
  subId : ℕ
  infolen : UInt8
  content : List UInt8
  deriving DecidableEq, Repr

/-- The link and its registration. -/
structure Link where
  devRegistSdAdd : UInt8 := 0
  devLoginOperateEnable : UInt8 := 0
  devLoginSdAdd : UInt8 := 0
  dataLinkOnline : UInt8 := 0
  moduleStatus : UInt8 := 0
  remoteIpMain : List UInt8 := [0, 0, 0, 0]
  remotePortMain : ℕ := 0
  remoteIpAux : List UInt8 := [0, 0, 0, 0]
  remotePortAux : ℕ := 0
  currentSdDuration : ℕ := 0
  subCmd8103H : ℕ := 0
  subCmdFF01H : ℕ := 0
  subCmdFF03H : ℕ := 0
  gsmPowerOver : UInt8 := 0
  deriving DecidableEq, Repr

/-- Alarms, the state of the vehicle, and `speed_Exd`. -/
structure Vehicle where
  warnStatus0 : UInt8 := 0
  warnStatus1 : UInt8 := 0
  warnStatus3 : UInt8 := 0
  exigentWarning : UInt8 := 0
  warnFlag : UInt8 := 0
  sendWarnTimes : UInt8 := 0
  inOutType : UInt8 := 0
  inOutId : ℕ := 0
  inOutState : UInt8 := 0
  carStatus2 : UInt8 := 0
  controlFlag : UInt8 := 0
  controlAckSdFlag : UInt8 := 0
  speedExdMaxSpd : ℕ := 0
  speedExdDurSeconds : ℕ := 0
  speedExdStatus : UInt8 := 0
  speedExdStartTime : List UInt8 := List.replicate 6 0
  speedExdFlag : UInt8 := 0
  deriving DecidableEq, Repr

/-- Texts, voice, the display and the telephone. -/
structure Texts where
  textFlag : UInt8 := 0
  textSdFlag : UInt8 := 0
  textInforCounter : UInt8 := 0
  textObj : MsgText := {}
  voiceCmdType : UInt8 := 0
  voiceInfoSdFlag : UInt8 := 0
  tts : Tts := {}
  lcdType : UInt8 := 0
  lcdTxtContentLen : ℕ := 0
  lcdTxInfolen : ℕ := 0
  speakOn : Bool := false
  callState : UInt8 := 0
  dataTransType : UInt8 := 0
  dataTransRxLen : UInt8 := 0
  deriving DecidableEq, Repr

/-- The numbered records the handlers work on. -/
structure Records where
  eventObj : Event := {}
  askCentre : CentreAsk := {}
  msgBroadCastObj : MsgBroadcast := {}
  rxPhoneBook : PhoneBook := {}
  phoneBook : PhoneBook := {}
  railCycle : CircleRail := {}
  railRectangle : RectRail := {}
  railPolygen : PolygenRail := {}
  routeObj : Route := {}

/-- The recorder, the cameras and the media transfer. -/
structure Media where
  recodeFloatId : ℕ := 0
  recodeCmd : UInt8 := 0
  recodeSdDataFlag : UInt8 := 0
  cameraChannelId : UInt8 := 0
  cameraOperateState : UInt8 := 0
  cameraStatus : UInt8 := 0
  multiTaking : UInt8 := 0
  multiTransfering : UInt8 := 0
  cameraNumber : UInt8 := 1
  singleCameraTakeRetry : UInt8 := 0
  mediaObj : Multimedia := {}
  photoSdState : MediaSdState := {}
  soundSdState : MediaSdState := {}
  videoSdState : MediaSdState := {}
  mp3Sendstate : UInt8 := 0
  mp3Fsize : ℕ := 0
  wmvSendstate : UInt8 := 0
  vocRec : VocRec := {}
  deriving DecidableEq, Repr

/-- The variables of the application. -/
structure AppState where
  /-- The arrays. -/
  mem : Arr → ℕ → UInt8 := fun _ _ => 0
  conf : JT808Conf := {}
  sysConf : SysConf := {}
  tiredConf : TiredConf := {}
  bdExt : BdExtend := {}
  saved : SavedConf := {}
  /-- The flash with the numbered records. -/
  device : Device := .initial
  sdAckFlag : SdAckFlag := {}
  link : Link := {}
  vehicle : Vehicle := {}
  texts : Texts := {}
  records : Records := {}
  media : Media := {}
  isp : Isp := {}
  /-- `time_now` as `Time2BCD` stores it. -/
  timeNow : ℕ → UInt8 := fun _ => 0
  /-- What the handlers asked of the other parts of the program. -/
  calls : List Call := []
  /-- The stores into the arrays. -/
  stores : List Store := []
  /-- The calls from the loops over parameter lists. -/
  serviceCalls : List ServiceCall := []

namespace AppState

/-! ## Stores -/

/-- A string stored into an array by a call of the given length. -/
def store (s : AppState) (d : Arr) (xs : List UInt8) (len : ℤ) : AppState :=
  { s with
    mem := Function.update s.mem d (overlay (s.mem d) xs)
    stores := s.stores ++ [⟨d, 0, len⟩] }

/-- `memset(d, 0, len)`. -/
def memset (s : AppState) (d : Arr) (len : ℕ) : AppState :=
  s.store d (List.replicate len 0) len

/-- `memcpy(d, src, len)` with the source at offset `src` of a memory. -/
def memcpy (s : AppState) (d : Arr) (f : ℕ → UInt8) (src : ℕ) (len : ℤ) :
    AppState :=
  s.store d (readBytes f src (sizeT len)) len

/-- The content of an array within its size. -/
def bytes (s : AppState) (d : Arr) : List UInt8 := readBytes (s.mem d) 0 d.size

theorem bytes_length (s : AppState) (d : Arr) :
    (s.bytes d).length = d.size := readBytes_length _ _ _

/-! ## Flash -/

/-- `Api_Config_Recwrite_Large(jt808,0,&JT808Conf_struct,...)`. -/
def saveJT808 (s : AppState) : AppState :=
  { s with
    saved.jt808 := s.conf
    saved.jt808Arrays := JT808Conf.arrays.map s.bytes }

/-- `Api_Config_write(config,ID_CONF_SYS,&SysConf_struct,...)`. -/
def saveSysConf (s : AppState) : AppState :=
  { s with
    saved.sys := s.sysConf
    saved.sysArrays := SysConf.arrays.map s.bytes }

/-- `Api_Config_write(tired_config,0,&TiredConf_struct,...)`. -/
def saveTiredConf (s : AppState) : AppState :=
  { s with saved.tired := s.tiredConf }

/-- `BD_EXT_Write`. -/
def bdExtWrite (s : AppState) : AppState :=
  { s with saved.bdExt := s.bdExt }

/-- `Api_RecordNum_Write` of a record given by its bytes. -/
def recordNumWrite (s : AppState) (name : RecordName) (recNum : ℕ)
    (record : List UInt8) : AppState :=
  { s with device := apiRecordNumWrite s.device name recNum record }

/-- A request to another part of the program. -/
def call (s : AppState) (c : Call) : AppState :=
  { s with calls := s.calls ++ [c] }

/-- `SD_ACKflag.f_CentreCMDack_0001H=1` with the result `0`. -/
def ack (s : AppState) : AppState :=
  { s with
    sdAckFlag.centreCmdAck0001H := 1
    sdAckFlag.centreCmdAckResualt := 0 }

/-! ## Records as they lie in memory -/

/-- `EventObj`. -/
def eventBytes (s : AppState) : List UInt8 :=
  let o := s.records.eventObj
  [o.eventId, o.eventLen, o.eventEffective] ++ s.bytes .eventStr

/-- `ASK_Centre`. -/
def askBytes (s : AppState) : List UInt8 :=
  let o := s.records.askCentre
  [o.askSdFlag, 0] ++ leBytes 2 o.askFloatId ++
    [o.askInfolen, o.askAnswerId] ++ s.bytes .askInfo ++
    s.bytes .askAnswer ++ [o.askDispEnable, 0]

/-- `MSG_BroadCast_Obj`. -/
def msgBroadCastBytes (s : AppState) : List UInt8 :=
  let o := s.records.msgBroadCastObj
  [o.infoType, 0] ++ leBytes 2 o.infoLen ++
    [o.infoPlyCancel, o.infoSdFlag, o.infoEffective] ++ s.bytes .infoStr ++ [0]

/-- `TEXT_Obj`. -/
def textBytes (s : AppState) : List UInt8 :=
  let o := s.texts.textObj
  [o.textMOld, o.textType, o.textLen] ++ s.bytes .textStr

/-- A phone book entry with its number and its name. -/
def phoneBookBytes (o : PhoneBook) (number user : List UInt8) : List UInt8 :=
  [o.callType, o.numLen, o.userLen, o.effectiveFlag] ++ number ++ user

/-- `Rail_Cycle`. -/
def railCycleBytes (s : AppState) : List UInt8 :=
  let o := s.records.railCycle
  leBytes 4 o.areaId ++ leBytes 2 o.areaAttribute ++ [0, 0] ++
    leBytes 4 o.centerLatitude ++ leBytes 4 o.centerLongitude ++
    leBytes 4 o.radius ++ leBytes 2 o.maxSpd ++
    [o.keepDur, o.railNum, o.effectiveFlag] ++ s.bytes .cycleStartTime ++
    s.bytes .cycleEndTime ++ [0, 0, 0]

/-- `Rail_Rectangle`. -/
def railRectangleBytes (s : AppState) : List UInt8 :=
  let o := s.records.railRectangle
  leBytes 4 o.areaId ++ leBytes 2 o.areaAttribute ++ [0, 0] ++
    leBytes 4 o.leftUpLatitude ++ leBytes 4 o.leftUpLongitude ++
    leBytes 4 o.rightDownLatitude ++ leBytes 4 o.rightDownLongitude ++
    leBytes 2 o.maxSpd ++ [o.keepDur, o.railNum, o.effectiveFlag] ++
    s.bytes .rectStartTime ++ s.bytes .rectEndTime ++ [0, 0, 0]

/-- `Rail_Polygen`. -/
def railPolygenBytes (s : AppState) : List UInt8 :=
  let o := s.records.railPolygen
  leBytes 4 o.areaId ++ leBytes 2 o.areaAttribute ++ leBytes 2 o.maxSpd ++
    [o.keepDur, 0] ++ leBytes 2 o.acmeNum ++ leBytes 4 o.acme1Latitude ++
    leBytes 4 o.acme1Longitude ++ leBytes 4 o.acme2Latitude ++
    leBytes 4 o.acme2Longitude ++ leBytes 4 o.acme3Latitude ++
    leBytes 4 o.acme3Longitude ++ [o.railNum, o.effectiveFlag] ++
    s.bytes .polygenStartTime ++ s.bytes .polygenEndTime ++ [0, 0]

/-- A turning point of a route. -/
def routePointBytes (p : RoutePoint) : List UInt8 :=
  leBytes 4 p.pointId ++ leBytes 4 p.lineId ++ leBytes 4 p.pointLatitude ++
    leBytes 4 p.pointLongitude ++ [p.width, p.atribute] ++
    leBytes 2 p.tooLongValue ++ leBytes 2 p.tooLessValue ++
    leBytes 2 p.maxSpd ++ [p.keepDur, 0, 0, 0]

/-- `ROUTE_Obj`: the three points of the declaration. -/
def routeBytes (s : AppState) : List UInt8 :=
  let o := s.records.routeObj
  leBytes 4 o.routeId ++ leBytes 2 o.routeAttribute ++ leBytes 2 o.pointsNum ++
    [o.effectiveFlag] ++ s.bytes .routeStartTime ++ s.bytes .routeEndTime ++
    [0, 0, 0] ++
    (List.range 3).flatMap fun i => routePointBytes (o.routePoints i)

/-! `Api_RecordNum_Write` of the records, under the numbers they carry. -/

/-- `EventObj`, under `Event_ID`. -/
def writeEvent (s : AppState) : AppState :=
  s.recordNumWrite .event808 s.records.eventObj.eventId.toNat s.eventBytes

/-- `MSG_BroadCast_Obj`, under `INFO_TYPE`. -/
def writeMsgBroadCast (s : AppState) : AppState :=
  s.recordNumWrite .msgBroadcast s.records.msgBroadCastObj.infoType.toNat
    s.msgBroadCastBytes

/-- `Rail_Cycle`, under `Area_ID`. -/
def writeRailCycle (s : AppState) : AppState :=
  s.recordNumWrite .railCycle s.records.railCycle.areaId s.railCycleBytes

/-- `Rail_Rectangle`, under `Area_ID`. -/
def writeRailRectangle (s : AppState) : AppState :=
  s.recordNumWrite .railRect s.records.railRectangle.areaId
    s.railRectangleBytes

/-- `Rail_Polygen`, under `Area_ID`. -/
def writeRailPolygen (s : AppState) : AppState :=
  s.recordNumWrite .railPolygen s.records.railPolygen.areaId s.railPolygenBytes

/-- `ROUTE_Obj`, under `Route_ID`. -/
def writeRoute (s : AppState) : AppState :=
  s.recordNumWrite .routeLine s.records.routeObj.routeId s.routeBytes

end AppState

end VehicleRecorder.Protocol
