import VehicleRecorder.Protocol.TcpRxProcess

/-!
# The state of the terminal

The variables of the application thread that no handler of a downlink message
uses, and those of the modem thread: the flags from which
`Do_SendGPSReport_GPRS` takes what it sends, registration and login, and the
dialling of `Device_gsm.c`.  A terminal is these variables together with the
state of the handlers.

What leaves for the modem is kept in two logs, the messages given to it and the
commands written to its port; no function reads them.
-/

namespace VehicleRecorder.Protocol

/-- What one branch of `Do_SendGPSReport_GPRS` sends, in the order of the
branches. -/
inductive Request
  | login0102
  | media0801
  | register0100
  | deregister0101
  | heart0002
  | sleepConfig
  | position0201
  | event0301
  | ask0302
  | takeAck0805
  | control0500
  | recorder0700
  | msg0303
  | mediaInfo0800
  | dataTrans0900
  | mediaIndex0802
  | driverInfo0702
  | worklist0701
  | commonAck0001
  | setting0104
  | isp92
  | isp96
  | isp94
  | ispHeart
  | current0200
  | normal0200
  deriving DecidableEq, Repr

/-- `DEV_Login`, without the members of `Link`. -/
structure DevLogin where
  enableSd : UInt8 := 0
  sdCounter : UInt8 := 0
  deriving DecidableEq, Repr

/-- `DEV_regist`, without the members of `Link`. -/
structure DevRegist where
  enableSd : UInt8 := 0
  sdCounter : UInt8 := 0
  deRegstSd : UInt8 := 0
  deriving DecidableEq, Repr

/-- The other flags that `Do_SendGPSReport_GPRS` looks at. -/
structure SendFlags where
  /-- `JT808Conf_struct.DURATION.Heart_SDFlag`. -/
  heartSdFlag : UInt8 := 0
  /-- `JT808Conf_struct.DURATION.Heart_SDCnter`. -/
  heartSdCnter : UInt16 := 0
  sleepState : UInt8 := 0
  sleepConfigFlag : UInt8 := 0
  /-- Members of `SD_ACKflag` that no handler sets. -/
  currentEventAck0301H : UInt8 := 0
  centreTakeAck0805H : UInt8 := 0
  msgBroadCast0303H : UInt8 := 0
  driverInfoSd0702H : UInt8 := 0
  worklistSd0701H : UInt8 := 0
  /-- `DataTrans.Data_TxLen`. -/
  dataTxLen : ℕ := 0
  /-- `BD_EXT.Trans_GNSS_Flag`. -/
  transGnssFlag : UInt8 := 0
  dispContent : UInt8 := 1
  dfLock : UInt8 := 0
  sendRdy4ok : UInt8 := 0
  systermResetCounter : ℕ := 0
  deriving DecidableEq, Repr

/-- `T_Dial_Stage`. -/
inductive DialStage
  | dialInit0
  | dialInit1
  | dialInit2
  | dialInit3
  | dialInit4
  | dialInit5
  | dialInit6
  | dnsr1
  | dnsr2
  | dialInit7
  | mainLnk
  | auxLnk
  | isp
  | idle
  deriving DecidableEq, Repr

/-- `DataDial`. -/
structure DataDial where
  dialOn : UInt8 := 0
  startDialStateFlag : UInt8 := 0
  startDialCounter : ℕ := 0
  dialStep : DialStage := .dialInit0
  dialStepRetryTimer : ℕ := 0
  dialStepRetry : UInt8 := 0
  deriving DecidableEq, Repr

/-- `CommAT`. -/
structure CommAt where
  totalInitial : UInt8 := 0
  initialStep : UInt8 := 0
  executeCouter : UInt8 := 0
  executeEnable : UInt8 := 0
  deriving DecidableEq, Repr

/-- `IMSIGet`. -/
structure ImsiGet where
  getState : UInt8 := 0
  imsiErrorCount : UInt8 := 0
  deriving DecidableEq, Repr

/-- A command written to the port of the modem. -/
inductive AtCommand
  | str (s : String)
  /-- `ATD` with the number to call. -/
  | atd (number : List UInt8)
  /-- `Dialinit_APN`. -/
  | apn
  /-- `Dialinit_DNSR`. -/
  | dnsr
  /-- `Dialinit_DNSR2`. -/
  | dnsr2
  /-- `DialStr_Link1`, with the address it holds. -/
  | link1 (ip : List UInt8) (port : ℕ)
  /-- `DialStr_LinkAux`. -/
  | linkAux (ip : List UInt8) (port : ℕ)
  /-- `DialStr_ISP`. -/
  | isp
  /-- `AT_TTS`. -/
  | tts (text : List UInt8)
  deriving DecidableEq, Repr

/-- The variables of the modem thread. -/
structure Modem where
  dial : DataDial := {}
  /-- `GSM_PWR.GSM_powerCounter`. -/
  gsmPowerCounter : ℕ := 0
  commAt : CommAt := {}
  imsiGet : ImsiGet := {}
  dataLinkEndFlag : UInt8 := 0
  dataLinkEndCounter : UInt8 := 0
  dnsrState : UInt8 := 0
  dialJumpState : UInt8 := 0
  onlineErrorCounter : UInt8 := 0
  copsCouter : UInt8 := 0
  moduleSq : UInt8 := 0
  /-- The address in `DialStr_Link1`. -/
  link1 : List UInt8 × ℕ := ([0, 0, 0, 0], 0)
  /-- The address in `DialStr_LinkAux`. -/
  linkAux : List UInt8 × ℕ := ([0, 0, 0, 0], 0)
  tcp2Connect : UInt8 := 0
  tcp2SdFlag : UInt8 := 0
  tcp2Coutner : UInt8 := 0
  tcp2ReadyDial : UInt8 := 0
  readyDialCounter2 : ℕ := 0
  /-- `wdg_reset_flag`: the watchdog is fed no more. -/
  wdgResetFlag : UInt8 := 0
  /-- The commands written to the port. -/
  commands : List AtCommand := []
  deriving DecidableEq, Repr

/-- The variables of the terminal. -/
structure Terminal where
  app : AppState := {}
  login : DevLogin := {}
  regist : DevRegist := {}
  flags : SendFlags := {}
  modem : Modem := {}
  /-- The messages given to the modem thread. -/
  sent : List Request := []

namespace Terminal

/-- `DataLink_Status()`. -/
def dataLinkStatus (t : Terminal) : Bool := t.app.link.dataLinkOnline ≠ 0

/-- `Close_DataLink`. -/
def closeDataLink (t : Terminal) : Terminal :=
  { t with modem.dataLinkEndFlag := 1 }

/-- A command written to the port of the modem. -/
def output (t : Terminal) (c : AtCommand) : Terminal :=
  { t with modem.commands := t.modem.commands ++ [c] }

end Terminal

end VehicleRecorder.Protocol
