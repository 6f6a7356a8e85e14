import VehicleRecorder.Dataflash.CycleStore
import VehicleRecorder.Gps.Sentences
import VehicleRecorder.Gsm.DialProcess

/-!
# The lines of the modem

`GSM_Process` compares a line of the modem with the answers it knows, in several
chains of comparisons one after the other, and then moves the dial on by what
the line was: `OK`, an error, a failure or `CONNECT`.

`rx` is what `GSM_rx` holds.  The buffer is not always cleared behind a line, so
that the rest of an older one may follow; the comparisons are those of C strings.
The lines of voice recordings and of received data end the function early; what
is done with their content is the subject of other modules.
-/

namespace VehicleRecorder.Protocol

open Dataflash Gps

/-- `strncmp(GSM_rx,text,n)==0`. -/
def lineIs (rx : List UInt8) (text : String) (n : ℕ) : Bool :=
  (Protocol.cString rx).take n = (ascii text).take n

/-- `strcmp(GSM_rx,text)==0`. -/
def lineEq (rx : List UInt8) (text : String) : Bool :=
  Protocol.cString rx = ascii text

/-- What a line says to the dial. -/
structure LineResult where
  ok : Bool := false
  error : Bool := false
  failed : Bool := false
  connect : Bool := false
  deriving DecidableEq, Repr

namespace Terminal

/-! ## Single answers -/

/-- `AT-Command Interpreter ready`: the modem has started again. -/
def lineModemStart (t : Terminal) (rx : List UInt8) : Terminal :=
  if lineIs rx "AT-Command Interpreter ready" 20 then
    { t with modem.gsmPowerCounter := 0, app.link.gsmPowerOver := 1 }
  else t

/-- `%IPSENDX:1`, and the lines by which the modem says that a link is closed. -/
def lineLink (t : Terminal) (rx : List UInt8) : Terminal :=
  if lineIs rx "%IPSENDX:1" 10 then
    if t.flags.sendRdy4ok = 1 then
      { t with
        app.device := apiCycleUpdate t.app.device
        flags.sendRdy4ok := 0 }
    else t
  else if lineIs rx "%IPCLOSE: 2" 11 then t
  else if lineIs rx "IPCLOSE" 5 then
    { t with
      app.link.dataLinkOnline := 0
      app.link.moduleStatus := t.app.link.moduleStatus &&& 0xfd }
  else if lineIs rx "%IPCLOSE:" 9 then
    let t := { t with
      app.link.dataLinkOnline := 0
      app.link.moduleStatus := t.app.link.moduleStatus &&& 0xfd }
    if t.app.texts.callState = 0 then
      { t.output (.str "ATH\r\n") with
        modem.dataLinkEndFlag := 1
        app.link.devLoginOperateEnable := 1 }
    else t
  else t

/-- The name of the operator in an answer to `AT+COPS?` sets the access point. -/
def setOperatorApn (t : Terminal) (apn : String) : Terminal :=
  let xs := ascii apn
  let app := t.app.store .apnString xs xs.length
  let apnString := Protocol.cString (app.bytes .apnString)
  { t with app :=
      ((app.memset .apnStr 40).store .apnStr apnString
        apnString.length).saveSysConf }

/-- `+COPS: 0`: the operator, or no network. -/
def lineCops (t : Terminal) (rx : List UInt8) : Terminal :=
  if lineIs rx "+COPS: 0,0," 11 then
    let t :=
      if lineIs (rx.drop 12) "CHINA UNICOM" 12 then t.setOperatorApn "UNINET"
      else if lineIs (rx.drop 12) "CHINA MOBILE" 12 then
        t.setOperatorApn "CMNET"
      else t
    { t with modem.commAt.initialStep := t.modem.commAt.initialStep + 1 }
  else
    let counter := t.modem.copsCouter + 1
    if counter ≥ 3 then
      { t with
        modem.copsCouter := 0
        modem.commAt.initialStep := t.modem.commAt.initialStep + 1 }
    else { t with modem.copsCouter := counter }

/-- `+CSQ:`: the strength of the signal, which must be good enough to go on with
the configuration. -/
def lineCsq (t : Terminal) (rx : List UInt8) : Terminal :=
  let digit (i : ℕ) : UInt8 := rx.getD i 0 - 0x30
  let sq :=
    if rx.getD 7 0 = 0x2c then digit 6
    else if rx.getD 8 0 = 0x2c then
      let sq := digit 6 * 10 + digit 7
      if sq = 99 then 0 else sq
    else t.modem.moduleSq
  let t := { t with modem.moduleSq := sq }
  if t.modem.commAt.totalInitial = 1 ∧ sq > 10 then
    { t with modem.commAt.initialStep := t.modem.commAt.initialStep + 1 }
  else t

/-- `%TSIM`: whether there is a card. -/
def lineTsim (t : Terminal) (rx : List UInt8) : Terminal :=
  if rx.getD 6 0 = 0x30 then
    let counter := t.modem.imsiGet.imsiErrorCount + 1
    if counter > 10 then
      { t with
        modem.imsiGet := { getState := 0, imsiErrorCount := 0 }
        app.link.gsmPowerOver := 0 }
    else { t with modem.imsiGet.imsiErrorCount := counter }
  else if rx.getD 6 0 = 0x31 then { t with modem.imsiGet.getState := 1 }
  else t

/-- `460`: the number of the card; the configuration starts.  The number itself
is not kept. -/
def lineImsi (t : Terminal) : Terminal :=
  { t with
    modem.commAt.totalInitial := 1
    modem.imsiGet := { getState := 0, imsiErrorCount := 0 }
    app.link.gsmPowerOver := 2 }

/-- One more error with the link: the fourth one in a row ends it. -/
def countOnlineError (t : Terminal) : Terminal :=
  let counter := t.modem.onlineErrorCounter + 1
  if counter > 3 then
    { t.closeDataLink with modem.onlineErrorCounter := 0 }
  else { t with modem.onlineErrorCounter := counter }

/-- Errors by which a link cannot be opened.  `true` says that the line is dealt
with. -/
def lineOpenError (t : Terminal) : Terminal × Bool :=
  if t.modem.dialJumpState = 7 then
    ({ (t.output (.str "AT%IPCLOSE=1\r\n")).dialStage .dnsr1 with
      modem.dnsrState := 0 }, true)
  else if t.modem.dialJumpState = 8 then
    ({ (t.output (.str "AT%IPCLOSE=1\r\n")).dialStage .mainLnk with
      modem.dialJumpState := 0
      modem.dnsrState := 0 }, true)
  else if t.modem.dial.dialStep = .mainLnk then
    ((t.dialStage .auxLnk).auxSocketSet, true)
  else (t.countOnlineError, false)

/-- `ERROR`. -/
def lineError (t : Terminal) : Terminal :=
  let t := { t with app.texts.callState := 0 }
  if t.app.texts.tts.playing ≠ 0 then t.ttsAckErrorProcess
  else if t.dataLinkStatus then t.countOnlineError
  else t

/-! ## The chains of comparisons -/

/-- The chain from `%DNSR:` to `NO ANSWER`; `none` is the early return for a name
that has been resolved. -/
def lineOk (t : Terminal) (rx : List UInt8) (r : LineResult) :
    Terminal × Option LineResult :=
  if lineIs rx "%DNSR:" 6 then
    if lineIs rx "%DNSR:0.0.0.0" 13 then
      ({ t with
        modem.dialJumpState :=
          if t.modem.dialJumpState = 7 ∨ t.modem.dialJumpState = 8 then 0
          else t.modem.dialJumpState
        modem.dnsrState := 0 }, some r)
    else
      ({ t with modem.link1 :=
          ((str2ip (rx.drop 6)).2, t.app.link.remotePortMain) }.dialStage
        .mainLnk, none)
  else if lineIs rx "+COPS: 0" 8 then (t.lineCops rx, some r)
  else if lineIs rx "OK" 2 then
    (if t.dataLinkStatus then { t with modem.onlineErrorCounter := 0 } else t,
      some { r with ok := true })
  else if lineEq rx "NO DIALTONE" ∨ lineEq rx "NO ANSWER" then
    (t, some { r with failed := true })
  else (t, some r)

/-- `NO CARRIER` and the chain from `BUSY` to `+CSQ:`. -/
def lineCall (t : Terminal) (rx : List UInt8) (r : LineResult) :
    Terminal × LineResult :=
  let (t, r) :=
    if lineIs rx "NO CARRIER" 10 then
      ({ t with app.texts.callState := 0, app.texts.speakOn := false },
        { r with failed := true })
    else (t, r)
  if lineEq rx "BUSY" then
    ({ t with app.texts.callState := 0 }, { r with failed := true })
  else if lineIs rx "+CSQ:" 5 then (t.lineCsq rx, r)
  else (t, r)

/-- The chain from `%TSIM` to `CONNECT`. -/
def lineCard (t : Terminal) (rx : List UInt8) (r : LineResult) :
    Terminal × LineResult :=
  if lineIs rx "%TSIM" 5 then (t.lineTsim rx, r)
  else if lineIs rx "460" 3 then (t.lineImsi, r)
  else if lineIs rx "RING" 4 then (t, r)
  else if lineIs rx "CONNECT" 7 then (t, { r with connect := true })
  else (t, r)

/-- The errors; `none` is the early return. -/
def lineErrors (t : Terminal) (rx : List UInt8) (r : LineResult) :
    Terminal × Option LineResult :=
  let t := if lineIs rx "ERROR: 13" 9 then t.countOnlineError else t
  if lineIs rx "ERROR:13" 8 then (t.countOnlineError, some r)
  else if lineIs rx "ERROR: 30" 9 ∨ lineIs rx "ERROR: 20" 9 ∨
      lineIs rx "ERROR: 14" 14 ∨ lineIs rx "ERROR: 19" 14 ∨
      lineIs rx "ERROR: 6" 8 ∨ lineIs rx "ERROR: 7" 8 ∨
      lineIs rx "ERROR: 8" 8 ∨ lineIs rx "ERROR: 10" 9 then
    match t.lineOpenError with
    | (t, true) => (t, none)
    | (t, false) => (t, some r)
  else if lineIs rx "ERROR" 5 then
    (t.lineError, some { r with error := true })
  else if lineIs rx "Unknown" 7 then (t, some { r with error := true })
  else (t, some r)

/-! ## The dial moved on -/

/-- A terminal that is registered asks for a login. -/
def askLogin (t : Terminal) : Terminal :=
  if t.app.conf.regsiterStatus = 1 then
    { t with app.link.devLoginOperateEnable := 1 }
  else t

/-- `CONNECT` while the main or the auxiliary link is dialled. -/
def linkConnected (t : Terminal) : Terminal :=
  { t.askLogin with app.link.dataLinkOnline := 1 }.dialLinkTimeOutClear
    |>.dialStage .idle

/-- `CONNECT` while the link of the remote update is dialled. -/
def ispConnected (t : Terminal) : Terminal :=
  { t.dialStage .idle with
    modem.tcp2Connect := 1
    modem.tcp2SdFlag := 1
    modem.tcp2ReadyDial := 0
    modem.dial.dialOn := 0
    app.isp.runningState := 0 }

/-- A step of the dial that waits for `OK`. -/
def nextOnOk (t : Terminal) (r : LineResult) (stage : DialStage) : Terminal :=
  if r.ok then t.dialStage stage else t

/-- The switch at the end of `GSM_Process`. -/
def dialMove (t : Terminal) (r : LineResult) : Terminal :=
  if t.modem.dial.dialStep ≠ .mainLnk ∧ r.failed then t.dialStage .idle
  else
    match t.modem.dial.dialStep with
    | .dialInit0 => t.nextOnOk r .dialInit1
    | .dialInit1 => t.nextOnOk r .dialInit2
    | .dialInit2 => t.nextOnOk r .dialInit3
    | .dialInit3 => t.nextOnOk r .dialInit4
    | .dialInit4 => t.nextOnOk r .dialInit5
    | .dialInit5 => t.nextOnOk r .dialInit6
    | .dialInit6 =>
        { t.nextOnOk r .dnsr1 with
          app.link.devRegistSdAdd := 0
          app.link.devLoginSdAdd := 0 }
    | .dnsr1 => t.nextOnOk r .dnsr2
    | .dnsr2 => t.nextOnOk r .mainLnk
    | .mainLnk | .auxLnk =>
        if r.failed ∨ r.error then
          { t with modem.dial.dialStepRetryTimer := dialRetryTime }
        else if r.connect then t.linkConnected
        else t
    | .isp =>
        if r.failed ∨ r.error then
          { t with modem.dial.dialStepRetryTimer := dialRetryTime }
        else if r.connect then t.ispConnected
        else t
    | .dialInit7 | .idle => t.dialStage .idle

/-- `GSM_Process`. -/
def gsmProcess (t : Terminal) (rx : List UInt8) : Terminal :=
  let t := t.lineModemStart rx
  if lineIs rx "%RECFGET: " 9 ∨ lineIs rx "%IPDATA:1" 9 ∨
      lineIs rx "%RECSTOP:" 9 then
    t.dialMove {}
  else
    let t := if lineIs rx "%TTS: 0" 7 then t.ttsPlayEnd else t
    match (t.lineLink rx).lineOk rx {} with
    | (t, none) => t
    | (t, some r) =>
        let (t, r) := t.lineCall rx r
        let (t, r) := t.lineCard rx r
        match t.lineErrors rx r with
        | (t, none) => t
        | (t, some r) => t.dialMove r

/-- A turn of `gsm_thread_entry`, with what `GSM_rx` holds if a line has come. -/
def gsmTurn (t : Terminal) (line : Option (List UInt8)) : Terminal :=
  let t := t.gsmModuleTotalInitial
  let t :=
    match line with
    | some rx => t.gsmProcess rx
    | none => t
  t.gsmThreadTurn

end Terminal

end VehicleRecorder.Protocol
