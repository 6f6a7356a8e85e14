import VehicleRecorder.Protocol.Terminal

/-!
# Dialling

The functions of `Device_gsm.c` and `App_gsm.c` that the modem thread and the
one-second timer `timeout_gsm` call for the data link: switching the modem on,
its configuration, the steps of a dial with their retries, the voice output, and
the end of a link.

Commands that only ask the modem for a state, such as `AT+CSQ` of
`GSM_CSQ_Query`, are left out, and so are the flags that no function reads.
-/

namespace VehicleRecorder.Protocol

open Bytes

/-- `Dial_Dial_Retry_Time`. -/
def dialRetryTime : ℕ := 100

/-- `Dial_Timeout`. -/
def dialTimeout : ℕ := 200

/-- `Dial_max_Timeout`. -/
def dialMaxTimeout : ℕ := 300

/-- `Dial_Step_MAXRetries`. -/
def dialStepMaxRetries : UInt8 := 4

namespace Terminal

/-- `Dial_Stage`. -/
def dialStage (t : Terminal) (stage : DialStage) : Terminal :=
  { t with
    modem.dial.dialStep := stage
    modem.dial.dialStepRetryTimer := dialRetryTime
    modem.dial.dialStepRetry := 0 }

/-- `Redial_Init`. -/
def redialInit (t : Terminal) : Terminal :=
  { t with modem.dial := { startDialStateFlag := 1, dialOn := 1 } }.dialStage
    .dialInit0

/-- `DialLink_TimeOut_Clear`. -/
def dialLinkTimeOutClear (t : Terminal) : Terminal :=
  { t with
    modem.dial.startDialStateFlag := 0
    modem.dial.startDialCounter := 0 }

/-- `reset`: the watchdog is fed no more. -/
def reset (t : Terminal) : Terminal := { t with modem.wdgResetFlag := 1 }

/-- `RstWrite_ACConoff_counter`. -/
def rstWriteAcConoffCounter (t : Terminal) : Terminal :=
  if t.app.tiredConf.tiredDrive.statusTiredwhRst = 0 then t
  else { t with app := t.app.saveTiredConf.saveJT808 }

/-- A dial that takes too long closes the link. -/
def closeSlowDial (t : Terminal) : Terminal :=
  if t.modem.dial.startDialCounter = 293 then t.closeDataLink else t

/-- Soon after that it resets the terminal. -/
def resetSlowDial (t : Terminal) : Terminal :=
  if t.modem.dial.startDialCounter > 300 then
    { t with modem.dial.startDialCounter := 0 }.rstWriteAcConoffCounter.reset
  else t

/-- `DialLink_TimeOut_Process`, once a second. -/
def dialLinkTimeOutProcess (t : Terminal) : Terminal :=
  if t.modem.dial.startDialStateFlag = 1 then
    { t with modem.dial.startDialCounter :=
        (t.modem.dial.startDialCounter + 1) % 65536 }.closeSlowDial.resetSlowDial
  else { t with modem.dial.startDialCounter := 0 }

/-! ## The end of a link -/

/-- A command that cuts the link, with the retries of the dial begun anew. -/
def cutDataLink (t : Terminal) (str : String) : Terminal :=
  { t.output (.str str) with
    modem.dial.dialStepRetry := 0
    modem.dial.dialStepRetryTimer := dialRetryTime }

/-- The first commands of `End_Datalink`, by the seconds that have passed. -/
def closeSockets (t : Terminal) : Terminal :=
  if t.modem.dataLinkEndCounter = 2 then t.cutDataLink "AT%IPCLOSE=2\r\n"
  else if t.modem.dataLinkEndCounter = 3 then t.cutDataLink "AT%IPCLOSE=1\r\n"
  else if t.modem.dataLinkEndCounter = 5 then t.cutDataLink "AT%IPCLOSE=5\r\n"
  else t

/-- The last part of `End_Datalink`: the link is dialled again. -/
def hangUp (t : Terminal) : Terminal :=
  if t.modem.dataLinkEndCounter = 8 then t.cutDataLink "ATH\r\n"
  else if t.modem.dataLinkEndCounter > 10 then
    { t with
      modem.dataLinkEndCounter := 0
      modem.dataLinkEndFlag := 0
      modem.commAt.initialStep := 0
      modem.commAt.totalInitial := 0
      app.link.moduleStatus := t.app.link.moduleStatus &&& 0xfd }.redialInit
  else t

/-- `End_Datalink`, once a second. -/
def endDatalink (t : Terminal) : Terminal :=
  if t.modem.dataLinkEndFlag = 1 then
    { t with
      modem.tcp2Connect := 0
      modem.dataLinkEndCounter := t.modem.dataLinkEndCounter + 1
      app.link.dataLinkOnline := 0 }.closeSockets.hangUp
  else t

/-- The part of `ISP_Timer` that dials the link of the remote update. -/
def readyDialTimer (t : Terminal) : Terminal :=
  if t.modem.tcp2ReadyDial = 1 && t.dataLinkStatus then
    let counter := (t.modem.readyDialCounter2 + 1) % 65536
    if counter > 5 then
      { t with
        modem.readyDialCounter2 := 0
        modem.dial.dialOn := 1 }.dialStage .isp
    else { t with modem.readyDialCounter2 := counter }
  else t

/-- The part of `ISP_Timer` for the heartbeat of that link. -/
def tcp2HeartTimer (t : Terminal) : Terminal :=
  if t.modem.tcp2Connect = 1 then
    let counter := t.modem.tcp2Coutner + 1
    if counter ≥ 50 then
      { t with modem.tcp2Coutner := 0, modem.tcp2SdFlag := 1 }
    else { t with modem.tcp2Coutner := counter }
  else t

/-- `ISP_Timer`, once a second. -/
def ispTimer (t : Terminal) : Terminal := t.readyDialTimer.tcp2HeartTimer

/-! ## Switching on and configuration -/

/-- `GPRS_GSM_PowerON`, once a second; the levels of the pins are left out. -/
def gprsGsmPowerOn (t : Terminal) : Terminal :=
  if t.app.link.gsmPowerOver ≠ 0 then t
  else
    let counter := (t.modem.gsmPowerCounter + 50) % 65536
    if counter ≥ 1200 then
      { t with modem.gsmPowerCounter := 0, app.link.gsmPowerOver := 1 }
    else { t with modem.gsmPowerCounter := counter }

/-- The command that `GSM_Module_TotalInitial` writes in a step. -/
def commAtStr : UInt8 → Option String
  | 0 => some "ATV1\r\n"
  | 1 => some "ATE0\r\n"
  | 2 => some "AT+COPS?\r\n"
  | 3 => some "AT%SNFS=0\r\n"
  | 4 => some "AT%NFI=0,10,0,0\r\n"
  | 5 => some "AT\r\n"
  | 6 => some "AT%NFV=5\r\n"
  | 7 => some "AT+CGMR\r\n"
  | 8 => some "AT%VLB=1\r\n"
  | 9 => some "AT%NFW=1\r\n"
  | 10 => some "AT%RECCFG=\"AMR\",0\r\n"
  | 11 => some "AT+CMGF=1\r\n"
  | 12 => some "AT+CPMS=\"SM\",\"SM\",\"SM\"\r\n"
  | 13 => some "AT+CNMI=2,1\r\n"
  | 14 => some "AT+CMGD=1,4\r\n"
  | 15 => some "AT+CSQ\r\n"
  | _ => none

/-- `GSM_Module_TotalInitial`.  Steps 2 and 15 are left when the modem has
answered; step 16 starts to dial. -/
def gsmModuleTotalInitial (t : Terminal) : Terminal :=
  if t.modem.commAt.totalInitial = 1 && t.modem.commAt.executeEnable ≠ 0 then
    let step := t.modem.commAt.initialStep
    let t :=
      match commAtStr step with
      | some str =>
          if step = 2 ∨ step = 15 then t.output (.str str)
          else { t.output (.str str) with modem.commAt.initialStep := step + 1 }
      | none =>
          if step = 16 then
            { t with
              modem.commAt.initialStep := 0
              modem.commAt.totalInitial := 0
              modem.dial.dialOn := 1 }.dialStage .dialInit0
          else t
    { t with modem.commAt.executeEnable := 0 }
  else t

/-- The part of `timeout_app` that paces the configuration, every 100 ms. -/
def commAtTimer (t : Terminal) : Terminal :=
  if t.modem.commAt.totalInitial = 1 then
    let counter := t.modem.commAt.executeCouter + 1
    if counter > 15 then
      { t with
        modem.commAt.executeEnable := 1
        modem.commAt.executeCouter := 0 }
    else { t with modem.commAt.executeCouter := counter }
  else t

/-! ## The steps of a dial -/

/-- `Dial_step_Single_10ms_timer`. -/
def dialStepTimer (t : Terminal) : Terminal :=
  if t.modem.dial.dialOn = 0 ∨ t.modem.dial.dialStep = .idle then t
  else
    { t with modem.dial.dialStepRetryTimer :=
        t.modem.dial.dialStepRetryTimer - 10 }

/-- What a step of the dial does: the time until it is tried again, and one more
retry. -/
def dialTry (t : Terminal) (timer : ℕ) (c : AtCommand) : Terminal :=
  { t.output c with
    modem.dial.dialStepRetryTimer := timer
    modem.dial.dialStepRetry := t.modem.dial.dialStepRetry + 1 }

/-- The switch of `DataLink_Process`. -/
def dialStepAction (t : Terminal) : Terminal :=
  match t.modem.dial.dialStep with
  | .dialInit0 =>
      { t with modem.dial.startDialStateFlag := 1 }.dialTry dialRetryTime
        (.str "AT+CREG?\r\n")
  | .dialInit1 => t.dialTry dialMaxTimeout .apn
  | .dialInit2 => t.dialTry dialTimeout (.str "AT%IOMODE=1,2,1\r\n")
  | .dialInit3 =>
      t.dialTry dialMaxTimeout (.str "AT%ETCPIP=\"user\",\"gprs\"\r\n")
  | .dialInit4 => t.dialTry dialRetryTime (.str "AT\r\n")
  | .dialInit5 => t.dialTry dialRetryTime (.str "AT%ETCPIP?\r\n")
  | .dialInit6 => t.dialTry dialRetryTime (.str "AT\r\n")
  | .dnsr1 =>
      { t.dialTry dialMaxTimeout .dnsr with
        modem.dialJumpState := 7
        modem.dnsrState := 1 }
  | .dnsr2 =>
      { t.dialTry dialMaxTimeout .dnsr2 with
        modem.dialJumpState := 8
        modem.dnsrState := 1 }
  | .dialInit7 => t.dialTry dialRetryTime (.str "AT\r\n")
  | .mainLnk =>
      let t :=
        if t.modem.dnsrState = 0 then
          { t with modem.link1 :=
              (t.app.link.remoteIpMain, t.app.link.remotePortMain) }
        else t
      t.dialTry 3000 (.link1 t.modem.link1.1 t.modem.link1.2)
  | .auxLnk => t.dialTry 3000 (.linkAux t.modem.linkAux.1 t.modem.linkAux.2)
  | .isp => t.dialTry dialMaxTimeout .isp
  | .idle => t

/-- `DataLink_AuxSocket_set(RemoteIP_aux, RemotePort_main,0)`. -/
def auxSocketSet (t : Terminal) : Terminal :=
  { t with modem.linkAux :=
      (t.app.link.remoteIpAux, t.app.link.remotePortMain) }

/-- After two retries the main link is given up for the auxiliary one, unless
the name of the server is being resolved. -/
def giveUpMainLink (t : Terminal) : Terminal :=
  if t.modem.dial.dialStep = .mainLnk ∧ t.modem.dial.dialStepRetry > 2 then
    if t.modem.dnsrState ≠ 0 then t.dialStage .mainLnk
    else
      ((t.output (.str "AT%IPCLOSE=1\r\n")).dialStage .auxLnk).auxSocketSet
  else t

/-- `DataLink_Process`. -/
def dataLinkProcess (t : Terminal) : Terminal :=
  if t.modem.dial.dialOn = 0 ∨ t.modem.dial.dialStep = .idle then t
  else if t.modem.dial.dialStepRetryTimer ≠ 0 then t
  else if t.modem.dial.dialStepRetry ≥ dialStepMaxRetries then
    let t :=
      if t.modem.dial.dialStep = .dnsr1 then t.dialStage .mainLnk
      else t.dialStage .dialInit0
    { t with modem.dial.dialStepRetryTimer := 0 }
  else t.giveUpMainLink.dialStepAction

/-! ## The voice output -/

/-- `TTS_Data_Play`. -/
def ttsDataPlay (t : Terminal) : Terminal :=
  if t.app.texts.tts.playing ≠ 0 then t
  else
    let t :=
      if t.app.texts.tts.save ≠ 0 then
        let len := t.app.texts.tts.hexLen
        let xs := gsmHextoAscii (readBytes (t.app.mem .hexBuf) 0 len)
        { t with
          app := { (t.app.memset .asciiBuf 4).store .asciiBuf xs xs.length with
            texts.tts.save := 0
            texts.tts.asciiLen := len * 2 % 65536
            texts.tts.timeOutLimt := len / 3 + 3
            texts.tts.timeCounter := 0
            texts.tts.needtoPlay := 1 } }
      else t
    if t.app.texts.tts.needtoPlay = 1 then
      { t.output (.tts (readBytes (t.app.mem .asciiBuf) 0
          t.app.texts.tts.asciiLen)) with
        app.texts.speakOn := true
        app.texts.tts.playing := 1
        app.texts.tts.needtoPlay := 0 }
    else t

/-- `TTS_Play_End`. -/
def ttsPlayEnd (t : Terminal) : Terminal :=
  { t with
    app.texts.tts.playing := 0
    app.texts.tts.timeCounter := 0
    app.texts.speakOn := false }

/-- `TTS_Exception_TimeLimt`, once a second; it leaves the amplifier on. -/
def ttsExceptionTimeLimt (t : Terminal) : Terminal :=
  if t.app.texts.tts.playing ≠ 0 then
    let counter := (t.app.texts.tts.timeCounter + 1) % 65536
    if counter > t.app.texts.tts.timeOutLimt then
      { t with app.texts.tts.playing := 0, app.texts.tts.timeCounter := 0 }
    else { t with app.texts.tts.timeCounter := counter }
  else t

/-- `TTS_ACK_Error_Process`, with the amplifier switched off behind it. -/
def ttsAckErrorProcess (t : Terminal) : Terminal :=
  { t with
    app.texts.tts.playing := 0
    app.texts.tts.timeCounter := 0
    app.texts.speakOn := false }

/-! ## The threads -/

/-- `timeout_gsm`, once a second. -/
def timeoutGsm (t : Terminal) : Terminal :=
  t.gprsGsmPowerOn.endDatalink.ispTimer.ttsExceptionTimeLimt
    |>.dialLinkTimeOutProcess

/-- What `gsm_thread_entry` does in a turn behind the line it has read; the
frame that waits for the modem is not part of the state. -/
def gsmThreadTurn (t : Terminal) : Terminal :=
  t.dataLinkProcess.dialStepTimer.ttsDataPlay

end Terminal

end VehicleRecorder.Protocol
