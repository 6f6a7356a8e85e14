import VehicleRecorder.Gsm.ModemEffects
import VehicleRecorder.Protocol.SendReport
import VehicleRecorder.Protocol.TrackingLock

/-!
# Runs of the terminal

The application thread, its timer `timeout_app`, the modem thread and its timer
`timeout_gsm` take their turns in any order, and between them the rest of the
program changes what it likes of the variables that are its own.  The module
puts the steps together, and says for the modem thread and its timer which
variables of the application they leave alone.
-/

namespace VehicleRecorder.Protocol

/-! ## The seconds of the application -/

/-- The seconds since the last attempt, and the attempts, of `DEV_regist` or
`DEV_Login`. -/
structure RetryTimer where
  sdCounter : UInt8
  sdAdd : UInt8
  deriving DecidableEq, Repr

namespace RetryTimer

/-- A second.  The second value says that an attempt is made, the third that it
was one too many. -/
def tick (r : RetryTimer) : RetryTimer × Bool × Bool :=
  if r.sdCounter + 1 > 5 then
    if r.sdAdd + 1 > 3 then (⟨0, 0⟩, true, true)
    else (⟨0, r.sdAdd + 1⟩, true, false)
  else (⟨r.sdCounter + 1, r.sdAdd⟩, false, false)

end RetryTimer

namespace Terminal

def registTimer (t : Terminal) : RetryTimer :=
  ⟨t.regist.sdCounter, t.app.link.devRegistSdAdd⟩

def loginTimer (t : Terminal) : RetryTimer :=
  ⟨t.login.sdCounter, t.app.link.devLoginSdAdd⟩

/-- `Device_RegisterTimer`. -/
def deviceRegisterTimer (t : Terminal) : Terminal :=
  if t.app.conf.regsiterStatus = 0 then
    let (r, attempt, close) := t.registTimer.tick
    let t := { t with
      regist.sdCounter := r.sdCounter
      regist.enableSd := if attempt then 1 else t.regist.enableSd
      app.link.devRegistSdAdd := r.sdAdd }
    if close then t.closeDataLink else t
  else t

/-- `Device_LoginTimer`. -/
def deviceLoginTimer (t : Terminal) : Terminal :=
  if t.app.link.devLoginOperateEnable = 1 ∧ t.app.link.devLoginSdAdd < 5 ∧
      t.app.conf.regsiterStatus = 1 then
    let (r, attempt, close) := t.loginTimer.tick
    let t := { t with
      login.sdCounter := r.sdCounter
      login.enableSd := if attempt then 1 else t.login.enableSd
      app.link.devLoginSdAdd := r.sdAdd }
    if close then t.closeDataLink else t
  else t

/-- `SendMode_ConterProcess`. -/
def sendModeConterProcess (t : Terminal) : Terminal :=
  let s : Sending := {
    app := t.app
    heartSdCnter := t.flags.heartSdCnter
    heartSdFlag := t.flags.heartSdFlag }
  { t with
    flags.heartSdCnter := s.sendModeConterProcess.heartSdCnter
    flags.heartSdFlag := s.sendModeConterProcess.heartSdFlag }

/-- `App808_tick_counter`. -/
def app808TickCounter (t : Terminal) : Terminal :=
  let counter := t.flags.systermResetCounter + 1
  let t := { t with flags.systermResetCounter := counter }
  let t := if counter = maxSystemCounter - 5 then t.closeDataLink else t
  if counter > maxSystemCounter then
    { t with flags.systermResetCounter := 0 }.reset
  else t

/-- The part of `timeout_app` for a second that is about the link. -/
def appSecond (t : Terminal) : Terminal :=
  let t :=
    if t.dataLinkStatus then
      t.deviceRegisterTimer.deviceLoginTimer.sendModeConterProcess
    else t
  t.app808TickCounter

/-! ## The steps -/

/-- What the rest of the program makes of the variables: those of the link, of
the answers that are due and of the modem thread stay as they are. -/
def others (t t' : Terminal) : Terminal :=
  { t' with
    app := { t'.app with
      conf.regsiterStatus := t.app.conf.regsiterStatus
      sdAckFlag := t.app.sdAckFlag
      vehicle.controlAckSdFlag := t.app.vehicle.controlAckSdFlag
      media.recodeSdDataFlag := t.app.media.recodeSdDataFlag
      isp.ack := t.app.isp.ack
      isp.ack88 := t.app.isp.ack88
      isp.ack23 := t.app.isp.ack23
      link.devLoginOperateEnable := t.app.link.devLoginOperateEnable
      link.devLoginSdAdd := t.app.link.devLoginSdAdd
      link.devRegistSdAdd := t.app.link.devRegistSdAdd
      link.dataLinkOnline := t.app.link.dataLinkOnline
      link.gsmPowerOver := t.app.link.gsmPowerOver }
    login := t.login
    regist := t.regist
    modem := t.modem
    sent := t.sent }

/-- A step of the terminal. -/
inductive Event
  /-- `TCP_RX_Process`, with the message in its buffer. -/
  | downlink (linkNum : ℕ) (r : RxState)
  /-- The report in a turn of `App808_thread_entry`. -/
  | appTurn
  /-- A second of `timeout_app`. -/
  | appSecond
  /-- 100 ms of `timeout_app`. -/
  | appTick
  /-- A turn of `gsm_thread_entry`, with the line that has come. -/
  | gsmTurn (line : Option (List UInt8))
  /-- `timeout_gsm`, once a second. -/
  | gsmSecond
  /-- The key for a login in `Menu_3_8_LogOut.c`. -/
  | loginKey
  /-- The key for a registration. -/
  | registerKey
  /-- The key that clears the registration, and the console. -/
  | regsiterStatus (v : UInt8)
  /-- `Socket_main_Set` of the console. -/
  | socketMainSet
  /-- Anything else the program does. -/
  | others (t' : Terminal)

def step (t : Terminal) : Event → Terminal
  | .downlink linkNum r => { t with app := (tcpRxProcess linkNum r t.app).2 }
  | .appTurn => t.appReport
  | .appSecond => t.appSecond
  | .appTick => t.commAtTimer
  | .gsmTurn line => t.gsmTurn line
  | .gsmSecond => t.timeoutGsm
  | .loginKey =>
      { t with
        app.link.devLoginOperateEnable := 1
        login.enableSd := 1 }
  | .registerKey => { t with regist.enableSd := 1 }
  | .regsiterStatus v => { t with app.conf.regsiterStatus := v }
  | .socketMainSet => t.closeDataLink
  | .others t' => t.others t'

theorem step_gsmSecond (t : Terminal) : t.step .gsmSecond = t.timeoutGsm := rfl

/-- A run. -/
def run (t : Terminal) (es : List Event) : Terminal := es.foldl step t

theorem run_nil (t : Terminal) : t.run [] = t := rfl

theorem run_cons (t : Terminal) (e : Event) (es : List Event) :
    t.run (e :: es) = (t.step e).run es := rfl

/-! ## What a second of the application does -/

/-- What the timers of the application may do: ask for a login or a
registration, and ask for the link to be closed. -/
structure Ticks (t u : Terminal) : Prop where
  sent : u.sent = t.sent
  due : u.app.due = t.app.due
  regsiterStatus : u.app.conf.regsiterStatus = t.app.conf.regsiterStatus
  operateEnable : u.app.link.devLoginOperateEnable =
    t.app.link.devLoginOperateEnable
  online : u.app.link.dataLinkOnline = t.app.link.dataLinkOnline
  login : u.login.enableSd = t.login.enableSd ∨ u.login.enableSd = 1
  regist : u.regist.enableSd = t.regist.enableSd ∨ u.regist.enableSd = 1
  endFlag : u.modem.dataLinkEndFlag = t.modem.dataLinkEndFlag ∨
    u.modem.dataLinkEndFlag = 1
  endCounter : u.modem.dataLinkEndCounter = t.modem.dataLinkEndCounter
  dial : u.modem.dial = t.modem.dial
  wdgResetFlag : u.modem.wdgResetFlag = t.modem.wdgResetFlag ∨
    u.modem.wdgResetFlag = 1

theorem Ticks.trans {t u v : Terminal} (h : t.Ticks u) (h' : u.Ticks v) :
    t.Ticks v where
  sent := h'.sent.trans h.sent
  due := h'.due.trans h.due
  regsiterStatus := h'.regsiterStatus.trans h.regsiterStatus
  operateEnable := h'.operateEnable.trans h.operateEnable
  online := h'.online.trans h.online
  login := eq_or_one_trans h.login h'.login
  regist := eq_or_one_trans h.regist h'.regist
  endFlag := eq_or_one_trans h.endFlag h'.endFlag
  endCounter := h'.endCounter.trans h.endCounter
  dial := h'.dial.trans h.dial
  wdgResetFlag := eq_or_one_trans h.wdgResetFlag h'.wdgResetFlag

theorem Ticks.refl (t : Terminal) : t.Ticks t :=
  ⟨rfl, rfl, rfl, rfl, rfl, Or.inl rfl, Or.inl rfl, Or.inl rfl, rfl, rfl,
    Or.inl rfl⟩

theorem ticks_closeDataLink (t : Terminal) : t.Ticks t.closeDataLink :=
  ⟨rfl, rfl, rfl, rfl, rfl, Or.inl rfl, Or.inl rfl, Or.inr rfl, rfl, rfl,
    Or.inl rfl⟩

theorem ticks_deviceRegisterTimer (t : Terminal) :
    t.Ticks t.deviceRegisterTimer := by
  unfold deviceRegisterTimer
  split
  · obtain ⟨r, attempt, close⟩ := t.registTimer.tick
    have hcount : t.Ticks { t with
        regist.sdCounter := r.sdCounter
        regist.enableSd := if attempt then 1 else t.regist.enableSd
        app.link.devRegistSdAdd := r.sdAdd } := by
      refine ⟨rfl, rfl, rfl, rfl, rfl, Or.inl rfl, ?_, Or.inl rfl, rfl, rfl,
        Or.inl rfl⟩
      cases attempt
      · exact Or.inl rfl
      · exact Or.inr rfl
    dsimp only
    split
    · exact hcount.trans (ticks_closeDataLink _)
    · exact hcount
  · exact .refl t

theorem ticks_deviceLoginTimer (t : Terminal) :
    t.Ticks t.deviceLoginTimer := by
  unfold deviceLoginTimer
  split
  · obtain ⟨r, attempt, close⟩ := t.loginTimer.tick
    have hcount : t.Ticks { t with
        login.sdCounter := r.sdCounter
        login.enableSd := if attempt then 1 else t.login.enableSd
        app.link.devLoginSdAdd := r.sdAdd } := by
      refine ⟨rfl, rfl, rfl, rfl, rfl, ?_, Or.inl rfl, Or.inl rfl, rfl, rfl,
        Or.inl rfl⟩
      cases attempt
      · exact Or.inl rfl
      · exact Or.inr rfl
    dsimp only
    split
    · exact hcount.trans (ticks_closeDataLink _)
    · exact hcount
  · exact .refl t

/-- A function that changes other variables only. -/
theorem Ticks.of_flags (t : Terminal) (flags : SendFlags) (modem : Modem)
    (hflag : modem.dataLinkEndFlag = t.modem.dataLinkEndFlag)
    (hcounter : modem.dataLinkEndCounter = t.modem.dataLinkEndCounter)
    (hdial : modem.dial = t.modem.dial)
    (hwdg : modem.wdgResetFlag = t.modem.wdgResetFlag ∨
      modem.wdgResetFlag = 1) :
    t.Ticks { t with flags := flags, modem := modem } :=
  ⟨rfl, rfl, rfl, rfl, rfl, Or.inl rfl, Or.inl rfl, Or.inl hflag, hcounter,
    hdial, hwdg⟩

theorem ticks_app808TickCounter (t : Terminal) :
    t.Ticks t.app808TickCounter := by
  unfold app808TickCounter
  extract_lets counter flags u v flags'
  have hu : t.Ticks u := .of_flags t _ _ rfl rfl rfl (Or.inl rfl)
  have hv : t.Ticks v := by
    unfold v
    split
    · exact hu.trans (ticks_closeDataLink u)
    · exact hu
  split
  · exact hv.trans (.of_flags v _ _ rfl rfl rfl (Or.inr rfl))
  · exact hv

theorem ticks_appSecond (t : Terminal) : t.Ticks t.appSecond := by
  unfold appSecond
  dsimp only
  refine Ticks.trans ?_ (ticks_app808TickCounter _)
  split
  · exact ((ticks_deviceRegisterTimer t).trans
      (ticks_deviceLoginTimer _)).trans
        (.of_flags _ _ _ rfl rfl rfl (Or.inl rfl))
  · exact .refl t

end Terminal

end VehicleRecorder.Protocol
