import VehicleRecorder.Gsm.GsmProcess
import VehicleRecorder.Protocol.DownlinkEffects

/-!
# What the modem thread does to the link

The modem thread reads the lines of the modem and dials.  Of the variables of
the application it changes few: it asks for a new login, it sets the link online
or offline, and it asks for the link to be closed.  The module says so for every
function of the thread, and from that for a turn.
-/

namespace VehicleRecorder.Protocol

open Dataflash

/-- What the modem thread and its timer leave alone. -/
structure AppView where
  sent : List Request
  login : DevLogin
  regist : DevRegist
  regsiterStatus : UInt8
  due : DueAnswers

/-- What the functions of the modem thread are compared by. -/
structure ModemView where
  appView : AppView
  operateEnable : UInt8
  registSdAdd : UInt8
  loginSdAdd : UInt8
  endFlag : UInt8
  endCounter : UInt8
  wdgResetFlag : UInt8
  online : UInt8
  startDialStateFlag : UInt8
  startDialCounter : ℕ

namespace Terminal

def appView (t : Terminal) : AppView where
  sent := t.sent
  login := t.login
  regist := t.regist
  regsiterStatus := t.app.conf.regsiterStatus
  due := t.app.due

def modemView (t : Terminal) : ModemView where
  appView := t.appView
  operateEnable := t.app.link.devLoginOperateEnable
  registSdAdd := t.app.link.devRegistSdAdd
  loginSdAdd := t.app.link.devLoginSdAdd
  endFlag := t.modem.dataLinkEndFlag
  endCounter := t.modem.dataLinkEndCounter
  wdgResetFlag := t.modem.wdgResetFlag
  online := t.app.link.dataLinkOnline
  startDialStateFlag := t.modem.dial.startDialStateFlag
  startDialCounter := t.modem.dial.startDialCounter

theorem login_of_appView {t u : Terminal} (h : u.appView = t.appView) :
    u.login = t.login := congrArg AppView.login h

theorem regist_of_appView {t u : Terminal} (h : u.appView = t.appView) :
    u.regist = t.regist := congrArg AppView.regist h

/-- What a function of the modem thread may do: ask for a login, ask for the link
to be closed, and set it offline, or online with a login asked for if the
terminal is registered. -/
structure Effect (t u : Terminal) : Prop where
  appView : u.appView = t.appView
  operateEnable : u.app.link.devLoginOperateEnable =
      t.app.link.devLoginOperateEnable ∨
    u.app.link.devLoginOperateEnable = 1
  endFlag : u.modem.dataLinkEndFlag = t.modem.dataLinkEndFlag ∨
    u.modem.dataLinkEndFlag = 1
  endCounter : u.modem.dataLinkEndCounter = t.modem.dataLinkEndCounter
  wdgResetFlag : u.modem.wdgResetFlag = t.modem.wdgResetFlag
  online : u.app.link.dataLinkOnline ≠ 0 → t.app.link.dataLinkOnline ≠ 0 ∨
    (t.app.conf.regsiterStatus = 1 → u.app.link.devLoginOperateEnable = 1)

/-- The same for the functions in front of the step of the dial in which the
attempts are counted anew.  They start the clock of the dial, but do not stop
it. -/
structure Keeps (t u : Terminal) : Prop extends Effect t u where
  registSdAdd : u.app.link.devRegistSdAdd = t.app.link.devRegistSdAdd
  loginSdAdd : u.app.link.devLoginSdAdd = t.app.link.devLoginSdAdd
  dialStep : u.modem.dial.dialStep = .dialInit6 →
    t.modem.dial.dialStep = .dialInit6
  startDialStateFlag : u.modem.dial.startDialStateFlag =
      t.modem.dial.startDialStateFlag ∨
    u.modem.dial.startDialStateFlag = 1
  startDialCounter : u.modem.dial.startDialCounter =
    t.modem.dial.startDialCounter

theorem eq_or_one_trans {a b c : UInt8} (h : b = a ∨ b = 1)
    (h' : c = b ∨ c = 1) : c = a ∨ c = 1 := by
  rcases h' with rfl | hone
  · exact h
  · exact Or.inr hone

theorem Effect.trans {t u v : Terminal} (h : t.Effect u) (h' : u.Effect v) :
    t.Effect v where
  appView := h'.appView.trans h.appView
  operateEnable := eq_or_one_trans h.operateEnable h'.operateEnable
  endFlag := eq_or_one_trans h.endFlag h'.endFlag
  endCounter := h'.endCounter.trans h.endCounter
  wdgResetFlag := h'.wdgResetFlag.trans h.wdgResetFlag
  online := by
    have hregist : u.app.conf.regsiterStatus = t.app.conf.regsiterStatus :=
      congrArg AppView.regsiterStatus h.appView
    intro hv
    rcases h'.online hv with hu | hasked
    · rcases h.online hu with ht | hasked
      · exact Or.inl ht
      · refine Or.inr fun hreg => ?_
        rcases h'.operateEnable with heq | hone
        · rw [heq]
          exact hasked hreg
        · exact hone
    · exact Or.inr fun hreg => hasked (hregist.trans hreg)

theorem Keeps.trans {t u v : Terminal} (h : t.Keeps u) (h' : u.Keeps v) :
    t.Keeps v where
  toEffect := h.toEffect.trans h'.toEffect
  registSdAdd := h'.registSdAdd.trans h.registSdAdd
  loginSdAdd := h'.loginSdAdd.trans h.loginSdAdd
  dialStep := h.dialStep ∘ h'.dialStep
  startDialStateFlag :=
    eq_or_one_trans h.startDialStateFlag h'.startDialStateFlag
  startDialCounter := h'.startDialCounter.trans h.startDialCounter

theorem Effect.of_view {t u : Terminal} (h : u.modemView = t.modemView) :
    t.Effect u where
  appView := congrArg ModemView.appView h
  operateEnable := Or.inl (congrArg ModemView.operateEnable h)
  endFlag := Or.inl (congrArg ModemView.endFlag h)
  endCounter := congrArg ModemView.endCounter h
  wdgResetFlag := congrArg ModemView.wdgResetFlag h
  online := fun hu => by
    have honline : u.app.link.dataLinkOnline = t.app.link.dataLinkOnline :=
      congrArg ModemView.online h
    exact Or.inl (honline ▸ hu)

/-- A function that changes none of the variables but the step of the dial. -/
theorem Keeps.of_view {t u : Terminal} (h : u.modemView = t.modemView)
    (hstep : u.modem.dial.dialStep ≠ .dialInit6) : t.Keeps u where
  toEffect := .of_view h
  registSdAdd := congrArg ModemView.registSdAdd h
  loginSdAdd := congrArg ModemView.loginSdAdd h
  dialStep := fun h6 => absurd h6 hstep
  startDialStateFlag := Or.inl (congrArg ModemView.startDialStateFlag h)
  startDialCounter := congrArg ModemView.startDialCounter h

/-- A function that changes none of the variables and leaves the step. -/
theorem Keeps.of_same {t u : Terminal} (h : u.modemView = t.modemView)
    (hstep : u.modem.dial.dialStep = t.modem.dial.dialStep) :
    t.Keeps u where
  toEffect := .of_view h
  registSdAdd := congrArg ModemView.registSdAdd h
  loginSdAdd := congrArg ModemView.loginSdAdd h
  dialStep := fun h6 => hstep ▸ h6
  startDialStateFlag := Or.inl (congrArg ModemView.startDialStateFlag h)
  startDialCounter := congrArg ModemView.startDialCounter h

theorem Keeps.refl (t : Terminal) : t.Keeps t := .of_same rfl rfl

theorem Keeps.ite {c : Prop} [Decidable c] {t u v : Terminal}
    (hu : c → t.Keeps u) (hv : ¬ c → t.Keeps v) :
    t.Keeps (if c then u else v) := by
  split
  · exact hu ‹c›
  · exact hv ‹¬ c›

theorem Keeps.closeDataLink (t : Terminal) : t.Keeps t.closeDataLink where
  appView := rfl
  operateEnable := Or.inl rfl
  endFlag := Or.inr rfl
  endCounter := rfl
  wdgResetFlag := rfl
  online := Or.inl
  registSdAdd := rfl
  loginSdAdd := rfl
  dialStep := id
  startDialStateFlag := Or.inl rfl
  startDialCounter := rfl

/-! ## Configuration, dial and voice output -/

theorem keeps_gsmModuleTotalInitial (t : Terminal) :
    t.Keeps t.gsmModuleTotalInitial := by
  unfold gsmModuleTotalInitial
  dsimp only
  split
  · split
    · split <;> exact .of_same rfl rfl
    · split
      · exact .of_view rfl (fun h => by cases h)
      · exact .of_same rfl rfl
  · exact .refl t

theorem keeps_dialStepTimer (t : Terminal) : t.Keeps t.dialStepTimer := by
  unfold dialStepTimer
  split <;> exact .of_same rfl rfl

theorem keeps_dialStepAction (t : Terminal) : t.Keeps t.dialStepAction := by
  unfold dialStepAction
  split
  case h_1 =>
      exact ⟨⟨rfl, Or.inl rfl, Or.inl rfl, rfl, rfl, Or.inl⟩, rfl, rfl, id,
        Or.inr rfl, rfl⟩
  case h_11 =>
      dsimp only
      split <;> exact .of_same rfl rfl
  all_goals exact .of_same rfl rfl

theorem keeps_giveUpMainLink (t : Terminal) : t.Keeps t.giveUpMainLink := by
  unfold giveUpMainLink
  split
  · split <;> exact .of_view rfl (fun h => by cases h)
  · exact .refl t

theorem keeps_dataLinkProcess (t : Terminal) : t.Keeps t.dataLinkProcess := by
  unfold dataLinkProcess
  split
  · exact .refl t
  · split
    · exact .refl t
    · split
      · dsimp only
        split <;> exact .of_view rfl (fun h => by cases h)
      · exact (keeps_giveUpMainLink t).trans (keeps_dialStepAction _)

theorem keeps_ttsDataPlay (t : Terminal) : t.Keeps t.ttsDataPlay := by
  unfold ttsDataPlay
  split
  · exact .refl t
  · dsimp only
    split
    · split <;> exact .of_same rfl rfl
    · split <;> exact .of_same rfl rfl

theorem keeps_gsmThreadTurn (t : Terminal) : t.Keeps t.gsmThreadTurn :=
  ((keeps_dataLinkProcess t).trans (keeps_dialStepTimer _)).trans
    (keeps_ttsDataPlay _)

/-! ## The lines of the modem -/

theorem keeps_lineModemStart (t : Terminal) (rx : List UInt8) :
    t.Keeps (t.lineModemStart rx) := by
  unfold lineModemStart
  split <;> exact .of_same rfl rfl

theorem keeps_lineLink (t : Terminal) (rx : List UInt8) :
    t.Keeps (t.lineLink rx) := by
  unfold lineLink
  split
  · split <;> exact .of_same rfl rfl
  · split
    · exact .refl t
    · split
      · exact ⟨⟨rfl, Or.inl rfl, Or.inl rfl, rfl, rfl,
          fun h => absurd rfl h⟩, rfl, rfl, id, Or.inl rfl, rfl⟩
      · split
        · dsimp only
          split
          · exact ⟨⟨rfl, Or.inr rfl, Or.inr rfl, rfl, rfl,
              fun h => absurd rfl h⟩, rfl, rfl, id, Or.inl rfl, rfl⟩
          · exact ⟨⟨rfl, Or.inl rfl, Or.inl rfl, rfl, rfl,
              fun h => absurd rfl h⟩, rfl, rfl, id, Or.inl rfl, rfl⟩
        · exact .refl t

theorem keeps_setOperatorApn (t : Terminal) (apn : String) :
    t.Keeps (t.setOperatorApn apn) := .of_same rfl rfl

theorem keeps_lineCops (t : Terminal) (rx : List UInt8) :
    t.Keeps (t.lineCops rx) := by
  unfold lineCops
  split
  · extract_lets u
    have hu : t.Keeps u := by
      unfold u
      split
      · exact keeps_setOperatorApn t _
      · split
        · exact keeps_setOperatorApn t _
        · exact .refl t
    exact hu.trans (.of_same rfl rfl)
  · dsimp only
    split <;> exact .of_same rfl rfl

theorem keeps_lineCsq (t : Terminal) (rx : List UInt8) :
    t.Keeps (t.lineCsq rx) := by
  unfold lineCsq
  extract_lets digit sq modem u
  split <;> exact .of_same rfl rfl

theorem keeps_lineTsim (t : Terminal) (rx : List UInt8) :
    t.Keeps (t.lineTsim rx) := by
  unfold lineTsim
  split
  · dsimp only
    split <;> exact .of_same rfl rfl
  · split <;> exact .of_same rfl rfl

theorem keeps_lineImsi (t : Terminal) : t.Keeps t.lineImsi := .of_same rfl rfl

theorem keeps_countOnlineError (t : Terminal) :
    t.Keeps t.countOnlineError := by
  unfold countOnlineError
  dsimp only
  split
  · exact (Keeps.closeDataLink t).trans (.of_same rfl rfl)
  · exact .of_same rfl rfl

theorem keeps_lineOpenError (t : Terminal) : t.Keeps t.lineOpenError.1 := by
  unfold lineOpenError
  split
  · exact .of_view rfl (fun h => by cases h)
  · split
    · exact .of_view rfl (fun h => by cases h)
    · split
      · exact .of_view rfl (fun h => by cases h)
      · exact keeps_countOnlineError t

theorem keeps_lineError (t : Terminal) : t.Keeps t.lineError := by
  have hidle : t.Keeps { t with app.texts.callState := 0 } :=
    .of_same rfl rfl
  unfold lineError
  dsimp only
  split
  · exact .of_same rfl rfl
  · split
    · exact hidle.trans (keeps_countOnlineError _)
    · exact hidle

theorem keeps_lineOk (t : Terminal) (rx : List UInt8) (r : LineResult) :
    t.Keeps (t.lineOk rx r).1 := by
  unfold lineOk
  split
  · split
    · exact .of_same rfl rfl
    · exact .of_view rfl (fun h => by cases h)
  · split
    · exact keeps_lineCops t rx
    · split
      · dsimp only
        split <;> exact .of_same rfl rfl
      · split <;> exact .refl t

theorem keeps_lineCall (t : Terminal) (rx : List UInt8) (r : LineResult) :
    t.Keeps (t.lineCall rx r).1 := by
  have hidle : t.Keeps { t with
      app.texts.callState := 0
      app.texts.speakOn := false } := .of_same rfl rfl
  have hrest (u : Terminal) (q : LineResult) (hu : t.Keeps u) :
      t.Keeps (if lineEq rx "BUSY" then
          ({ u with app.texts.callState := 0 }, { q with failed := true })
        else if lineIs rx "+CSQ:" 5 then (u.lineCsq rx, q)
        else (u, q)).1 := by
    split
    · exact hu.trans (.of_same rfl rfl)
    · split
      · exact hu.trans (keeps_lineCsq u rx)
      · exact hu
  unfold lineCall
  by_cases hcarrier : lineIs rx "NO CARRIER" 10 = true
  · rw [if_pos hcarrier]
    exact hrest _ _ hidle
  · rw [if_neg hcarrier]
    exact hrest t r (.refl t)

theorem keeps_lineCard (t : Terminal) (rx : List UInt8) (r : LineResult) :
    t.Keeps (t.lineCard rx r).1 := by
  unfold lineCard
  split
  · exact keeps_lineTsim t rx
  · split
    · exact keeps_lineImsi t
    · split
      · exact .refl t
      · split <;> exact .refl t

theorem keeps_lineErrors (t : Terminal) (rx : List UInt8) (r : LineResult) :
    t.Keeps (t.lineErrors rx r).1 := by
  have hfirst : t.Keeps
      (if lineIs rx "ERROR: 13" 9 then t.countOnlineError else t) := by
    split
    · exact keeps_countOnlineError t
    · exact .refl t
  unfold lineErrors
  refine hfirst.trans ?_
  generalize (if lineIs rx "ERROR: 13" 9 then t.countOnlineError else t) = u
  dsimp only
  split
  · exact keeps_countOnlineError u
  · split
    · have hopen := keeps_lineOpenError u
      split
      · rwa [‹u.lineOpenError = _›] at hopen
      · rwa [‹u.lineOpenError = _›] at hopen
    · split
      · exact keeps_lineError u
      · split <;> exact .refl u

/-! ## The dial moved on -/

theorem effect_nextOnOk (t : Terminal) (r : LineResult) (stage : DialStage) :
    t.Effect (t.nextOnOk r stage) := by
  unfold nextOnOk
  split
  · exact .of_view rfl
  · exact .of_view rfl

theorem effect_linkConnected (t : Terminal) : t.Effect t.linkConnected := by
  unfold linkConnected askLogin
  split
  · exact ⟨rfl, Or.inr rfl, Or.inl rfl, rfl, rfl, fun _ => Or.inr fun _ => rfl⟩
  · rename_i hregist
    exact ⟨rfl, Or.inl rfl, Or.inl rfl, rfl, rfl,
      fun _ => Or.inr fun h => absurd h hregist⟩

theorem effect_dialMove (t : Terminal) (r : LineResult) :
    t.Effect (t.dialMove r) := by
  unfold dialMove
  split
  · exact .of_view rfl
  · split
    case h_7 =>
        obtain ⟨hview, hoperate, hend, hcounter, hwdg, honline⟩ :=
          effect_nextOnOk t r .dnsr1
        exact ⟨hview, hoperate, hend, hcounter, hwdg, honline⟩
    case h_10 =>
        split
        · exact .of_view rfl
        · split
          · exact effect_linkConnected t
          · exact .of_view rfl
    case h_11 =>
        split
        · exact .of_view rfl
        · split
          · exact effect_linkConnected t
          · exact .of_view rfl
    case h_12 =>
        split
        · exact .of_view rfl
        · split <;> exact .of_view rfl
    case h_13 => exact .of_view rfl
    case h_14 => exact .of_view rfl
    all_goals exact effect_nextOnOk t r _

/-- Only the step `dialInit6` begins to count the attempts anew. -/
theorem sdAdd_dialMove (t : Terminal) (r : LineResult)
    (h6 : t.modem.dial.dialStep ≠ .dialInit6) :
    (t.dialMove r).app.link.devRegistSdAdd = t.app.link.devRegistSdAdd ∧
      (t.dialMove r).app.link.devLoginSdAdd = t.app.link.devLoginSdAdd := by
  unfold dialMove nextOnOk
  split
  · exact ⟨rfl, rfl⟩
  · split
    case h_7 => exact absurd ‹t.modem.dial.dialStep = .dialInit6› h6
    all_goals first
      | exact ⟨rfl, rfl⟩
      | (split <;> exact ⟨rfl, rfl⟩)
      | (split
         · exact ⟨rfl, rfl⟩
         · split
           · first
             | exact ⟨rfl, rfl⟩
             | (unfold linkConnected askLogin
                split <;> exact ⟨rfl, rfl⟩)
           · exact ⟨rfl, rfl⟩)

/-- What the functions that look at a line all preserve. -/
structure LinesKeep (P : Terminal → Prop) : Prop where
  modemStart : ∀ {t : Terminal} (rx : List UInt8), P t → P (t.lineModemStart rx)
  playEnd : ∀ {t : Terminal}, P t → P t.ttsPlayEnd
  link : ∀ {t : Terminal} (rx : List UInt8), P t → P (t.lineLink rx)
  ok : ∀ {t : Terminal} (rx : List UInt8) (r : LineResult), P t →
    P (t.lineOk rx r).1
  call : ∀ {t : Terminal} (rx : List UInt8) (r : LineResult), P t →
    P (t.lineCall rx r).1
  card : ∀ {t : Terminal} (rx : List UInt8) (r : LineResult), P t →
    P (t.lineCard rx r).1
  errors : ∀ {t : Terminal} (rx : List UInt8) (r : LineResult), P t →
    P (t.lineErrors rx r).1

/-- `GSM_Process` looks at the line, and then moves the dial on or not. -/
theorem LinesKeep.gsmProcess {P : Terminal → Prop} (h : LinesKeep P)
    {t : Terminal} (ht : P t) (rx : List UInt8) :
    ∃ u, P u ∧ (t.gsmProcess rx = u ∨ ∃ r, t.gsmProcess rx = u.dialMove r) := by
  have hstart := h.modemStart rx ht
  unfold Terminal.gsmProcess
  generalize t.lineModemStart rx = s at hstart ⊢
  by_cases hdata : lineIs rx "%RECFGET: " 9 = true ∨
      lineIs rx "%IPDATA:1" 9 = true ∨ lineIs rx "%RECSTOP:" 9 = true
  · exact ⟨s, hstart, Or.inr ⟨{}, if_pos hdata⟩⟩
  · rw [if_neg hdata]
    have hend : P (if lineIs rx "%TTS: 0" 7 then s.ttsPlayEnd else s) := by
      split
      · exact h.playEnd hstart
      · exact hstart
    dsimp only
    generalize (if lineIs rx "%TTS: 0" 7 then s.ttsPlayEnd else s) = e at hend ⊢
    have hok := h.ok rx {} (h.link rx hend)
    split
    · rw [‹(e.lineLink rx).lineOk rx {} = _›] at hok
      exact ⟨_, hok, Or.inl rfl⟩
    · rename_i u r heq
      rw [heq] at hok
      have hcard := h.card rx (u.lineCall rx r).2 (h.call rx r hok)
      have herrors := h.errors rx
        ((u.lineCall rx r).1.lineCard rx (u.lineCall rx r).2).2 hcard
      split
      · rename_i v herr
        rw [herr] at herrors
        exact ⟨v, herrors, Or.inl rfl⟩
      · rename_i v q herr
        rw [herr] at herrors
        exact ⟨v, herrors, Or.inr ⟨q, rfl⟩⟩

theorem linesKeep_keeps (t : Terminal) : LinesKeep t.Keeps where
  modemStart := fun rx h => h.trans (keeps_lineModemStart _ rx)
  playEnd := fun h => h.trans (.of_same rfl rfl)
  link := fun rx h => h.trans (keeps_lineLink _ rx)
  ok := fun rx r h => h.trans (keeps_lineOk _ rx r)
  call := fun rx r h => h.trans (keeps_lineCall _ rx r)
  card := fun rx r h => h.trans (keeps_lineCard _ rx r)
  errors := fun rx r h => h.trans (keeps_lineErrors _ rx r)

/-- A turn of the modem thread looks at the line and moves the dial on, and goes
on with the dial. -/
theorem gsmTurn_cases (t : Terminal) (line : Option (List UInt8)) :
    ∃ u, t.Keeps u ∧ (t.gsmTurn line = u.gsmThreadTurn ∨
      ∃ r, t.gsmTurn line = (u.dialMove r).gsmThreadTurn) := by
  have hstart := keeps_gsmModuleTotalInitial t
  unfold gsmTurn
  cases line with
  | none => exact ⟨_, hstart, Or.inl rfl⟩
  | some rx =>
      obtain ⟨u, hu, hprocess⟩ := (linesKeep_keeps t).gsmProcess hstart rx
      refine ⟨u, hu, ?_⟩
      dsimp only
      rcases hprocess with heq | ⟨r, heq⟩
      · exact Or.inl (by rw [heq])
      · exact Or.inr ⟨r, by rw [heq]⟩

theorem effect_gsmTurn (t : Terminal) (line : Option (List UInt8)) :
    t.Effect (t.gsmTurn line) := by
  obtain ⟨u, hu, heq | ⟨r, heq⟩⟩ := gsmTurn_cases t line
  · rw [heq]
    exact hu.toEffect.trans (keeps_gsmThreadTurn u).toEffect
  · rw [heq]
    exact (hu.toEffect.trans (effect_dialMove u r)).trans
      (keeps_gsmThreadTurn _).toEffect

theorem sdAdd_gsmTurn (t : Terminal) (line : Option (List UInt8))
    (h6 : t.modem.dial.dialStep ≠ .dialInit6) :
    (t.gsmTurn line).app.link.devRegistSdAdd = t.app.link.devRegistSdAdd ∧
      (t.gsmTurn line).app.link.devLoginSdAdd = t.app.link.devLoginSdAdd := by
  obtain ⟨u, hu, heq | ⟨r, heq⟩⟩ := gsmTurn_cases t line
  · have hturn := keeps_gsmThreadTurn u
    rw [heq, hturn.registSdAdd, hturn.loginSdAdd]
    exact ⟨hu.registSdAdd, hu.loginSdAdd⟩
  · have hturn := keeps_gsmThreadTurn (u.dialMove r)
    obtain ⟨hregist, hlogin⟩ := sdAdd_dialMove u r fun h => h6 (hu.dialStep h)
    rw [heq, hturn.registSdAdd, hturn.loginSdAdd, hregist, hlogin]
    exact ⟨hu.registSdAdd, hu.loginSdAdd⟩

/-! ## The timer -/

/-- What the timer of the modem thread leaves alone. -/
def sessionView (t : Terminal) : AppView × UInt8 × UInt8 × UInt8 :=
  (t.appView, t.app.link.devLoginOperateEnable, t.app.link.devRegistSdAdd,
    t.app.link.devLoginSdAdd)

@[simp] theorem sessionView_gprsGsmPowerOn (t : Terminal) :
    t.gprsGsmPowerOn.sessionView = t.sessionView := by
  unfold gprsGsmPowerOn
  dsimp only
  split
  · rfl
  · split <;> rfl

@[simp] theorem sessionView_closeSockets (t : Terminal) :
    t.closeSockets.sessionView = t.sessionView := by
  unfold closeSockets
  split
  · rfl
  · split
    · rfl
    · split <;> rfl

@[simp] theorem sessionView_hangUp (t : Terminal) :
    t.hangUp.sessionView = t.sessionView := by
  unfold hangUp
  split
  · rfl
  · split <;> rfl

@[simp] theorem sessionView_endDatalink (t : Terminal) :
    t.endDatalink.sessionView = t.sessionView := by
  unfold endDatalink
  split
  · rw [sessionView_hangUp, sessionView_closeSockets]
    rfl
  · rfl

@[simp] theorem sessionView_ispTimer (t : Terminal) :
    t.ispTimer.sessionView = t.sessionView := by
  have hready : t.readyDialTimer.sessionView = t.sessionView := by
    unfold readyDialTimer
    split
    · dsimp only
      split <;> rfl
    · rfl
  rw [ispTimer, ← hready]
  unfold tcp2HeartTimer
  split
  · dsimp only
    split <;> rfl
  · rfl

@[simp] theorem sessionView_ttsExceptionTimeLimt (t : Terminal) :
    t.ttsExceptionTimeLimt.sessionView = t.sessionView := by
  unfold ttsExceptionTimeLimt
  dsimp only
  split
  · split <;> rfl
  · rfl

@[simp] theorem sessionView_rstWriteAcConoffCounter (t : Terminal) :
    t.rstWriteAcConoffCounter.sessionView = t.sessionView := by
  unfold rstWriteAcConoffCounter
  split <;> rfl

@[simp] theorem sessionView_closeSlowDial (t : Terminal) :
    t.closeSlowDial.sessionView = t.sessionView := by
  unfold closeSlowDial
  split <;> rfl

@[simp] theorem sessionView_resetSlowDial (t : Terminal) :
    t.resetSlowDial.sessionView = t.sessionView := by
  unfold resetSlowDial
  split
  · exact sessionView_rstWriteAcConoffCounter _
  · rfl

@[simp] theorem sessionView_dialLinkTimeOutProcess (t : Terminal) :
    t.dialLinkTimeOutProcess.sessionView = t.sessionView := by
  unfold dialLinkTimeOutProcess
  split
  · rw [sessionView_resetSlowDial, sessionView_closeSlowDial]
    rfl
  · rfl

theorem sessionView_timeoutGsm (t : Terminal) :
    t.timeoutGsm.sessionView = t.sessionView := by
  simp only [timeoutGsm, sessionView_gprsGsmPowerOn, sessionView_endDatalink,
    sessionView_ispTimer, sessionView_ttsExceptionTimeLimt,
    sessionView_dialLinkTimeOutProcess]

theorem sessionView_eq_iff {t u : Terminal} :
    u.sessionView = t.sessionView ↔
      u.appView = t.appView ∧
      u.app.link.devLoginOperateEnable = t.app.link.devLoginOperateEnable ∧
      u.app.link.devRegistSdAdd = t.app.link.devRegistSdAdd ∧
      u.app.link.devLoginSdAdd = t.app.link.devLoginSdAdd := by
  simp only [sessionView, Prod.mk.injEq]

theorem appView_timeoutGsm (t : Terminal) :
    t.timeoutGsm.appView = t.appView :=
  (sessionView_eq_iff.mp (sessionView_timeoutGsm t)).1

@[simp] theorem online_gprsGsmPowerOn (t : Terminal) :
    t.gprsGsmPowerOn.app.link.dataLinkOnline = t.app.link.dataLinkOnline := by
  unfold gprsGsmPowerOn
  dsimp only
  split
  · rfl
  · split <;> rfl

@[simp] theorem online_ispTimer (t : Terminal) :
    t.ispTimer.app.link.dataLinkOnline = t.app.link.dataLinkOnline := by
  have hready : t.readyDialTimer.app = t.app := by
    unfold readyDialTimer
    split
    · dsimp only
      split <;> rfl
    · rfl
  rw [ispTimer, ← hready]
  unfold tcp2HeartTimer
  split
  · dsimp only
    split <;> rfl
  · rfl

@[simp] theorem online_ttsExceptionTimeLimt (t : Terminal) :
    t.ttsExceptionTimeLimt.app.link.dataLinkOnline =
      t.app.link.dataLinkOnline := by
  unfold ttsExceptionTimeLimt
  dsimp only
  split
  · split <;> rfl
  · rfl

@[simp] theorem online_dialLinkTimeOutProcess (t : Terminal) :
    t.dialLinkTimeOutProcess.app.link.dataLinkOnline =
      t.app.link.dataLinkOnline := by
  have hclose (t : Terminal) : t.closeSlowDial.app = t.app := by
    unfold closeSlowDial
    split <;> rfl
  have hreset (t : Terminal) :
      t.resetSlowDial.app.link.dataLinkOnline = t.app.link.dataLinkOnline := by
    unfold resetSlowDial rstWriteAcConoffCounter
    split
    · split <;> rfl
    · rfl
  unfold dialLinkTimeOutProcess
  split
  · rw [hreset, hclose]
  · rfl

/-- Closing sets the link offline. -/
theorem online_endDatalink (t : Terminal) :
    t.endDatalink.app.link.dataLinkOnline =
      if t.modem.dataLinkEndFlag = 1 then 0 else t.app.link.dataLinkOnline := by
  have hsockets (t : Terminal) : t.closeSockets.app = t.app := by
    unfold closeSockets
    split
    · rfl
    · split
      · rfl
      · split <;> rfl
  have hhang (t : Terminal) :
      t.hangUp.app.link.dataLinkOnline = t.app.link.dataLinkOnline := by
    unfold hangUp
    split
    · rfl
    · split <;> rfl
  unfold endDatalink
  split
  · rw [hhang, hsockets]
  · rfl

/-- The timer sets no link online. -/
theorem online_timeoutGsm (t : Terminal)
    (h : t.timeoutGsm.app.link.dataLinkOnline ≠ 0) :
    t.app.link.dataLinkOnline ≠ 0 := by
  rw [timeoutGsm, online_dialLinkTimeOutProcess, online_ttsExceptionTimeLimt,
    online_ispTimer, online_endDatalink, online_gprsGsmPowerOn] at h
  split at h
  · exact absurd rfl h
  · exact h

end Terminal

end VehicleRecorder.Protocol
