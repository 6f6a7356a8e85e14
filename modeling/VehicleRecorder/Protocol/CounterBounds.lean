import VehicleRecorder.Protocol.LoginRuns

/-!
# The counters of the link

The timers and the retries of the link count in variables of one or two bytes.
In every run each of them stays below the value at which it is taken back, so
that none overflows.
-/

namespace VehicleRecorder.Protocol

open Dataflash

/-- The counters of the modem thread, of its timer, and of registration and
login. -/
structure Counters where
  endCounter : UInt8
  dialStepRetry : UInt8
  dialStepRetryTimer : ℕ
  startDialCounter : ℕ
  onlineErrorCounter : UInt8
  copsCouter : UInt8
  imsiErrorCount : UInt8
  executeCouter : UInt8
  tcp2Coutner : UInt8
  readyDialCounter2 : ℕ
  gsmPowerCounter : ℕ
  registTimer : RetryTimer
  loginTimer : RetryTimer

/-- No counter is beyond the value at which it is taken back. -/
structure Counters.Bounded (c : Counters) : Prop where
  endCounter : c.endCounter ≤ 10
  dialStepRetry : c.dialStepRetry ≤ 4
  dialStepRetryTimer : c.dialStepRetryTimer ≤ 3000
  startDialCounter : c.startDialCounter ≤ 300
  onlineErrorCounter : c.onlineErrorCounter ≤ 3
  copsCouter : c.copsCouter < 3
  imsiErrorCount : c.imsiErrorCount ≤ 10
  executeCouter : c.executeCouter ≤ 15
  tcp2Coutner : c.tcp2Coutner < 50
  readyDialCounter2 : c.readyDialCounter2 ≤ 5
  gsmPowerCounter : c.gsmPowerCounter < 1200
  registTimer : c.registTimer.Bounded
  loginTimer : c.loginTimer.Bounded

namespace Terminal

def counters (t : Terminal) : Counters where
  endCounter := t.modem.dataLinkEndCounter
  dialStepRetry := t.modem.dial.dialStepRetry
  dialStepRetryTimer := t.modem.dial.dialStepRetryTimer
  startDialCounter := t.modem.dial.startDialCounter
  onlineErrorCounter := t.modem.onlineErrorCounter
  copsCouter := t.modem.copsCouter
  imsiErrorCount := t.modem.imsiGet.imsiErrorCount
  executeCouter := t.modem.commAt.executeCouter
  tcp2Coutner := t.modem.tcp2Coutner
  readyDialCounter2 := t.modem.readyDialCounter2
  gsmPowerCounter := t.modem.gsmPowerCounter
  registTimer := t.registTimer
  loginTimer := t.loginTimer

/-! ## The dial -/

theorem bounded_dialStage {t : Terminal} (h : t.counters.Bounded)
    (stage : DialStage) : (t.dialStage stage).counters.Bounded :=
  { h with
    dialStepRetry := (by decide : (0 : UInt8) ≤ 4)
    dialStepRetryTimer := (by decide : dialRetryTime ≤ 3000) }

theorem bounded_redialInit {t : Terminal} (h : t.counters.Bounded) :
    t.redialInit.counters.Bounded :=
  bounded_dialStage (t := { t with modem.dial := {
      startDialStateFlag := 1
      dialOn := 1 } })
    { h with
      dialStepRetry := (by decide : (0 : UInt8) ≤ 4)
      dialStepRetryTimer := Nat.zero_le 3000
      startDialCounter := Nat.zero_le 300 } .dialInit0

theorem bounded_cutDataLink {t : Terminal} (h : t.counters.Bounded)
    (str : String) : (t.cutDataLink str).counters.Bounded :=
  { h with
    dialStepRetry := (by decide : (0 : UInt8) ≤ 4)
    dialStepRetryTimer := (by decide : dialRetryTime ≤ 3000) }

theorem bounded_dialTry {t : Terminal} (h : t.counters.Bounded) {timer : ℕ}
    (htimer : timer ≤ 3000) (hretry : t.modem.dial.dialStepRetry < 4)
    (c : AtCommand) : (t.dialTry timer c).counters.Bounded :=
  { h with
    dialStepRetry := by
      have hfour : (4 : UInt8).toNat = 4 := rfl
      have hone : (1 : UInt8).toNat = 1 := rfl
      have hless := UInt8.lt_iff_toNat_lt.mp hretry
      refine UInt8.le_iff_toNat_le.mpr ?_
      change (t.modem.dial.dialStepRetry + 1).toNat ≤ _
      rw [UInt8.toNat_add, hone, hfour, Nat.mod_eq_of_lt (by omega)]
      omega
    dialStepRetryTimer := htimer }

theorem bounded_dialStepAction {t : Terminal} (h : t.counters.Bounded)
    (hretry : t.modem.dial.dialStepRetry < 4) :
    t.dialStepAction.counters.Bounded := by
  unfold dialStepAction
  split
  case h_1 =>
      exact bounded_dialTry (t := { t with modem.dial.startDialStateFlag := 1 })
        h (by decide) hretry _
  case h_11 =>
      dsimp only
      split
      · exact bounded_dialTry (t := { t with modem.link1 :=
          (t.app.link.remoteIpMain, t.app.link.remotePortMain) }) h (by decide)
          hretry _
      · exact bounded_dialTry h (by decide) hretry _
  case h_14 => exact h
  all_goals exact bounded_dialTry h (by decide) hretry _

theorem bounded_giveUpMainLink {t : Terminal} (h : t.counters.Bounded)
    (hretry : t.modem.dial.dialStepRetry < 4) :
    t.giveUpMainLink.counters.Bounded ∧
      t.giveUpMainLink.modem.dial.dialStepRetry < 4 := by
  unfold giveUpMainLink
  split
  · split
    · exact ⟨bounded_dialStage h .mainLnk, (by decide : (0 : UInt8) < 4)⟩
    · exact ⟨bounded_dialStage (t := t.output (.str "AT%IPCLOSE=1\r\n")) h .auxLnk,
        (by decide : (0 : UInt8) < 4)⟩
  · exact ⟨h, hretry⟩

theorem bounded_dataLinkProcess {t : Terminal} (h : t.counters.Bounded) :
    t.dataLinkProcess.counters.Bounded := by
  unfold dataLinkProcess
  split
  · exact h
  · split
    · exact h
    · split
      · dsimp only
        split
        · exact { bounded_dialStage h .mainLnk with
            dialStepRetryTimer := Nat.zero_le 3000 }
        · exact { bounded_dialStage h .dialInit0 with
            dialStepRetryTimer := Nat.zero_le 3000 }
      · rename_i hmore
        have hretry : t.modem.dial.dialStepRetry < 4 := UInt8.not_le.mp hmore
        obtain ⟨hgive, hretry'⟩ := bounded_giveUpMainLink h hretry
        exact bounded_dialStepAction hgive hretry'

theorem bounded_dialStepTimer {t : Terminal} (h : t.counters.Bounded) :
    t.dialStepTimer.counters.Bounded := by
  unfold dialStepTimer
  split
  · exact h
  · exact { h with
      dialStepRetryTimer :=
        Nat.le_trans (Nat.sub_le _ _) h.dialStepRetryTimer }

theorem bounded_ttsDataPlay {t : Terminal} (h : t.counters.Bounded) :
    t.ttsDataPlay.counters.Bounded := by
  unfold ttsDataPlay
  split
  · exact h
  · dsimp only
    split
    · split <;> exact h
    · split <;> exact h

theorem bounded_gsmModuleTotalInitial {t : Terminal} (h : t.counters.Bounded) :
    t.gsmModuleTotalInitial.counters.Bounded := by
  unfold gsmModuleTotalInitial
  dsimp only
  split
  · split
    · split <;> exact h
    · split
      · exact bounded_dialStage (t := { t with
          modem.commAt := { t.modem.commAt with
            initialStep := 0
            totalInitial := 0
            executeEnable := 0 }
          modem.dial.dialOn := 1 }) h .dialInit0
      · exact h
  · exact h

/-! ## The lines of the modem -/

theorem bounded_lineModemStart {t : Terminal} (h : t.counters.Bounded)
    (rx : List UInt8) : (t.lineModemStart rx).counters.Bounded := by
  unfold lineModemStart
  split
  · exact { h with gsmPowerCounter := (by decide : 0 < 1200) }
  · exact h

theorem bounded_lineLink {t : Terminal} (h : t.counters.Bounded)
    (rx : List UInt8) : (t.lineLink rx).counters.Bounded := by
  unfold lineLink
  split
  · split <;> exact h
  · split
    · exact h
    · split
      · exact h
      · split
        · dsimp only
          split <;> exact h
        · exact h

theorem bounded_lineCops {t : Terminal} (h : t.counters.Bounded)
    (rx : List UInt8) : (t.lineCops rx).counters.Bounded := by
  unfold lineCops
  split
  · extract_lets u
    have hu : u.counters.Bounded := by
      unfold u
      split
      · exact h
      · split <;> exact h
    exact hu
  · dsimp only
    split
    · exact { h with copsCouter := (by decide : (0 : UInt8) < 3) }
    · rename_i hless
      exact { h with copsCouter := UInt8.not_le.mp hless }

theorem bounded_lineCsq {t : Terminal} (h : t.counters.Bounded)
    (rx : List UInt8) : (t.lineCsq rx).counters.Bounded := by
  unfold lineCsq
  extract_lets digit sq modem u
  split <;> exact h

theorem bounded_lineTsim {t : Terminal} (h : t.counters.Bounded)
    (rx : List UInt8) : (t.lineTsim rx).counters.Bounded := by
  unfold lineTsim
  split
  · dsimp only
    split
    · exact { h with imsiErrorCount := (by decide : (0 : UInt8) ≤ 10) }
    · rename_i hless
      exact { h with imsiErrorCount := UInt8.not_lt.mp hless }
  · split <;> exact h

theorem bounded_lineImsi {t : Terminal} (h : t.counters.Bounded) :
    t.lineImsi.counters.Bounded :=
  { h with imsiErrorCount := (by decide : (0 : UInt8) ≤ 10) }

theorem bounded_countOnlineError {t : Terminal} (h : t.counters.Bounded) :
    t.countOnlineError.counters.Bounded := by
  unfold countOnlineError
  dsimp only
  split
  · exact { h with onlineErrorCounter := (by decide : (0 : UInt8) ≤ 3) }
  · rename_i hless
    exact { h with onlineErrorCounter := UInt8.not_lt.mp hless }

theorem bounded_lineOpenError {t : Terminal} (h : t.counters.Bounded) :
    t.lineOpenError.1.counters.Bounded := by
  unfold lineOpenError
  split
  · exact bounded_dialStage (t := t.output (.str "AT%IPCLOSE=1\r\n")) h .dnsr1
  · split
    · exact bounded_dialStage (t := t.output (.str "AT%IPCLOSE=1\r\n")) h
        .mainLnk
    · split
      · exact bounded_dialStage h .auxLnk
      · exact bounded_countOnlineError h

theorem bounded_lineError {t : Terminal} (h : t.counters.Bounded) :
    t.lineError.counters.Bounded := by
  unfold lineError
  dsimp only
  split
  · exact h
  · split
    · exact bounded_countOnlineError (t := { t with app.texts.callState := 0 }) h
    · exact h

theorem bounded_lineOk {t : Terminal} (h : t.counters.Bounded)
    (rx : List UInt8) (r : LineResult) : (t.lineOk rx r).1.counters.Bounded := by
  unfold lineOk
  split
  · split
    · exact h
    · exact bounded_dialStage (t := { t with modem.link1 :=
        ((str2ip (rx.drop 6)).2, t.app.link.remotePortMain) }) h .mainLnk
  · split
    · exact bounded_lineCops h rx
    · split
      · dsimp only
        split
        · exact { h with onlineErrorCounter := (by decide : (0 : UInt8) ≤ 3) }
        · exact h
      · split <;> exact h

theorem bounded_lineCall {t : Terminal} (h : t.counters.Bounded)
    (rx : List UInt8) (r : LineResult) :
    (t.lineCall rx r).1.counters.Bounded := by
  have hrest (u : Terminal) (q : LineResult) (hu : u.counters.Bounded) :
      (if lineEq rx "BUSY" then
          ({ u with app.texts.callState := 0 }, { q with failed := true })
        else if lineIs rx "+CSQ:" 5 then (u.lineCsq rx, q)
        else (u, q)).1.counters.Bounded := by
    split
    · exact hu
    · split
      · exact bounded_lineCsq hu rx
      · exact hu
  unfold lineCall
  by_cases hcarrier : lineIs rx "NO CARRIER" 10 = true
  · rw [if_pos hcarrier]
    exact hrest _ _ h
  · rw [if_neg hcarrier]
    exact hrest t r h

theorem bounded_lineCard {t : Terminal} (h : t.counters.Bounded)
    (rx : List UInt8) (r : LineResult) :
    (t.lineCard rx r).1.counters.Bounded := by
  unfold lineCard
  split
  · exact bounded_lineTsim h rx
  · split
    · exact bounded_lineImsi h
    · split
      · exact h
      · split <;> exact h

theorem bounded_lineErrors {t : Terminal} (h : t.counters.Bounded)
    (rx : List UInt8) (r : LineResult) :
    (t.lineErrors rx r).1.counters.Bounded := by
  have hfirst : (if lineIs rx "ERROR: 13" 9 then t.countOnlineError
      else t).counters.Bounded := by
    split
    · exact bounded_countOnlineError h
    · exact h
  unfold lineErrors
  generalize (if lineIs rx "ERROR: 13" 9 then t.countOnlineError else t) = u
    at hfirst ⊢
  dsimp only
  split
  · exact bounded_countOnlineError hfirst
  · split
    · have hopen := bounded_lineOpenError hfirst
      split
      · rwa [‹u.lineOpenError = _›] at hopen
      · rwa [‹u.lineOpenError = _›] at hopen
    · split
      · exact bounded_lineError hfirst
      · split <;> exact hfirst

theorem bounded_nextOnOk {t : Terminal} (h : t.counters.Bounded)
    (r : LineResult) (stage : DialStage) :
    (t.nextOnOk r stage).counters.Bounded := by
  unfold nextOnOk
  split
  · exact bounded_dialStage h stage
  · exact h

theorem bounded_linkConnected {t : Terminal} (h : t.counters.Bounded) :
    t.linkConnected.counters.Bounded := by
  have hask : t.askLogin.counters.Bounded := by
    unfold askLogin
    split <;> exact h
  have hcleared : ({ t.askLogin with
      app.link.dataLinkOnline := 1 }.dialLinkTimeOutClear).counters.Bounded :=
    { hask with startDialCounter := Nat.zero_le 300 }
  exact bounded_dialStage hcleared .idle

theorem bounded_dialMove {t : Terminal} (h : t.counters.Bounded)
    (r : LineResult) : (t.dialMove r).counters.Bounded := by
  have hretry : { t with modem.dial.dialStepRetryTimer :=
      dialRetryTime }.counters.Bounded :=
    { h with dialStepRetryTimer := (by decide : dialRetryTime ≤ 3000) }
  have hlink : (if r.failed = true ∨ r.error = true then
      { t with modem.dial.dialStepRetryTimer := dialRetryTime }
      else if r.connect = true then t.linkConnected else t).counters.Bounded := by
    split
    · exact hretry
    · split
      · exact bounded_linkConnected h
      · exact h
  unfold dialMove
  split
  · exact bounded_dialStage h .idle
  · split
    case h_7 =>
        have hnext := bounded_nextOnOk h r .dnsr1
        exact { hnext with
          registTimer := ⟨hnext.registTimer.sdCounter, Nat.zero_le 3⟩
          loginTimer := ⟨hnext.loginTimer.sdCounter, Nat.zero_le 3⟩ }
    case h_10 => exact hlink
    case h_11 => exact hlink
    case h_12 =>
        split
        · exact hretry
        · split
          · exact bounded_dialStage h .idle
          · exact h
    case h_13 => exact bounded_dialStage h .idle
    case h_14 => exact bounded_dialStage h .idle
    all_goals exact bounded_nextOnOk h r _

theorem linesKeep_bounded : LinesKeep fun t => t.counters.Bounded where
  modemStart := fun rx h => bounded_lineModemStart h rx
  playEnd := fun h => h
  link := fun rx h => bounded_lineLink h rx
  ok := fun rx r h => bounded_lineOk h rx r
  call := fun rx r h => bounded_lineCall h rx r
  card := fun rx r h => bounded_lineCard h rx r
  errors := fun rx r h => bounded_lineErrors h rx r

theorem bounded_gsmTurn {t : Terminal} (h : t.counters.Bounded)
    (line : Option (List UInt8)) : (t.gsmTurn line).counters.Bounded := by
  have hstart := bounded_gsmModuleTotalInitial h
  cases line with
  | none =>
      exact bounded_ttsDataPlay
        (bounded_dialStepTimer (bounded_dataLinkProcess hstart))
  | some rx =>
      have hline : (t.gsmModuleTotalInitial.gsmProcess rx).counters.Bounded := by
        obtain ⟨u, hu, heq | ⟨r, heq⟩⟩ := linesKeep_bounded.gsmProcess hstart rx
        · rw [heq]
          exact hu
        · rw [heq]
          exact bounded_dialMove hu r
      exact bounded_ttsDataPlay
        (bounded_dialStepTimer (bounded_dataLinkProcess hline))

/-! ## The timer of the modem -/

theorem bounded_gprsGsmPowerOn {t : Terminal} (h : t.counters.Bounded) :
    t.gprsGsmPowerOn.counters.Bounded := by
  unfold gprsGsmPowerOn
  split
  · exact h
  · dsimp only
    split
    · exact { h with gsmPowerCounter := (by decide : 0 < 1200) }
    · rename_i hless
      exact { h with gsmPowerCounter := Nat.not_le.mp hless }

/-- The second of a closing may be the eleventh. -/
theorem bounded_closeSockets {t : Terminal}
    (h : { t.counters with endCounter := 0 }.Bounded) :
    { t.closeSockets.counters with endCounter := 0 }.Bounded := by
  have hcut (str : String) :
      { (t.cutDataLink str).counters with endCounter := 0 }.Bounded :=
    { h with
      dialStepRetry := (by decide : (0 : UInt8) ≤ 4)
      dialStepRetryTimer := (by decide : dialRetryTime ≤ 3000) }
  unfold closeSockets
  split
  · exact hcut _
  · split
    · exact hcut _
    · split
      · exact hcut _
      · exact h

theorem bounded_hangUp {t : Terminal}
    (h : { t.counters with endCounter := 0 }.Bounded) :
    t.hangUp.counters.Bounded := by
  unfold hangUp
  split
  · rename_i height
    have hall : t.counters.Bounded :=
      { h with
        endCounter := by
          change t.modem.dataLinkEndCounter ≤ 10
          rw [height]
          decide }
    exact bounded_cutDataLink hall _
  · split
    · have hopen : ({ t with
          modem.dataLinkEndCounter := 0
          modem.dataLinkEndFlag := 0
          modem.commAt.initialStep := 0
          modem.commAt.totalInitial := 0
          app.link.moduleStatus :=
            t.app.link.moduleStatus &&& 0xfd } : Terminal).counters.Bounded := h
      exact bounded_redialInit hopen
    · rename_i hless
      exact { h with endCounter := UInt8.not_lt.mp hless }

theorem bounded_endDatalink {t : Terminal} (h : t.counters.Bounded) :
    t.endDatalink.counters.Bounded := by
  unfold endDatalink
  split
  · refine bounded_hangUp (bounded_closeSockets ?_)
    exact { h with endCounter := (by decide : (0 : UInt8) ≤ 10) }
  · exact h

theorem bounded_ispTimer {t : Terminal} (h : t.counters.Bounded) :
    t.ispTimer.counters.Bounded := by
  have hready : t.readyDialTimer.counters.Bounded := by
    unfold readyDialTimer
    split
    · dsimp only
      split
      · exact bounded_dialStage (t := { t with
            modem.readyDialCounter2 := 0
            modem.dial.dialOn := 1 })
          { h with readyDialCounter2 := Nat.zero_le 5 } .isp
      · rename_i hless
        exact { h with readyDialCounter2 := Nat.not_lt.mp hless }
    · exact h
  unfold ispTimer tcp2HeartTimer
  split
  · dsimp only
    split
    · exact { hready with tcp2Coutner := (by decide : (0 : UInt8) < 50) }
    · rename_i hless
      exact { hready with tcp2Coutner := UInt8.not_le.mp hless }
  · exact hready

theorem bounded_ttsExceptionTimeLimt {t : Terminal}
    (h : t.counters.Bounded) : t.ttsExceptionTimeLimt.counters.Bounded := by
  unfold ttsExceptionTimeLimt
  split
  · dsimp only
    split <;> exact h
  · exact h

theorem bounded_dialLinkTimeOutProcess {t : Terminal}
    (h : t.counters.Bounded) : t.dialLinkTimeOutProcess.counters.Bounded := by
  have hclose {t : Terminal} (h : { t.counters with
      startDialCounter := 0 }.Bounded) :
      { t.closeSlowDial.counters with startDialCounter := 0 }.Bounded := by
    unfold closeSlowDial
    split <;> exact h
  have hreset {t : Terminal} (h : { t.counters with
      startDialCounter := 0 }.Bounded) : t.resetSlowDial.counters.Bounded := by
    unfold resetSlowDial
    split
    · unfold rstWriteAcConoffCounter
      split <;> exact h
    · rename_i hless
      exact { h with startDialCounter := Nat.not_lt.mp hless }
  have hzero : { t.counters with startDialCounter := 0 }.Bounded :=
    { h with startDialCounter := Nat.zero_le 300 }
  unfold dialLinkTimeOutProcess
  split
  · exact hreset (hclose hzero)
  · exact hzero

theorem bounded_timeoutGsm {t : Terminal} (h : t.counters.Bounded) :
    t.timeoutGsm.counters.Bounded :=
  bounded_dialLinkTimeOutProcess <| bounded_ttsExceptionTimeLimt <|
    bounded_ispTimer <| bounded_endDatalink <| bounded_gprsGsmPowerOn h

/-! ## The application -/

theorem bounded_commAtTimer {t : Terminal} (h : t.counters.Bounded) :
    t.commAtTimer.counters.Bounded := by
  unfold commAtTimer
  split
  · dsimp only
    split
    · exact { h with executeCouter := (by decide : (0 : UInt8) ≤ 15) }
    · rename_i hless
      exact { h with executeCouter := UInt8.not_lt.mp hless }
  · exact h

theorem bounded_deviceRegisterTimer {t : Terminal} (h : t.counters.Bounded) :
    t.deviceRegisterTimer.counters.Bounded := by
  unfold deviceRegisterTimer
  split
  · have htick : t.registTimer.tick.1.Bounded := h.registTimer.tick
    generalize t.registTimer.tick = v at htick ⊢
    obtain ⟨r, attempt, close⟩ := v
    dsimp only
    split <;> exact { h with registTimer := htick }
  · exact h

theorem bounded_deviceLoginTimer {t : Terminal} (h : t.counters.Bounded) :
    t.deviceLoginTimer.counters.Bounded := by
  unfold deviceLoginTimer
  split
  · have htick : t.loginTimer.tick.1.Bounded := h.loginTimer.tick
    generalize t.loginTimer.tick = v at htick ⊢
    obtain ⟨r, attempt, close⟩ := v
    dsimp only
    split <;> exact { h with loginTimer := htick }
  · exact h

theorem bounded_app808TickCounter {t : Terminal} (h : t.counters.Bounded) :
    t.app808TickCounter.counters.Bounded := by
  unfold app808TickCounter
  extract_lets counter flags u v flags'
  have hv : v.counters.Bounded := by
    unfold v
    split <;> exact h
  split <;> exact hv

theorem bounded_appSecond {t : Terminal} (h : t.counters.Bounded) :
    t.appSecond.counters.Bounded := by
  unfold appSecond
  dsimp only
  refine bounded_app808TickCounter ?_
  split
  · exact bounded_deviceLoginTimer (bounded_deviceRegisterTimer h)
  · exact h

theorem bounded_serve {t : Terminal} (h : t.counters.Bounded) (r : Request) :
    (t.serve r).counters.Bounded := by
  cases r with
  | media0801 =>
      rw [serve]
      split <;> exact h
  | recorder0700 =>
      rw [serve]
      split <;> exact h
  | commonAck0001 =>
      rw [serve, afterCommonAck]
      split <;> exact h
  | normal0200 =>
      rw [serve]
      split <;> exact h
  | _ => exact h

theorem bounded_appReport {t : Terminal} (h : t.counters.Bounded) :
    t.appReport.counters.Bounded := by
  cases hreport : Event.appTurn.reports t with
  | true =>
      have hcall : t.appReport = sendServer.call t := step_of_reports hreport
      rw [hcall]
      rcases report_cases t with heq | ⟨j, -, heq⟩
      · rw [heq]
        exact h
      · rw [heq]
        exact bounded_serve h j
  | false =>
      have hnot : ¬ (t.dataLinkStatus && t.callIdle) = true :=
        Bool.eq_false_iff.mp hreport
      rw [appReport, if_neg hnot]
      split <;> exact h

theorem sdAdd_afterDownlink_le (s : Session) (cmdId : ℕ) (rx : ℕ → UInt8) :
    (s.afterDownlink cmdId rx).registSdAdd.toNat ≤ s.registSdAdd.toNat ∧
      (s.afterDownlink cmdId rx).loginSdAdd.toNat ≤ s.loginSdAdd.toNat := by
  unfold Session.afterDownlink
  split
  · split
    · unfold Session.confirm
      split
      · exact ⟨Nat.le_refl _, Nat.le_refl _⟩
      · exact ⟨Nat.le_refl _, Nat.zero_le _⟩
      · exact ⟨Nat.le_refl _, Nat.le_refl _⟩
    · exact ⟨Nat.le_refl _, Nat.le_refl _⟩
  · unfold Session.registered
    split
    · exact ⟨Nat.zero_le _, Nat.le_refl _⟩
    · split <;> exact ⟨Nat.le_refl _, Nat.le_refl _⟩
    · exact ⟨Nat.le_refl _, Nat.le_refl _⟩
  · exact ⟨Nat.le_refl _, Nat.le_refl _⟩

theorem bounded_downlink {t : Terminal} (h : t.counters.Bounded)
    (linkNum : ℕ) (rx : RxState) :
    (t.step (.downlink linkNum rx)).counters.Bounded := by
  have hle : (t.step (.downlink linkNum rx)).app.session.registSdAdd.toNat ≤
        t.app.session.registSdAdd.toNat ∧
      (t.step (.downlink linkNum rx)).app.session.loginSdAdd.toNat ≤
        t.app.session.loginSdAdd.toNat := by
    rcases session_downlink t linkNum rx with heq | ⟨cmdId, hexRx, hafter⟩
    · rw [heq]
      exact ⟨Nat.le_refl _, Nat.le_refl _⟩
    · rw [hafter]
      exact sdAdd_afterDownlink_le _ _ _
  exact { h with
    registTimer := ⟨h.registTimer.sdCounter,
      Nat.le_trans hle.1 h.registTimer.sdAdd⟩
    loginTimer := ⟨h.loginTimer.sdCounter,
      Nat.le_trans hle.2 h.loginTimer.sdAdd⟩ }

/-! ## Runs -/

theorem bounded_step {t : Terminal} (h : t.counters.Bounded) (e : Event) :
    (t.step e).counters.Bounded := by
  cases e with
  | downlink n rx => exact bounded_downlink h n rx
  | appTurn => exact bounded_appReport h
  | appSecond => exact bounded_appSecond h
  | appTick => exact bounded_commAtTimer h
  | gsmTurn line => exact bounded_gsmTurn h line
  | gsmSecond =>
      rw [step_gsmSecond]
      exact bounded_timeoutGsm h
  | _ => exact h

end Terminal

end VehicleRecorder.Protocol
