import VehicleRecorder.Protocol.RequestRuns

/-!
# Login and registration over a run

Position reports from the store and media go out only behind a login that the
platform has confirmed, and a terminal that is registered asks for a new login
whenever its link comes up.  An attempt that is not answered is made again, and
the link is closed after the fourth one.
-/

namespace VehicleRecorder.Protocol

open Bytes

namespace Terminal

/-! ## The steps and the login -/

/-- The general answer that confirms a login. -/
def Event.confirmsLogin : Event → Bool
  | .downlink _ rx =>
      (tcpRxCheck rx).2 && (tcpRxCheck rx).1.centreCmdID = 0x8001 &&
        (tcpRxCheck rx).1.hexRx 17 = 0 &&
          be16 (tcpRxCheck rx).1.hexRx 15 = 0x0102
  | _ => false

theorem operateEnable_confirm {s : Session} (hs : s.operateEnable ≠ 2)
    {id : ℕ} (h : (s.confirm id).operateEnable = 2) : id = 0x0102 := by
  unfold Session.confirm at h
  split at h
  · exact absurd h hs
  · rfl
  · exact absurd h hs

theorem operateEnable_registered {s : Session} (hs : s.operateEnable ≠ 2)
    (result : UInt8) : (s.registered result).operateEnable ≠ 2 := by
  unfold Session.registered
  split
  · exact (by decide : (1 : UInt8) ≠ 2)
  · split
    · exact (by decide : (1 : UInt8) ≠ 2)
    · exact hs
  · exact hs

theorem confirmsLogin_of_downlink {t : Terminal} (linkNum : ℕ) (rx : RxState)
    (ht : t.app.link.devLoginOperateEnable ≠ 2)
    (h : (t.step (.downlink linkNum rx)).app.link.devLoginOperateEnable = 2) :
    (Event.downlink linkNum rx).confirmsLogin = true := by
  cases hok : (tcpRxCheck rx).2 with
  | false =>
      rw [step_downlink_of_rejected hok] at h
      exact absurd h ht
  | true =>
      have hsession := AppState.session_commandSwitch
        (tcpRxCheck rx).1.centreCmdID linkNum (tcpRxCheck rx).1.hexRx t.app
      have hafter : (t.app.session.afterDownlink (tcpRxCheck rx).1.centreCmdID
          (tcpRxCheck rx).1.hexRx).operateEnable = 2 := by
        rw [← hsession]
        rwa [step, tcpRxProcess_of_accepted hok] at h
      simp only [Event.confirmsLogin, hok, Bool.true_and]
      unfold Session.afterDownlink at hafter
      split at hafter
      · rename_i hcmd
        split at hafter
        · rename_i hresult
          have hid := operateEnable_confirm ht hafter
          simp [hcmd, hresult, hid]
        · exact absurd hafter ht
      · exact absurd hafter (operateEnable_registered ht _)
      · exact absurd hafter ht

/-- A branch changes the link and the registration in no way. -/
theorem link_serve (t : Terminal) (r : Request) :
    (t.serve r).app.link = t.app.link ∧
      (t.serve r).app.conf.regsiterStatus = t.app.conf.regsiterStatus ∧
      (t.serve r).login.sdCounter = t.login.sdCounter ∧
      (t.serve r).regist.sdCounter = t.regist.sdCounter := by
  cases r with
  | media0801 =>
      rw [serve]
      split <;> exact ⟨rfl, rfl, rfl, rfl⟩
  | recorder0700 =>
      rw [serve]
      split <;> exact ⟨rfl, rfl, rfl, rfl⟩
  | commonAck0001 =>
      rw [serve, afterCommonAck]
      split <;> exact ⟨rfl, rfl, rfl, rfl⟩
  | normal0200 =>
      rw [serve]
      split <;> exact ⟨rfl, rfl, rfl, rfl⟩
  | _ => exact ⟨rfl, rfl, rfl, rfl⟩

theorem link_appReport (t : Terminal) :
    t.appReport.app.link = t.app.link ∧
      t.appReport.app.conf.regsiterStatus = t.app.conf.regsiterStatus ∧
      t.appReport.login.sdCounter = t.login.sdCounter ∧
      t.appReport.regist.sdCounter = t.regist.sdCounter := by
  cases hreport : Event.appTurn.reports t with
  | true =>
      have hcall : t.appReport = sendServer.call t := step_of_reports hreport
      rw [hcall]
      rcases report_cases t with heq | ⟨j, -, heq⟩
      · rw [heq]
        exact ⟨rfl, rfl, rfl, rfl⟩
      · rw [heq]
        exact link_serve t j
  | false =>
      have hnot : ¬ (t.dataLinkStatus && t.callIdle) = true :=
        Bool.eq_false_iff.mp hreport
      rw [appReport, if_neg hnot]
      split <;> exact ⟨rfl, rfl, rfl, rfl⟩

theorem app_commAtTimer (t : Terminal) : t.commAtTimer.app = t.app := by
  unfold commAtTimer
  dsimp only
  split
  · split <;> rfl
  · rfl

/-- Only the confirmation of a login logs the terminal in. -/
theorem confirmsLogin_of_step {t : Terminal} {e : Event}
    (ht : ¬ t.loggedIn = true) (h : (t.step e).loggedIn = true) :
    e.confirmsLogin = true := by
  have ht' : t.app.link.devLoginOperateEnable ≠ 2 :=
    fun heq => ht (decide_eq_true heq)
  have h' : (t.step e).app.link.devLoginOperateEnable = 2 := of_decide_eq_true h
  have hsame {u : Terminal} (hu : u.app.link.devLoginOperateEnable =
      t.app.link.devLoginOperateEnable)
      (hu' : u.app.link.devLoginOperateEnable = 2) : False :=
    ht' (hu.symm.trans hu')
  cases e with
  | downlink n rx => exact confirmsLogin_of_downlink n rx ht' h'
  | appTurn =>
      exact (hsame (congrArg Link.devLoginOperateEnable (link_appReport t).1)
        h').elim
  | appSecond => exact (hsame (ticks_appSecond t).operateEnable h').elim
  | appTick =>
      exact (hsame (congrArg (fun s : AppState => s.link.devLoginOperateEnable)
        (app_commAtTimer t)) h').elim
  | gsmTurn line =>
      rcases (effect_gsmTurn t line).operateEnable with heq | hone
      · exact (hsame heq h').elim
      · exact absurd (hone.symm.trans h') (by decide)
  | gsmSecond =>
      rw [step_gsmSecond] at h'
      exact (hsame (sessionView_eq_iff.mp (sessionView_timeoutGsm t)).2.1
        h').elim
  | loginKey =>
      have hone : (1 : UInt8) = 2 := h'
      exact absurd hone (by decide)
  | registerKey => exact (hsame (u := t.step .registerKey) rfl h').elim
  | regsiterStatus v => exact (hsame (u := t.step (.regsiterStatus v)) rfl h').elim
  | socketMainSet => exact (hsame (u := t.step .socketMainSet) rfl h').elim
  | others t' => exact (hsame (u := t.step (.others t')) rfl h').elim

/-! ## Links that come up -/

/-- The link of a registered terminal comes up. -/
def ComesUp (t : Terminal) (e : Event) : Prop :=
  t.app.conf.regsiterStatus = 1 ∧ t.dataLinkStatus = false ∧
    (t.step e).dataLinkStatus = true

theorem online_afterDownlink {s : Session} {cmdId : ℕ} {rx : ℕ → UInt8}
    (h : (s.afterDownlink cmdId rx).online ≠ 0) : s.online ≠ 0 := by
  intro hoff
  refine h ?_
  unfold Session.afterDownlink
  split
  · split
    · unfold Session.confirm
      split
      · exact hoff
      · exact (if_neg (not_not_intro hoff)).trans hoff
      · exact hoff
    · exact hoff
  · unfold Session.registered
    split
    · exact hoff
    · split <;> exact hoff
    · exact hoff
  · exact hoff

theorem online_downlink {t : Terminal} {linkNum : ℕ} {rx : RxState}
    (h : (t.step (.downlink linkNum rx)).app.link.dataLinkOnline ≠ 0) :
    t.app.link.dataLinkOnline ≠ 0 := by
  cases hok : (tcpRxCheck rx).2 with
  | false => rwa [step_downlink_of_rejected hok] at h
  | true =>
      have hsession := AppState.session_commandSwitch
        (tcpRxCheck rx).1.centreCmdID linkNum (tcpRxCheck rx).1.hexRx t.app
      rw [step, tcpRxProcess_of_accepted hok] at h
      have hafter : (t.app.session.afterDownlink (tcpRxCheck rx).1.centreCmdID
          (tcpRxCheck rx).1.hexRx).online ≠ 0 := by
        rwa [← hsession]
      exact online_afterDownlink hafter

/-- A registered terminal whose link comes up is not logged in. -/
theorem not_loggedIn_of_comesUp {t : Terminal} {e : Event}
    (h : t.ComesUp e) : ¬ (t.step e).loggedIn = true := by
  obtain ⟨hregist, hoff, hon⟩ := h
  have hoff' : ¬ t.app.link.dataLinkOnline ≠ 0 := of_decide_eq_false hoff
  have hon' : (t.step e).app.link.dataLinkOnline ≠ 0 := of_decide_eq_true hon
  have hsame {u : Terminal}
      (hu : u.app.link.dataLinkOnline = t.app.link.dataLinkOnline)
      (hu' : u.app.link.dataLinkOnline ≠ 0) : False := hoff' (hu ▸ hu')
  cases e with
  | downlink n rx => exact absurd (online_downlink hon') hoff'
  | appTurn =>
      exact (hsame (congrArg Link.dataLinkOnline (link_appReport t).1)
        hon').elim
  | appSecond => exact (hsame (ticks_appSecond t).online hon').elim
  | appTick =>
      exact (hsame (congrArg (fun s : AppState => s.link.dataLinkOnline)
        (app_commAtTimer t)) hon').elim
  | gsmTurn line =>
      rcases (effect_gsmTurn t line).online hon' with hbefore | hasked
      · exact absurd hbefore hoff'
      · intro hin
        have htwo : (t.gsmTurn line).app.link.devLoginOperateEnable = 2 :=
          of_decide_eq_true hin
        exact absurd ((hasked hregist).symm.trans htwo) (by decide)
  | gsmSecond =>
      rw [step_gsmSecond] at hon'
      exact absurd (online_timeoutGsm t hon') hoff'
  | loginKey => exact (hsame (u := t.step .loginKey) rfl hon').elim
  | registerKey => exact (hsame (u := t.step .registerKey) rfl hon').elim
  | regsiterStatus v =>
      exact (hsame (u := t.step (.regsiterStatus v)) rfl hon').elim
  | socketMainSet => exact (hsame (u := t.step .socketMainSet) rfl hon').elim
  | others t' => exact (hsame (u := t.step (.others t')) rfl hon').elim

/-! ## Reports from the store and media -/

/-- What is sent behind a login only. -/
def Request.stored : List Request := [.media0801, .mediaInfo0800, .normal0200]

theorem loggedIn_of_guard {t : Terminal} {r : Request}
    (hr : r ∈ Request.stored) (h : t.guard r = true) : t.loggedIn = true := by
  cases r <;> first
    | exact absurd hr (by decide)
    | exact (Bool.and_eq_true_iff.mp h).2

/-- A message that leaves is that of a branch whose condition holds. -/
theorem guard_of_sent {t : Terminal} {e : Event} {r : Request}
    (h : (t.step e).sent = t.sent ++ [r]) : t.guard r = true := by
  have hne : (t.step e).sent ≠ t.sent := by
    intro heq
    rw [h] at heq
    simpa using congrArg List.length heq
  cases hreport : e.reports t with
  | false => exact absurd (step_of_not_reports hreport).1 hne
  | true =>
      have hcall := step_of_reports hreport
      rcases report_cases t with hidle | ⟨j, hguard, hserve⟩
      · exact absurd (by rw [hcall, hidle]) hne
      · rw [hcall, hserve] at h hne
        rcases sent_serve t j with hsame | hsent
        · exact absurd hsame hne
        · rw [hsent] at h
          have hjr : j = r := by simpa using List.append_cancel_left h
          exact hjr ▸ hguard

/-- In every order of the steps, a report from the store, or media, goes out
behind a confirmation of the login, and since then the link has not come up with
the terminal registered. -/
theorem confirmed_of_stored {t : Terminal} (ht : t.loggedIn = false)
    {es : List Event} {e : Event} {r : Request} (hr : r ∈ Request.stored)
    (h : (t.run (es ++ [e])).sent = (t.run es).sent ++ [r]) :
    ∃ es₁ c es₂, es = es₁ ++ c :: es₂ ∧ c.confirmsLogin = true ∧
      ∀ es₃ e', es₃ ++ [e'] <+: es₂ →
        ¬ (t.run (es₁ ++ c :: es₃)).ComesUp e' := by
  have hstep : ((t.run es).step e).sent = (t.run es).sent ++ [r] := by
    rwa [run, List.foldl_append] at h
  have hin : (t.run es).loggedIn = true :=
    loggedIn_of_guard hr (guard_of_sent hstep)
  obtain ⟨es₁, c, es₂, rfl, hbefore, hafter⟩ := Runs.exists_last_rise
    (p := fun t : Terminal => t.loggedIn = true) (by rw [ht]; decide) hin
  refine ⟨es₁, c, es₂, rfl, ?_, fun es₃ e' hpre hup => ?_⟩
  · refine confirmsLogin_of_step hbefore ?_
    have hrose := hafter [] List.nil_prefix
    rwa [List.foldl_append] at hrose
  · have hstays := hafter (es₃ ++ [e']) hpre
    rw [← List.cons_append, ← List.append_assoc, List.foldl_append] at hstays
    exact not_loggedIn_of_comesUp hup hstays

/-- A confirmed login, and the information about a picture behind it. -/
theorem confirmed_of_stored_picture :
    ∃ es₁ c es₂,
      [Event.downlink 0 (received (message 0x8001 [0, 0, 1, 2, 0]) 0)] =
          es₁ ++ c :: es₂ ∧ c.confirmsLogin = true ∧
        ∀ es₃ e', es₃ ++ [e'] <+: es₂ →
          ¬ (run { app.media.mediaObj.sdMediaFlag := 1
                   app.link.dataLinkOnline := 1 } (es₁ ++ c :: es₃)).ComesUp e' :=
  confirmed_of_stored (e := .appTurn) (r := .mediaInfo0800) (by decide)
    (by decide) (by decide)

/-! ## Attempts that are not answered -/

end Terminal

namespace RetryTimer

/-- The seconds since the first attempt was prepared. -/
def seconds (r : RetryTimer) : ℕ := 6 * r.sdAdd.toNat + r.sdCounter.toNat

/-- The timer never has more than five seconds and three attempts. -/
structure Bounded (r : RetryTimer) : Prop where
  sdCounter : r.sdCounter.toNat ≤ 5
  sdAdd : r.sdAdd.toNat ≤ 3

theorem Bounded.seconds_lt {r : RetryTimer} (h : r.Bounded) : r.seconds < 24 := by
  have hcounter := h.sdCounter
  have hadd := h.sdAdd
  rw [seconds]
  omega

theorem Bounded.tick {r : RetryTimer} (h : r.Bounded) : r.tick.1.Bounded := by
  obtain ⟨hcounter, hadd⟩ := h
  unfold RetryTimer.tick
  split
  · split
    · exact ⟨Nat.zero_le _, Nat.zero_le _⟩
    · rename_i hmore
      refine ⟨Nat.zero_le _, ?_⟩
      have hle : r.sdAdd + 1 ≤ 3 := UInt8.not_lt.mp hmore
      exact UInt8.le_iff_toNat_le.mp hle
  · rename_i hmore
    have hle : r.sdCounter + 1 ≤ 5 := UInt8.not_lt.mp hmore
    exact ⟨UInt8.le_iff_toNat_le.mp hle, hadd⟩

/-- A second in which the link is not closed is counted. -/
theorem seconds_tick {r : RetryTimer} (h : r.Bounded)
    (hopen : r.tick.2.2 = false) : r.tick.1.seconds = r.seconds + 1 := by
  obtain ⟨hcounter, hadd⟩ := h
  have hnext {v : UInt8} (hv : v.toNat ≤ 5) : (v + 1).toNat = v.toNat + 1 := by
    have hone : (1 : UInt8).toNat = 1 := rfl
    rw [UInt8.toNat_add, hone]
    exact Nat.mod_eq_of_lt (by omega)
  unfold RetryTimer.tick at hopen ⊢
  unfold seconds
  split at hopen
  · rename_i hattempt
    have hfive : 5 < (r.sdCounter + 1).toNat :=
      UInt8.lt_iff_toNat_lt.mp hattempt
    rw [hnext hcounter] at hfive
    split at hopen
    · cases hopen
    · rename_i hless
      rw [if_pos hattempt, if_neg hless]
      dsimp only
      rw [hnext (by omega)]
      have hzero : (0 : UInt8).toNat = 0 := rfl
      omega
  · rename_i hwait
    rw [if_neg hwait]
    dsimp only
    rw [hnext hcounter]
    omega

end RetryTimer

namespace Terminal

/-- The step is a second of the application. -/
def Event.isSecond : Event → Bool
  | .appSecond => true
  | _ => false

/-- A timer that only a second of the application moves, and that does not close
the link, has counted the seconds. -/
theorem seconds_le_of_awaits (timer : Terminal → RetryTimer)
    (awaits : Terminal → Prop)
    (hsecond : ∀ t, (timer t).Bounded → awaits t →
      awaits (t.step .appSecond) →
      timer (t.step .appSecond) = (timer t).tick.1 ∧
        (timer t).tick.2.2 = false)
    (hother : ∀ t e, e.isSecond = false → awaits t → awaits (t.step e) →
      timer (t.step e) = timer t)
    {t : Terminal} {es : List Event} (ht : (timer t).Bounded)
    (h : Runs.Meeting step (fun t _ => awaits t) t es) :
    (timer t).seconds + Runs.tally step (fun _ e => e.isSecond.toNat) t es ≤
      24 := by
  induction es generalizing t with
  | nil => exact Nat.le_of_lt ht.seconds_lt
  | cons e es ih =>
      rw [Runs.tally_cons]
      cases es with
      | nil =>
          have hlt := ht.seconds_lt
          have hone := Bool.toNat_le e.isSecond
          rw [Runs.tally_nil]
          omega
      | cons e' es =>
          have hnext := h.2.1
          cases hsec : e.isSecond with
          | true =>
              obtain rfl : e = .appSecond := by
                cases e <;> first | rfl | cases hsec
              obtain ⟨htick, hopen⟩ := hsecond t ht h.1 hnext
              have hcount := RetryTimer.seconds_tick ht hopen
              have hrest := ih (htick ▸ ht.tick) h.2
              rw [htick, hcount] at hrest
              rw [Bool.toNat_true]
              omega
          | false =>
              have hsame := hother t e hsec h.1 hnext
              have hrest := ih (hsame ▸ ht) h.2
              rw [hsame] at hrest
              rw [Bool.toNat_false]
              omega

/-! ## The login -/

/-- The terminal is online and registered, has asked for a login and got no
answer, and the link is not being closed.  The modem thread is not at the step of
a dial that counts the attempts anew. -/
structure AwaitsLogin (t : Terminal) : Prop where
  online : t.app.link.dataLinkOnline ≠ 0
  registered : t.app.conf.regsiterStatus = 1
  asked : t.app.link.devLoginOperateEnable = 1
  isOpen : t.modem.dataLinkEndFlag ≠ 1
  dialStep : t.modem.dial.dialStep ≠ .dialInit6

theorem loginSdAdd_afterDownlink (s : Session) (cmdId : ℕ) (rx : ℕ → UInt8) :
    (s.afterDownlink cmdId rx).loginSdAdd = s.loginSdAdd ∨
      (s.afterDownlink cmdId rx).operateEnable = 2 := by
  unfold Session.afterDownlink
  split
  · split
    · unfold Session.confirm
      split
      · exact Or.inl rfl
      · exact Or.inr rfl
      · exact Or.inl rfl
    · exact Or.inl rfl
  · unfold Session.registered
    split
    · exact Or.inl rfl
    · split <;> exact Or.inl rfl
    · exact Or.inl rfl
  · exact Or.inl rfl

theorem registSdAdd_afterDownlink (s : Session) (cmdId : ℕ)
    (rx : ℕ → UInt8) :
    (s.afterDownlink cmdId rx).registSdAdd = s.registSdAdd ∨
      (s.afterDownlink cmdId rx).regsiterStatus = 1 := by
  unfold Session.afterDownlink
  split
  · split
    · unfold Session.confirm
      split <;> exact Or.inl rfl
    · exact Or.inl rfl
  · unfold Session.registered
    split
    · exact Or.inr rfl
    · split <;> exact Or.inl rfl
    · exact Or.inl rfl
  · exact Or.inl rfl

theorem session_downlink (t : Terminal) (linkNum : ℕ) (rx : RxState) :
    (t.step (.downlink linkNum rx)).app.session = t.app.session ∨
      ∃ cmdId hexRx, (t.step (.downlink linkNum rx)).app.session =
        t.app.session.afterDownlink cmdId hexRx := by
  cases hok : (tcpRxCheck rx).2 with
  | false => exact Or.inl (by rw [step_downlink_of_rejected hok])
  | true =>
      refine Or.inr ⟨(tcpRxCheck rx).1.centreCmdID, (tcpRxCheck rx).1.hexRx, ?_⟩
      rw [step, tcpRxProcess_of_accepted hok]
      exact AppState.session_commandSwitch _ linkNum _ t.app

theorem loginTimer_step {t : Terminal} {e : Event} (he : e.isSecond = false)
    (ht : t.AwaitsLogin) (hnext : (t.step e).AwaitsLogin) :
    (t.step e).loginTimer = t.loginTimer := by
  have hasked := hnext.asked
  have hsame {u : Terminal} (hlogin : u.login = t.login)
      (hadd : u.app.link.devLoginSdAdd = t.app.link.devLoginSdAdd) :
      u.loginTimer = t.loginTimer :=
    congrArg₂ RetryTimer.mk (congrArg DevLogin.sdCounter hlogin) hadd
  cases e with
  | downlink n rx =>
      rcases session_downlink t n rx with heq | ⟨cmdId, hexRx, hafter⟩
      · exact hsame rfl (congrArg Session.loginSdAdd heq)
      · rcases loginSdAdd_afterDownlink t.app.session cmdId hexRx with hadd | htwo
        · exact hsame rfl ((congrArg Session.loginSdAdd hafter).trans hadd)
        · have hop := (congrArg Session.operateEnable hafter).trans htwo
          exact absurd (hop.symm.trans hasked) (by decide)
  | appTurn =>
      obtain ⟨hlink, -, hcounter, -⟩ := link_appReport t
      exact congrArg₂ RetryTimer.mk hcounter
        (congrArg Link.devLoginSdAdd hlink)
  | appSecond => cases he
  | appTick =>
      exact hsame (login_of_appView (appView_commAtTimer t))
        (congrArg (fun s : AppState => s.link.devLoginSdAdd) (app_commAtTimer t))
  | gsmTurn line =>
      exact hsame (login_of_appView (effect_gsmTurn t line).appView)
        (sdAdd_gsmTurn t line ht.dialStep).2
  | gsmSecond =>
      rw [step_gsmSecond]
      obtain ⟨happ, -, -, hadd⟩ :=
        sessionView_eq_iff.mp (sessionView_timeoutGsm t)
      exact hsame (login_of_appView happ) hadd
  | loginKey => rfl
  | registerKey => rfl
  | regsiterStatus v => rfl
  | socketMainSet => rfl
  | others t' => rfl

theorem endFlag_app808TickCounter {t : Terminal}
    (h : t.modem.dataLinkEndFlag = 1) :
    t.app808TickCounter.modem.dataLinkEndFlag = 1 := by
  rcases (ticks_app808TickCounter t).endFlag with heq | hone
  · exact heq.trans h
  · exact hone

theorem timers_app808TickCounter (t : Terminal) :
    t.app808TickCounter.loginTimer = t.loginTimer ∧
      t.app808TickCounter.registTimer = t.registTimer := by
  unfold app808TickCounter
  extract_lets counter flags u v flags'
  have hv : v.loginTimer = t.loginTimer ∧ v.registTimer = t.registTimer := by
    unfold v
    split <;> exact ⟨rfl, rfl⟩
  split
  · exact hv
  · exact hv

theorem loginTimer_appSecond {t : Terminal} (hbound : t.loginTimer.Bounded)
    (ht : t.AwaitsLogin) (hnext : (t.step .appSecond).AwaitsLogin) :
    (t.step .appSecond).loginTimer = t.loginTimer.tick.1 ∧
      t.loginTimer.tick.2.2 = false := by
  have hregister : t.deviceRegisterTimer = t := by
    rw [deviceRegisterTimer, if_neg (by rw [ht.registered]; decide)]
  have hless : t.app.link.devLoginSdAdd < 5 := by
    have hadd : t.app.link.devLoginSdAdd.toNat ≤ 3 := hbound.sdAdd
    have hfive : (5 : UInt8).toNat = 5 := rfl
    exact UInt8.lt_iff_toNat_lt.mpr (by omega)
  have hopen := hnext.isOpen
  have hstep : t.step .appSecond =
      t.deviceLoginTimer.sendModeConterProcess.app808TickCounter := by
    rw [step, appSecond, dataLinkStatus, if_pos (decide_eq_true ht.online),
      hregister]
  rw [hstep] at hopen ⊢
  rw [(timers_app808TickCounter _).1]
  unfold deviceLoginTimer at hopen ⊢
  rw [if_pos ⟨ht.asked, hless, ht.registered⟩] at hopen ⊢
  rcases htick : t.loginTimer.tick with ⟨r, attempt, close⟩
  rw [htick] at hopen
  cases close with
  | false => exact ⟨rfl, rfl⟩
  | true => exact absurd (endFlag_app808TickCounter rfl) hopen

/-- In every order of the steps, a login that is not confirmed keeps the link
open for no more than 24 seconds of the application. -/
theorem seconds_le_of_awaitsLogin {t : Terminal} {es : List Event}
    (ht : t.loginTimer.Bounded)
    (h : Runs.Meeting step (fun t _ => t.AwaitsLogin) t es) :
    t.loginTimer.seconds + Runs.tally step (fun _ e => e.isSecond.toNat) t es ≤
      24 :=
  seconds_le_of_awaits loginTimer AwaitsLogin
    (fun _ hbound hawaits hnext => loginTimer_appSecond hbound hawaits hnext)
    (fun _ _ he hawaits hnext => loginTimer_step he hawaits hnext) ht h

instance decidableAwaitsLogin (t : Terminal) : Decidable t.AwaitsLogin :=
  decidable_of_iff
    (t.app.link.dataLinkOnline ≠ 0 ∧ t.app.conf.regsiterStatus = 1 ∧
      t.app.link.devLoginOperateEnable = 1 ∧ t.modem.dataLinkEndFlag ≠ 1 ∧
      t.modem.dial.dialStep ≠ .dialInit6)
    ⟨fun ⟨honline, hregistered, hasked, hopen, hdial⟩ =>
        ⟨honline, hregistered, hasked, hopen, hdial⟩,
      fun h => ⟨h.online, h.registered, h.asked, h.isOpen, h.dialStep⟩⟩

/-- A link just opened by a registered terminal. -/
def justOpened : Terminal :=
  { app.conf.regsiterStatus := 1
    app.link.devLoginOperateEnable := 1
    app.link.dataLinkOnline := 1
    modem.dial.dialStep := .idle }

/-- Seven seconds on the link, a turn of the application and one of the modem in
each. -/
def silentRun : List Event :=
  (List.replicate 7 [.appSecond, .appTurn, .gsmSecond, .gsmTurn none]).flatten

/-- The login is sent in the sixth second, a heartbeat in every other one, and
nothing answers. -/
theorem seconds_le_of_awaitsLogin_opened :
    justOpened.loginTimer.seconds +
        Runs.tally step (fun _ e => e.isSecond.toNat) justOpened silentRun ≤
      24 :=
  seconds_le_of_awaitsLogin ⟨by decide, by decide⟩ (by decide +kernel)

/-! ## The registration -/

/-- The terminal is online and not registered, and the link is not being
closed. -/
structure AwaitsRegistration (t : Terminal) : Prop where
  online : t.app.link.dataLinkOnline ≠ 0
  registered : t.app.conf.regsiterStatus = 0
  isOpen : t.modem.dataLinkEndFlag ≠ 1
  dialStep : t.modem.dial.dialStep ≠ .dialInit6

theorem registTimer_step {t : Terminal} {e : Event} (he : e.isSecond = false)
    (ht : t.AwaitsRegistration) (hnext : (t.step e).AwaitsRegistration) :
    (t.step e).registTimer = t.registTimer := by
  have hregistered := hnext.registered
  have hsame {u : Terminal} (hregist : u.regist = t.regist)
      (hadd : u.app.link.devRegistSdAdd = t.app.link.devRegistSdAdd) :
      u.registTimer = t.registTimer :=
    congrArg₂ RetryTimer.mk (congrArg DevRegist.sdCounter hregist) hadd
  cases e with
  | downlink n rx =>
      rcases session_downlink t n rx with heq | ⟨cmdId, hexRx, hafter⟩
      · exact hsame rfl (congrArg Session.registSdAdd heq)
      · rcases registSdAdd_afterDownlink t.app.session cmdId hexRx with hadd | hone
        · exact hsame rfl ((congrArg Session.registSdAdd hafter).trans hadd)
        · have hst := (congrArg Session.regsiterStatus hafter).trans hone
          exact absurd (hst.symm.trans hregistered) (by decide)
  | appTurn =>
      obtain ⟨hlink, -, -, hcounter⟩ := link_appReport t
      exact congrArg₂ RetryTimer.mk hcounter
        (congrArg Link.devRegistSdAdd hlink)
  | appSecond => cases he
  | appTick =>
      exact hsame (regist_of_appView (appView_commAtTimer t))
        (congrArg (fun s : AppState => s.link.devRegistSdAdd)
          (app_commAtTimer t))
  | gsmTurn line =>
      exact hsame (regist_of_appView (effect_gsmTurn t line).appView)
        (sdAdd_gsmTurn t line ht.dialStep).1
  | gsmSecond =>
      rw [step_gsmSecond]
      obtain ⟨happ, -, hadd, -⟩ :=
        sessionView_eq_iff.mp (sessionView_timeoutGsm t)
      exact hsame (regist_of_appView happ) hadd
  | loginKey => rfl
  | registerKey => rfl
  | regsiterStatus v => rfl
  | socketMainSet => rfl
  | others t' => rfl

theorem registTimer_appSecond {t : Terminal} (ht : t.AwaitsRegistration)
    (hnext : (t.step .appSecond).AwaitsRegistration) :
    (t.step .appSecond).registTimer = t.registTimer.tick.1 ∧
      t.registTimer.tick.2.2 = false := by
  have hopen := hnext.isOpen
  have hstep : t.step .appSecond =
      t.deviceRegisterTimer.deviceLoginTimer.sendModeConterProcess.app808TickCounter
      := by
    rw [step, appSecond, dataLinkStatus, if_pos (decide_eq_true ht.online)]
  have hlogin : t.deviceRegisterTimer.deviceLoginTimer =
      t.deviceRegisterTimer := by
    have hstatus := (ticks_deviceRegisterTimer t).regsiterStatus
    rw [deviceLoginTimer, if_neg]
    rintro ⟨-, -, hone⟩
    rw [hstatus, ht.registered] at hone
    exact absurd hone (by decide)
  rw [hstep, hlogin] at hopen ⊢
  rw [(timers_app808TickCounter _).2]
  unfold deviceRegisterTimer at hopen ⊢
  rw [if_pos ht.registered] at hopen ⊢
  rcases htick : t.registTimer.tick with ⟨r, attempt, close⟩
  rw [htick] at hopen
  cases close with
  | false => exact ⟨rfl, rfl⟩
  | true => exact absurd (endFlag_app808TickCounter rfl) hopen

/-- The same for a registration that is not answered. -/
theorem seconds_le_of_awaitsRegistration {t : Terminal} {es : List Event}
    (ht : t.registTimer.Bounded)
    (h : Runs.Meeting step (fun t _ => t.AwaitsRegistration) t es) :
    t.registTimer.seconds + Runs.tally step (fun _ e => e.isSecond.toNat) t es ≤
      24 :=
  seconds_le_of_awaits registTimer AwaitsRegistration
    (fun _ _ hawaits hnext => registTimer_appSecond hawaits hnext)
    (fun _ _ he hawaits hnext => registTimer_step he hawaits hnext) ht h

/-- A terminal just online that is not registered. -/
theorem seconds_le_of_awaitsRegistration_opened :
    (registTimer { app.link.dataLinkOnline := 1
                   modem.dial.dialStep := .idle }).seconds +
      Runs.tally step (fun _ e => e.isSecond.toNat)
        { app.link.dataLinkOnline := 1
          modem.dial.dialStep := .idle } [.appSecond, .appTurn] ≤ 24 :=
  seconds_le_of_awaitsRegistration ⟨by decide, by decide⟩
    ⟨⟨by decide, by decide, by decide, by decide⟩,
      ⟨by decide, by decide, by decide, by decide⟩, trivial⟩

end Terminal

end VehicleRecorder.Protocol
