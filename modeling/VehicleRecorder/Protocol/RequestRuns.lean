import VehicleRecorder.Protocol.TerminalRuns

/-!
# Requests and their messages

A flag that asks for a message is set by a handler, a timer or a key, and only
the branch of `Do_SendGPSReport_GPRS` that sends the message clears it.  The branch
of the recorder clears it also for a command that is not answered.  Over any run
of the terminal the messages sent, those still due and the answers dropped so are
therefore as many as were asked for, and no message waits for longer than there
are others in front of it.
-/

namespace VehicleRecorder.Protocol

/-- The flag of an answer that only its own branch clears. -/
def DueAnswers.pending (a : DueAnswers) : Request → Bool
  | .position0201 => a.position = 1
  | .control0500 => a.control = 1
  | .recorder0700 => a.recorder = 1
  | .mediaIndex0802 => a.mediaIndex ≠ 0
  | .commonAck0001 => a.commonAck ≠ 0
  | .setting0104 => a.setting ≠ 0
  | .isp92 => a.ispAck = 1
  | .isp96 => a.ispAck23 = 1
  | .isp94 => a.ispAck88 = 1
  | _ => false

/-- The same with the flags of the registration and the login. -/
def AppView.pending (v : AppView) : Request → Bool
  | .login0102 => v.login.enableSd = 1
  | .register0100 => v.regist.enableSd = 1
  | r => v.due.pending r

namespace Request

/-- The answers to a message of the platform, but for the general one. -/
def answers : List Request :=
  [.position0201, .control0500, .recorder0700, .mediaIndex0802, .setting0104,
    .isp92, .isp96, .isp94]

/-- The messages whose flag only their own branch clears. -/
def kept : List Request :=
  .login0102 :: .register0100 :: .commonAck0001 :: answers

/-- An accepted message asks for an answer. -/
def askedBy (r : Request) (cmdId linkNum : ℕ) (rx : ℕ → UInt8) : Bool :=
  match r with
  | .position0201 => cmdId = 0x8201
  | .control0500 => cmdId = 0x8500
  | .recorder0700 => cmdId = 0x8700 ∨ cmdId = 0x8701
  | .mediaIndex0802 => cmdId = 0x8802 ∧ (rx 13 = 0 ∨ rx 13 = 1 ∨ rx 13 = 2)
  | .setting0104 => cmdId = 0x8104
  | .isp92 => cmdId = 0x8900 ∧ (linkNum ≠ 0 ∧ rx 13 = 0x1F) ∧ rx 29 = 0x91
  | .isp96 => cmdId = 0x8900 ∧ (linkNum ≠ 0 ∧ rx 13 = 0x1F) ∧ rx 29 = 0x95
  | .isp94 => cmdId = 0x8900 ∧ (linkNum ≠ 0 ∧ rx 13 = 0x1F) ∧ rx 29 = 0x93
  | _ => false

end Request

/-! ## What a message of the platform asks for -/

namespace DueAnswers

theorem pending_afterMediaQuery (a : DueAnswers) (kind : UInt8) {r : Request}
    (hr : r ∈ Request.answers) :
    (a.afterMediaQuery kind).pending r =
      (a.pending r || decide (r = .mediaIndex0802 ∧
        (kind = 0 ∨ kind = 1 ∨ kind = 2))) := by
  unfold afterMediaQuery
  cases r <;> first
    | exact absurd hr (by decide)
    | (split <;> simp_all [pending])

theorem pending_afterUpdate (a : DueAnswers) (instr15 : UInt8) {r : Request}
    (hr : r ∈ Request.answers) :
    (a.afterUpdate instr15).pending r =
      (a.pending r || decide (r = .isp92 ∧ instr15 = 0x91 ∨
        r = .isp94 ∧ instr15 = 0x93 ∨ r = .isp96 ∧ instr15 = 0x95)) := by
  unfold afterUpdate
  cases r <;> first
    | exact absurd hr (by decide)
    | (split <;> simp_all [pending])

/-- An answer is due behind a message if it was before or is asked for. -/
theorem pending_afterDownlink (a : DueAnswers) (cmdId linkNum : ℕ)
    (rx : ℕ → UInt8) {r : Request} (hr : r ∈ Request.answers) :
    (a.afterDownlink cmdId linkNum rx).pending r =
      (a.pending r || r.askedBy cmdId linkNum rx) := by
  unfold afterDownlink
  split
  case h_6 =>
      rw [pending_afterMediaQuery a _ hr]
      cases r <;> first
        | exact absurd hr (by decide)
        | simp [Request.askedBy]
  case h_7 =>
      split
      · rw [pending_afterUpdate a _ hr]
        cases r <;> first
          | exact absurd hr (by decide)
          | simp_all [Request.askedBy]
      · cases r <;> first
          | exact absurd hr (by decide)
          | simp_all [Request.askedBy]
  all_goals
    cases r <;> first
      | exact absurd hr (by decide)
      | simp_all [Request.askedBy, pending]

end DueAnswers

namespace Terminal

/-- The message is due. -/
def pending (t : Terminal) (r : Request) : Bool := t.appView.pending r

/-- A step of the platform asks for an answer. -/
def Event.asks (e : Event) (r : Request) : Bool :=
  match e with
  | .downlink linkNum rx =>
      (tcpRxCheck rx).2 &&
        r.askedBy (tcpRxCheck rx).1.centreCmdID linkNum (tcpRxCheck rx).1.hexRx
  | _ => false

/-- The step is a call of `Do_SendGPSReport_GPRS`. -/
def Event.reports (t : Terminal) : Event → Bool
  | .appTurn => t.dataLinkStatus && t.callIdle
  | _ => false

/-- The branch of the message sends it, which that of the recorder does only for
a command that is answered. -/
def sends (t : Terminal) (r : Request) : Bool :=
  r ≠ .recorder0700 ∨ t.app.media.recodeCmd ∈ AppState.recorderCommands

/-- The step is a report that clears the flag of the message and sends nothing. -/
def Event.drops (t : Terminal) (e : Event) (r : Request) : Bool :=
  e.reports t && sendServer.next t = some r && !t.sends r

theorem step_of_reports {t : Terminal} {e : Event} (h : e.reports t = true) :
    t.step e = sendServer.call t := by
  cases e with
  | appTurn => exact if_pos h
  | _ => cases h

/-! ## What a branch sends -/

theorem appView_afterCommonAck (t : Terminal) :
    t.afterCommonAck.appView = t.appView := by
  rw [afterCommonAck]
  split <;> rfl

theorem sent_serve_commonAck (t : Terminal) :
    (t.serve .commonAck0001).sent = t.sent ++ [.commonAck0001] :=
  congrArg AppView.sent (appView_afterCommonAck (t.send .commonAck0001))

theorem sent_serve (t : Terminal) (r : Request) :
    (t.serve r).sent = t.sent ∨ (t.serve r).sent = t.sent ++ [r] := by
  cases r with
  | media0801 =>
      rw [serve]
      split
      · exact Or.inr rfl
      · exact Or.inl rfl
  | recorder0700 =>
      rw [serve]
      split
      · exact Or.inr rfl
      · exact Or.inl rfl
  | sleepConfig => exact Or.inl rfl
  | commonAck0001 => exact Or.inr (sent_serve_commonAck t)
  | normal0200 =>
      rw [serve]
      split
      · exact Or.inr rfl
      · exact Or.inl rfl
  | _ => exact Or.inr rfl

theorem sent_serve_of_kept {t : Terminal} {r : Request}
    (hr : r ∈ Request.kept) (hsends : t.sends r = true) :
    (t.serve r).sent = t.sent ++ [r] := by
  cases r with
  | recorder0700 =>
      have hcommand : t.app.media.recodeCmd ∈ AppState.recorderCommands :=
        (of_decide_eq_true hsends).resolve_left fun hne => hne rfl
      rw [serve, if_pos hcommand]
      rfl
  | commonAck0001 => exact sent_serve_commonAck t
  | _ => first
    | exact absurd hr (by decide)
    | rfl

theorem sent_serve_of_not_sends {t : Terminal} {r : Request}
    (hsends : t.sends r = false) : (t.serve r).sent = t.sent := by
  obtain ⟨hrecorder, hcommand⟩ := not_or.mp (of_decide_eq_false hsends)
  obtain rfl := not_not.mp hrecorder
  rw [serve, if_neg hcommand]

theorem pending_serve_of_ne (t : Terminal) {r j : Request} (hne : r ≠ j) :
    (t.serve j).pending r = t.pending r := by
  cases j with
  | media0801 =>
      rw [serve]
      split <;> cases r <;> rfl
  | recorder0700 =>
      rw [serve]
      split <;> cases r <;> first | rfl | exact absurd rfl hne
  | commonAck0001 =>
      have hsame : (t.send .commonAck0001).afterCommonAck.pending r =
          t.pending r := by
        rw [pending, appView_afterCommonAck]
        cases r <;> rfl
      cases r with
      | commonAck0001 => exact absurd rfl hne
      | _ => exact hsame
  | normal0200 =>
      rw [serve]
      split <;> cases r <;> rfl
  | _ => cases r <;> first | rfl | exact absurd rfl hne

theorem pending_serve_self (t : Terminal) {r : Request}
    (hr : r ∈ Request.kept) : (t.serve r).pending r = false := by
  cases r with
  | recorder0700 =>
      rw [serve]
      split <;> rfl
  | _ => first
    | exact absurd hr (by decide)
    | rfl

theorem pending_of_guard {t : Terminal} {r : Request} (hr : r ∈ Request.kept)
    (h : t.guard r = true) : t.pending r = true := by
  cases r <;> first
    | exact absurd hr (by decide)
    | exact h
    | exact (Bool.and_eq_true_iff.mp h).1
    | exact (Bool.and_eq_true_iff.mp h).2

/-! ## What the other steps do -/

theorem pending_eq_of_appView {t u : Terminal} (h : u.appView = t.appView)
    (r : Request) : u.pending r = t.pending r := by
  rw [pending, h]
  rfl

theorem pending_eq_due (t : Terminal) {r : Request} (hlogin : r ≠ .login0102)
    (hregister : r ≠ .register0100) : t.pending r = t.app.due.pending r := by
  cases r <;> first
    | exact absurd rfl hlogin
    | exact absurd rfl hregister
    | rfl

theorem pending_of_answer (t : Terminal) {r : Request}
    (hr : r ∈ Request.answers) : t.pending r = t.app.due.pending r :=
  pending_eq_due t (by rintro rfl; exact absurd hr (by decide))
    (by rintro rfl; exact absurd hr (by decide))

theorem step_downlink_of_rejected {rx : RxState}
    (h : (tcpRxCheck rx).2 = false) (t : Terminal) (linkNum : ℕ) :
    t.step (.downlink linkNum rx) = t := by
  rw [step, tcpRxProcess]
  split
  · rfl
  · rename_i heq
    rw [heq] at h
    cases h

/-- The flag of an answer behind a message of the platform. -/
theorem pending_downlink (t : Terminal) (linkNum : ℕ) (rx : RxState)
    {r : Request} (hr : r ∈ Request.answers) :
    (t.step (.downlink linkNum rx)).pending r =
      (t.pending r || (Event.downlink linkNum rx).asks r) := by
  cases hok : (tcpRxCheck rx).2 with
  | false =>
      rw [step_downlink_of_rejected hok, Event.asks, hok, Bool.false_and,
        Bool.or_false]
  | true =>
      obtain ⟨v, hdue, -⟩ := AppState.due_commandSwitch
        (tcpRxCheck rx).1.centreCmdID linkNum (tcpRxCheck rx).1.hexRx t.app
      have hack (a : DueAnswers) :
          { a with commonAck := v }.pending r = a.pending r := by
        cases r <;> first
          | exact absurd hr (by decide)
          | rfl
      rw [pending_of_answer _ hr, pending_of_answer _ hr, Event.asks, step,
        tcpRxProcess_of_accepted hok]
      dsimp only
      rw [hdue, hack, DueAnswers.pending_afterDownlink _ _ _ _ hr, hok,
        Bool.true_and]

/-- A message that is due stays due, but for the steps that send messages. -/
theorem pending_appSecond {t : Terminal} {r : Request}
    (h : t.pending r = true) : t.appSecond.pending r = true := by
  have htick := ticks_appSecond t
  have hset {v w : UInt8} (hw : w = v ∨ w = 1) (hv : decide (v = 1) = true) :
      decide (w = 1) = true := by
    rcases hw with rfl | rfl
    · exact hv
    · rfl
  by_cases hlogin : r = .login0102
  · subst hlogin
    exact hset htick.login h
  · by_cases hregister : r = .register0100
    · subst hregister
      exact hset htick.regist h
    · rw [pending_eq_due _ hlogin hregister, htick.due,
        ← pending_eq_due t hlogin hregister]
      exact h

theorem pending_commonAck_downlink {t : Terminal}
    (h : t.pending .commonAck0001 = true) (linkNum : ℕ) (rx : RxState) :
    (t.step (.downlink linkNum rx)).pending .commonAck0001 = true := by
  cases hok : (tcpRxCheck rx).2 with
  | false => rwa [step_downlink_of_rejected hok]
  | true =>
      obtain ⟨v, hdue, hv⟩ := AppState.due_commandSwitch
        (tcpRxCheck rx).1.centreCmdID linkNum (tcpRxCheck rx).1.hexRx t.app
      have hdue' : t.app.due.commonAck ≠ 0 := of_decide_eq_true h
      rw [step, tcpRxProcess_of_accepted hok]
      refine decide_eq_true ?_
      exact congrArg DueAnswers.commonAck hdue ▸ hv hdue'

theorem pending_downlink_of_pending {t : Terminal} {r : Request}
    (hr : r ∈ Request.kept) (h : t.pending r = true) (linkNum : ℕ)
    (rx : RxState) : (t.step (.downlink linkNum rx)).pending r = true := by
  rcases List.mem_cons.mp hr with rfl | hr
  · exact h
  · rcases List.mem_cons.mp hr with rfl | hr
    · exact h
    · rcases List.mem_cons.mp hr with rfl | hr
      · exact pending_commonAck_downlink h linkNum rx
      · rw [pending_downlink t linkNum rx hr, h, Bool.true_or]

theorem appView_appReport {t : Terminal}
    (h : Event.appTurn.reports t = false) : t.appReport.appView = t.appView := by
  have hnot : ¬ (t.dataLinkStatus && t.callIdle) = true :=
    Bool.eq_false_iff.mp h
  rw [appReport, if_neg hnot]
  split <;> rfl

theorem appView_commAtTimer (t : Terminal) :
    t.commAtTimer.appView = t.appView := by
  unfold commAtTimer
  dsimp only
  split
  · split <;> rfl
  · rfl

/-- A step that is no report sends nothing and withdraws nothing. -/
theorem step_of_not_reports {t : Terminal} {e : Event}
    (h : e.reports t = false) :
    (t.step e).sent = t.sent ∧ ∀ r ∈ Request.kept, t.pending r = true →
      (t.step e).pending r = true := by
  have hsame {u : Terminal} (hview : u.appView = t.appView) :
      u.sent = t.sent ∧ ∀ r ∈ Request.kept, t.pending r = true →
        u.pending r = true :=
    ⟨congrArg AppView.sent hview,
      fun r _ hp => (pending_eq_of_appView hview r).trans hp⟩
  cases e with
  | downlink linkNum rx =>
      exact ⟨rfl, fun r hr hp => pending_downlink_of_pending hr hp linkNum rx⟩
  | appTurn => exact hsame (appView_appReport h)
  | appSecond =>
      exact ⟨(ticks_appSecond t).sent, fun r _ hp => pending_appSecond hp⟩
  | appTick => exact hsame (appView_commAtTimer t)
  | gsmTurn line => exact hsame (effect_gsmTurn t line).appView
  | gsmSecond => exact hsame (appView_timeoutGsm t)
  | loginKey =>
      refine ⟨rfl, fun r _ hp => ?_⟩
      cases r <;> first | rfl | exact hp
  | registerKey =>
      refine ⟨rfl, fun r _ hp => ?_⟩
      cases r <;> first | rfl | exact hp
  | regsiterStatus v => exact ⟨rfl, fun r _ hp => by cases r <;> exact hp⟩
  | socketMainSet => exact hsame rfl
  | others t' => exact hsame rfl

/-! ## Runs -/

/-- The messages of a kind that were sent, and the one that is due. -/
def account (r : Request) (t : Terminal) : ℕ :=
  t.sent.count r + (t.pending r).toNat

theorem account_serve_self {t : Terminal} {r : Request}
    (hr : r ∈ Request.kept) (hguard : t.guard r = true) :
    (t.serve r).account r + (!t.sends r).toNat = t.account r := by
  rw [account, account, pending_serve_self t hr, pending_of_guard hr hguard]
  cases hsends : t.sends r with
  | true =>
      rw [sent_serve_of_kept hr hsends, List.count_append,
        List.count_singleton_self]
      rfl
  | false =>
      rw [sent_serve_of_not_sends hsends]
      rfl

theorem account_serve_of_ne (t : Terminal) {r j : Request} (hrj : r ≠ j) :
    (t.serve j).account r = t.account r := by
  rw [account, account, pending_serve_of_ne t hrj]
  rcases sent_serve t j with heq | hsent
  · rw [heq]
  · rw [hsent, List.count_append, List.count_singleton,
      if_neg (by simpa using Ne.symm hrj), Nat.add_zero]

/-- A report sets no flag. -/
theorem pending_of_serve {t : Terminal} {r j : Request}
    (hr : r ∈ Request.kept) (h : (t.serve j).pending r = true) :
    t.pending r = true := by
  by_cases hrj : r = j
  · subst hrj
    exact absurd h (by rw [pending_serve_self t hr]; decide)
  · rwa [pending_serve_of_ne t hrj] at h

theorem report_cases (t : Terminal) :
    sendServer.call t = t ∨
      ∃ j, t.guard j = true ∧ sendServer.call t = t.serve j := by
  cases hnext : sendServer.next t with
  | none => exact Or.inl (PriorityServer.call_of_none hnext)
  | some j =>
      exact Or.inr ⟨j, PriorityServer.guard_of_next hnext,
        PriorityServer.call_of_next hnext⟩

/-- The account of a message behind a report that takes its branch, another one
or none. -/
theorem account_call (t : Terminal) {e : Event} {r : Request}
    (hr : r ∈ Request.kept) (hreport : e.reports t = true) :
    (sendServer.call t).account r + (e.drops t r).toNat = t.account r := by
  rw [Event.drops, hreport, Bool.true_and]
  cases hnext : sendServer.next t with
  | none =>
      rw [PriorityServer.call_of_none hnext]
      rfl
  | some j =>
      have hserve : sendServer.call t = t.serve j :=
        PriorityServer.call_of_next hnext
      rw [hserve]
      by_cases hrj : r = j
      · subst hrj
        rw [decide_eq_true rfl, Bool.true_and]
        exact account_serve_self hr (PriorityServer.guard_of_next hnext)
      · have hother : some j ≠ some r := fun h => hrj (Option.some.inj h).symm
        rw [decide_eq_false hother, Bool.false_and, account_serve_of_ne t hrj]
        rfl

/-- A step adds to the account of a message if it sets the flag, and takes from it
if it drops the message. -/
theorem account_step (t : Terminal) (e : Event) {r : Request}
    (hr : r ∈ Request.kept) :
    (t.step e).account r + (e.drops t r).toNat =
      t.account r + Runs.rises step (fun t => t.pending r) t e := by
  cases hreport : e.reports t with
  | false =>
      obtain ⟨hsent, hpending⟩ := step_of_not_reports hreport
      have hkept := hpending r hr
      simp only [account, Runs.rises, hsent, Event.drops, hreport,
        Bool.false_and]
      cases hp : t.pending r with
      | false => simp
      | true => simp [hkept hp]
  | true =>
      have hrises : Runs.rises step (fun t => t.pending r) t e = 0 := by
        rw [Runs.rises, step_of_reports hreport]
        rcases report_cases t with hcall | ⟨j, -, hcall⟩
        · rw [hcall]
          cases t.pending r <;> rfl
        · rw [hcall]
          cases hp : (t.serve j).pending r with
          | false => simp
          | true => simp [pending_of_serve hr hp]
      rw [step_of_reports hreport, account_call t hr hreport, hrises,
        Nat.add_zero]

/-- Over any run a message that only its own branch withdraws is sent exactly as
often as its flag is set, but for the one that is due and those dropped. -/
theorem account_run (t : Terminal) (es : List Event) {r : Request}
    (hr : r ∈ Request.kept) :
    (t.run es).account r + Runs.tally step (fun t e => (e.drops t r).toNat) t es =
      t.account r + Runs.tally step (Runs.rises step fun t => t.pending r) t es := by
  induction es generalizing t with
  | nil => rfl
  | cons e es ih =>
      have hstep := account_step t e hr
      have hrest := ih (t.step e)
      rw [run, List.foldl_cons, ← run, Runs.tally_cons, Runs.tally_cons]
      omega

/-- Only answers of the recorder are dropped. -/
theorem tally_drops_of_ne (t : Terminal) (es : List Event) {r : Request}
    (hr : r ≠ .recorder0700) :
    Runs.tally step (fun t e => (e.drops t r).toNat) t es = 0 := by
  induction es generalizing t with
  | nil => rfl
  | cons e es ih =>
      have hsends : t.sends r = true := decide_eq_true (Or.inl hr)
      rw [Runs.tally_cons, ih, Event.drops, hsends, Bool.not_true,
        Bool.and_false]
      rfl

/-- No step but a message of the platform makes an answer due. -/
theorem due_pending_of_step {t : Terminal} {e : Event} {r : Request}
    (hr : r ∈ Request.kept) (hlogin : r ≠ .login0102)
    (hregister : r ≠ .register0100) (he : ∀ n rx, e ≠ .downlink n rx)
    (h : (t.step e).pending r = true) : t.pending r = true := by
  have hsame {u : Terminal} (hview : u.appView = t.appView)
      (hu : u.pending r = true) : t.pending r = true :=
    (pending_eq_of_appView hview r).symm.trans hu
  have hdue {u : Terminal} (hview : u.app.due = t.app.due)
      (hu : u.pending r = true) : t.pending r = true := by
    rwa [pending_eq_due _ hlogin hregister, hview,
      ← pending_eq_due t hlogin hregister] at hu
  cases e with
  | downlink n rx => exact absurd rfl (he n rx)
  | appTurn =>
      cases hreport : Event.appTurn.reports t with
      | false => exact hsame (appView_appReport hreport) h
      | true =>
          rw [step_of_reports hreport] at h
          rcases report_cases t with hcall | ⟨j, -, hcall⟩
          · rwa [hcall] at h
          · rw [hcall] at h
            exact pending_of_serve hr h
  | appSecond => exact hdue (ticks_appSecond t).due h
  | appTick => exact hsame (appView_commAtTimer t) h
  | gsmTurn line => exact hsame (effect_gsmTurn t line).appView h
  | gsmSecond => exact hsame (appView_timeoutGsm t) h
  | loginKey => exact hdue (u := t.step .loginKey) rfl h
  | registerKey => exact hdue (u := t.step .registerKey) rfl h
  | regsiterStatus v => exact hdue (u := t.step (.regsiterStatus v)) rfl h
  | socketMainSet => exact hdue (u := t.step .socketMainSet) rfl h
  | others t' => exact hdue (u := t.step (.others t')) rfl h

theorem rises_eq_zero {t : Terminal} {e : Event} {r : Request}
    (hr : r ∈ Request.kept) (hlogin : r ≠ .login0102)
    (hregister : r ≠ .register0100) (he : ∀ n rx, e ≠ .downlink n rx) :
    Runs.rises step (fun t => t.pending r) t e = 0 := by
  have hstep := due_pending_of_step (t := t) (e := e) hr hlogin hregister he
  rw [Runs.rises]
  cases hp : t.pending r with
  | true => rfl
  | false =>
      cases hq : (t.step e).pending r with
      | true => exact absurd (hstep hq) (by rw [hp]; decide)
      | false => rfl

theorem kept_of_answer {r : Request} (hr : r ∈ Request.answers) :
    r ∈ Request.kept ∧ r ≠ .login0102 ∧ r ≠ .register0100 := by
  cases r <;> first
    | exact absurd hr (by decide)
    | decide

/-- The flag of an answer is set by the messages of the platform that ask for it
and by nothing else. -/
theorem rises_answer (t : Terminal) (e : Event) {r : Request}
    (hr : r ∈ Request.answers) :
    Runs.rises step (fun t => t.pending r) t e =
      (!t.pending r && e.asks r).toNat := by
  obtain ⟨hkept, hlogin, hregister⟩ := kept_of_answer hr
  by_cases he : ∃ n rx, e = .downlink n rx
  · obtain ⟨n, rx, rfl⟩ := he
    rw [Runs.rises, pending_downlink t n rx hr]
    cases t.pending r <;> rfl
  · have hasks : e.asks r = false := by
      cases e with
      | downlink n rx => exact absurd ⟨n, rx, rfl⟩ he
      | _ => rfl
    rw [rises_eq_zero hkept hlogin hregister fun n rx heq => he ⟨n, rx, heq⟩,
      hasks, Bool.and_false]
    rfl

/-- Over any order of the steps of all threads, the answers of a kind that are
sent or dropped are the messages that asked for one while none was due. -/
theorem answers_run (t : Terminal) (es : List Event) {r : Request}
    (hr : r ∈ Request.answers) :
    (t.run es).sent.count r + ((t.run es).pending r).toNat +
        Runs.tally step (fun t e => (e.drops t r).toNat) t es =
      t.sent.count r + (t.pending r).toNat +
        Runs.tally step (fun t e => (!t.pending r && e.asks r).toNat) t es := by
  have hrises : Runs.rises step (fun t => t.pending r) =
      fun t e => (!t.pending r && e.asks r).toNat :=
    funext₂ fun t e => rises_answer t e hr
  have haccount := account_run t es (kept_of_answer hr).1
  rwa [hrises] at haccount

/-- A position that is asked for and a command of the recorder that is not
answered, each followed by a report. -/
def askedRun : List Event :=
  [.downlink 0 (received (message 0x8201 []) 0), .appTurn,
    .downlink 0 (received (message 0x8700 [0x10]) 0), .appTurn]

/-- A terminal with an open link. -/
def online : Terminal := { app.link.dataLinkOnline := 1 }

/-- The position is sent, and of the recorder's answer nothing. -/
theorem answers_run_position :
    (online.run askedRun).sent.count .position0201 +
          ((online.run askedRun).pending .position0201).toNat +
        Runs.tally step (fun t e => (e.drops t .position0201).toNat) online
          askedRun =
      online.sent.count .position0201 + (online.pending .position0201).toNat +
        Runs.tally step
          (fun t e => (!t.pending .position0201 && e.asks .position0201).toNat)
          online askedRun ∧
      (online.run askedRun).sent = [.position0201] ∧
      Runs.tally step (fun t e => (e.drops t .recorder0700).toNat) online
        askedRun = 1 := by
  refine ⟨answers_run online askedRun (by decide), ?_, ?_⟩
  · decide +kernel
  · decide +kernel
/-- The step is a message of the platform that is accepted. -/
def Event.accepted : Event → Bool
  | .downlink _ rx => (tcpRxCheck rx).2
  | _ => false

theorem rises_commonAck_le (t : Terminal) (e : Event) :
    Runs.rises step (fun t => t.pending .commonAck0001) t e ≤
      e.accepted.toNat := by
  by_cases he : ∃ n rx, e = .downlink n rx
  · obtain ⟨n, rx, rfl⟩ := he
    cases hok : (tcpRxCheck rx).2 with
    | false =>
        rw [Runs.rises, step_downlink_of_rejected hok]
        cases t.pending .commonAck0001 <;> exact Nat.zero_le _
    | true =>
        rw [Event.accepted, hok]
        exact Bool.toNat_le _
  · rw [rises_eq_zero (by decide) (by decide) (by decide)
      fun n rx heq => he ⟨n, rx, heq⟩]
    exact Nat.zero_le _

/-- The general answer is not sent more often than messages are accepted. -/
theorem commonAcks_le_accepted (t : Terminal) (es : List Event) :
    (t.run es).sent.count .commonAck0001 +
        ((t.run es).pending .commonAck0001).toNat ≤
      t.sent.count .commonAck0001 + (t.pending .commonAck0001).toNat +
        es.countP Event.accepted := by
  have haccount : (t.run es).account .commonAck0001 =
      t.account .commonAck0001 + Runs.tally step
        (Runs.rises step fun t => t.pending .commonAck0001) t es := by
    have hrun := account_run t es (r := .commonAck0001) (by decide)
    rwa [tally_drops_of_ne t es (by decide), Nat.add_zero] at hrun
  have hle : Runs.tally step
      (Runs.rises step fun t => t.pending .commonAck0001) t es ≤
        es.countP Event.accepted := by
    clear haccount
    induction es generalizing t with
    | nil => exact Nat.le_refl 0
    | cons e es ih =>
        have hfirst := rises_commonAck_le t e
        have hrest := ih (t.step e)
        rw [Runs.tally_cons, List.countP_cons]
        cases hacc : e.accepted with
        | false =>
            rw [hacc] at hfirst
            simpa using Nat.add_le_add hfirst hrest
        | true =>
            rw [hacc] at hfirst
            simpa [Nat.add_comm] using Nat.add_le_add hfirst hrest
  exact Nat.le_trans (Nat.le_of_eq haccount) (Nat.add_le_add_left hle _)

/-! ## Waiting -/

theorem normal0200_not_mem_ahead (r : Request) :
    Request.normal0200 ∉ sendServer.ahead r := by
  cases r <;> decide

theorem mem_order (r : Request) : r ∈ sendServer.order := by
  cases r <;> decide

/-- While no media are transferred, a report clears its flag and sets none. -/
theorem clearsAhead {t : Terminal} (h : t.guard .media0801 = false)
    (r : Request) : sendServer.ClearsAhead r t := by
  intro j hj hnext
  have hguard : t.guard j = true := PriorityServer.guard_of_next hnext
  have hmedia : j ≠ .media0801 := by
    rintro rfl
    exact absurd hguard (by rw [h]; decide)
  have hnormal : j ≠ .normal0200 := by
    rintro rfl
    exact normal0200_not_mem_ahead r hj
  refine ⟨guard_serve_self t hmedia hnormal, fun i hi hraised => ?_⟩
  by_cases hij : i = j
  · subst hij
    exact hguard
  · exact (guard_serve_of_ne t hij hnormal).symm.trans hraised

/-- A message whose branch is not taken while no media are transferred. -/
structure Waits (r : Request) (t : Terminal) (e : Event) : Prop where
  guard : t.guard r = true
  notServed : e.reports t = true → sendServer.next t ≠ some r
  media : t.guard .media0801 = false

/-- However the steps of the threads are ordered, a message waits for no more
reports than there are messages in front of it, those included that become due
while it waits. -/
theorem reports_le_of_waits {r : Request} {t : Terminal} {es : List Event}
    (h : Runs.Meeting step (Waits r) t es) :
    Runs.tally step (fun t e => (e.reports t).toNat) t es ≤
      (sendServer.ahead r).countP (fun j => t.guard j) +
        Runs.tally step (fun t e =>
          if e.reports t then 0
          else Runs.risesOf step (fun j t => t.guard j) (sendServer.ahead r) t e)
          t es := by
  have hcalls (t : Terminal) (e : Event) (hcall : e.reports t = true) :
      t.step e = sendServer.call t := step_of_reports hcall
  have hwaits (t : Terminal) (e : Event) (hw : Waits r t e) :
      sendServer.Waits (fun t (e : Event) => e.reports t) r t e ∧
        sendServer.ClearsAhead r t :=
    ⟨⟨hw.guard, hw.notServed⟩, clearsAhead hw.media r⟩
  exact PriorityServer.calls_le hcalls (mem_order r) (h.imp hwaits)

/-- A general answer that waits for a position that is asked for. -/
theorem reports_le_of_waits_position :
    Runs.tally step (fun t e => (Event.reports t e).toNat)
        { app.sdAckFlag.currentPosition0201H := 1
          app.sdAckFlag.centreCmdAck0001H := 1
          app.link.dataLinkOnline := 1 } [.appTurn] ≤
      (sendServer.ahead .commonAck0001).countP (fun j =>
        guard { app.sdAckFlag.currentPosition0201H := 1
                app.sdAckFlag.centreCmdAck0001H := 1
                app.link.dataLinkOnline := 1 } j) +
        Runs.tally step (fun t e =>
          if e.reports t then 0
          else Runs.risesOf step (fun j t => t.guard j)
            (sendServer.ahead .commonAck0001) t e)
          { app.sdAckFlag.currentPosition0201H := 1
            app.sdAckFlag.centreCmdAck0001H := 1
            app.link.dataLinkOnline := 1 } [.appTurn] :=
  reports_le_of_waits ⟨⟨by decide, fun _ => by decide, by decide⟩, trivial⟩

/-! ## The transfer of media -/

theorem next_of_media {t : Terminal} (h : t.guard .media0801 = true) :
    sendServer.next t = some .media0801 := by
  have hlogin : t.guard .login0102 = false := by
    have hin : t.loggedIn = true := (Bool.and_eq_true_iff.mp h).2
    simp [guard, hin]
  have hfind : sendServer.next t =
      Request.order.find? fun r => t.guard r := rfl
  rw [hfind, Request.order, List.find?_cons_of_neg (by rw [hlogin]; decide),
    List.find?_cons_of_pos h]

/-- While media are transferred over a link with a login, nothing else is sent,
and a message that is due stays due if only its own branch clears its flag. -/
theorem sent_of_media {t : Terminal} {es : List Event}
    (h : Runs.Meeting step (fun t _ => t.guard .media0801 = true) t es) :
    (∃ n, (t.run es).sent = t.sent ++ List.replicate n .media0801) ∧
      ∀ r ∈ Request.kept, t.pending r = true → (t.run es).pending r = true := by
  induction es generalizing t with
  | nil => exact ⟨⟨0, (List.append_nil _).symm⟩, fun r _ hp => hp⟩
  | cons e es ih =>
      obtain ⟨⟨n, hsent⟩, hpending⟩ := ih h.2
      rw [run, List.foldl_cons, ← run]
      cases hreport : e.reports t with
      | false =>
          obtain ⟨hsame, hkept⟩ := step_of_not_reports hreport
          rw [hsame] at hsent
          exact ⟨⟨n, hsent⟩, fun r hr hp => hpending r hr (hkept r hr hp)⟩
      | true =>
          have hserve : t.step e = t.serve .media0801 := by
            rw [step_of_reports hreport]
            exact PriorityServer.call_of_next (next_of_media h.1)
          refine ⟨?_, fun r hr hp => hpending r hr ?_⟩
          · rcases sent_serve t .media0801 with hsame | hone
            · rw [hserve, hsame] at hsent
              exact ⟨n, hserve ▸ hsent⟩
            · rw [hserve, hone] at hsent
              refine ⟨n + 1, ?_⟩
              rw [hserve, hsent, List.append_assoc, List.replicate_succ]
              rfl
          · have hne : r ≠ .media0801 := by
              rintro rfl
              exact absurd hr (by decide)
            rw [hserve, pending_serve_of_ne t hne]
            exact hp

/-- A packet of a picture in front of a position that is asked for. -/
theorem sent_of_media_picture :
    (∃ n, (run { app.media.mediaObj.mediaTransmittingFlag := 2
                 app.media.mediaObj.sdDataFlag := 1
                 app.sdAckFlag.currentPosition0201H := 1
                 app.link.devLoginOperateEnable := 2
                 app.link.dataLinkOnline := 1 } [.appTurn]).sent =
        [] ++ List.replicate n .media0801) ∧
      ∀ r ∈ Request.kept,
        pending { app.media.mediaObj.mediaTransmittingFlag := 2
                  app.media.mediaObj.sdDataFlag := 1
                  app.sdAckFlag.currentPosition0201H := 1
                  app.link.devLoginOperateEnable := 2
                  app.link.dataLinkOnline := 1 } r = true →
          (run { app.media.mediaObj.mediaTransmittingFlag := 2
                 app.media.mediaObj.sdDataFlag := 1
                 app.sdAckFlag.currentPosition0201H := 1
                 app.link.devLoginOperateEnable := 2
                 app.link.dataLinkOnline := 1 } [.appTurn]).pending r = true :=
  sent_of_media ⟨by decide, trivial⟩

end Terminal

end VehicleRecorder.Protocol
