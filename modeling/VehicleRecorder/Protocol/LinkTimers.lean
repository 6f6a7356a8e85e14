import VehicleRecorder.Protocol.LoginRuns

/-!
# The clocks of the link

Once the link is to be closed, eleven seconds of the modem's timer go by, in
which the terminal is offline, and then it is dialled anew.  A dial that does not
succeed resets the terminal after 301 seconds.  Neither depends on what the other
threads do, or on what the modem says.
-/

namespace VehicleRecorder.Protocol

namespace Terminal

/-- The step is a second of the timer of the modem. -/
def Event.isGsmSecond : Event → Bool
  | .gsmSecond => true
  | _ => false

/-! ## The other steps -/

/-- What a step leaves of the clocks of the link, if it is neither a second of
the modem's timer nor a turn of the modem thread. -/
structure SameClocks (t u : Terminal) : Prop where
  endFlag : u.modem.dataLinkEndFlag = t.modem.dataLinkEndFlag ∨
    u.modem.dataLinkEndFlag = 1
  endCounter : u.modem.dataLinkEndCounter = t.modem.dataLinkEndCounter
  dial : u.modem.dial = t.modem.dial
  wdgResetFlag : u.modem.wdgResetFlag = t.modem.wdgResetFlag ∨
    u.modem.wdgResetFlag = 1

theorem sameClocks_serve (t : Terminal) (r : Request) :
    t.SameClocks (t.serve r) := by
  cases r with
  | media0801 =>
      rw [serve]
      split <;> exact ⟨Or.inl rfl, rfl, rfl, Or.inl rfl⟩
  | recorder0700 =>
      rw [serve]
      split <;> exact ⟨Or.inl rfl, rfl, rfl, Or.inl rfl⟩
  | commonAck0001 =>
      rw [serve, afterCommonAck]
      split
      · exact ⟨Or.inr rfl, rfl, rfl, Or.inl rfl⟩
      · exact ⟨Or.inl rfl, rfl, rfl, Or.inl rfl⟩
      · exact ⟨Or.inr rfl, rfl, rfl, Or.inl rfl⟩
      · exact ⟨Or.inl rfl, rfl, rfl, Or.inl rfl⟩
  | normal0200 =>
      rw [serve]
      split <;> exact ⟨Or.inl rfl, rfl, rfl, Or.inl rfl⟩
  | _ => exact ⟨Or.inl rfl, rfl, rfl, Or.inl rfl⟩

theorem sameClocks_appReport (t : Terminal) : t.SameClocks t.appReport := by
  cases hreport : Event.appTurn.reports t with
  | true =>
      have hcall : t.appReport = sendServer.call t := step_of_reports hreport
      rw [hcall]
      rcases report_cases t with heq | ⟨j, -, heq⟩
      · rw [heq]
        exact ⟨Or.inl rfl, rfl, rfl, Or.inl rfl⟩
      · rw [heq]
        exact sameClocks_serve t j
  | false =>
      have hnot : ¬ (t.dataLinkStatus && t.callIdle) = true :=
        Bool.eq_false_iff.mp hreport
      rw [appReport, if_neg hnot]
      split <;> exact ⟨Or.inl rfl, rfl, rfl, Or.inl rfl⟩

theorem sameClocks_commAtTimer (t : Terminal) :
    t.SameClocks t.commAtTimer := by
  unfold commAtTimer
  dsimp only
  split
  · split <;> exact ⟨Or.inl rfl, rfl, rfl, Or.inl rfl⟩
  · exact ⟨Or.inl rfl, rfl, rfl, Or.inl rfl⟩

theorem sameClocks_step {t : Terminal} {e : Event}
    (hsecond : e.isGsmSecond = false) (hturn : ∀ line, e ≠ .gsmTurn line) :
    t.SameClocks (t.step e) := by
  cases e with
  | appTurn => exact sameClocks_appReport t
  | appSecond =>
      obtain ⟨-, -, -, -, -, -, -, hflag, hcounter, hdial, hwdg⟩ :=
        ticks_appSecond t
      exact ⟨hflag, hcounter, hdial, hwdg⟩
  | appTick => exact sameClocks_commAtTimer t
  | gsmTurn line => exact absurd rfl (hturn line)
  | gsmSecond => cases hsecond
  | socketMainSet => exact ⟨Or.inr rfl, rfl, rfl, Or.inl rfl⟩
  | _ => exact ⟨Or.inl rfl, rfl, rfl, Or.inl rfl⟩

/-- Only the timer of the modem counts the seconds of a closing, and only it
ends one. -/
theorem closing_step {t : Terminal} {e : Event} (he : e.isGsmSecond = false)
    (h : t.modem.dataLinkEndFlag = 1) :
    (t.step e).modem.dataLinkEndFlag = 1 ∧
      (t.step e).modem.dataLinkEndCounter = t.modem.dataLinkEndCounter := by
  have hset {v : UInt8} (hv : v = t.modem.dataLinkEndFlag ∨ v = 1) : v = 1 := by
    rcases hv with rfl | hone
    · exact h
    · exact hone
  by_cases hturn : ∃ line, e = .gsmTurn line
  · obtain ⟨line, rfl⟩ := hturn
    have heffect := effect_gsmTurn t line
    exact ⟨hset heffect.endFlag, heffect.endCounter⟩
  · have hsame := sameClocks_step (t := t) he fun line heq => hturn ⟨line, heq⟩
    exact ⟨hset hsame.endFlag, hsame.endCounter⟩

/-! ## A second of a closing -/

/-- The dial begins anew, and the terminal is offline. -/
structure Redialled (t : Terminal) : Prop where
  endFlag : t.modem.dataLinkEndFlag = 0
  endCounter : t.modem.dataLinkEndCounter = 0
  online : t.app.link.dataLinkOnline = 0
  dialOn : t.modem.dial.dialOn = 1
  dialStep : t.modem.dial.dialStep = .dialInit0
  totalInitial : t.modem.commAt.totalInitial = 0

/-- The closing goes on, and the terminal is offline. -/
structure Closing (n : UInt8) (t : Terminal) : Prop where
  endFlag : t.modem.dataLinkEndFlag = 1
  endCounter : t.modem.dataLinkEndCounter = n
  online : t.app.link.dataLinkOnline = 0

theorem closing_closeSockets {n : UInt8} {t : Terminal} (h : t.Closing n) :
    t.closeSockets.Closing n := by
  obtain ⟨hflag, hcounter, hoff⟩ := h
  unfold closeSockets
  split
  · exact ⟨hflag, hcounter, hoff⟩
  · split
    · exact ⟨hflag, hcounter, hoff⟩
    · split <;> exact ⟨hflag, hcounter, hoff⟩

theorem closing_hangUp {n : UInt8} {t : Terminal} (h : t.Closing n)
    (hn : n ≤ 10) : t.hangUp.Closing n := by
  obtain ⟨hflag, hcounter, hoff⟩ := h
  unfold hangUp
  split
  · exact ⟨hflag, hcounter, hoff⟩
  · rw [if_neg (by rw [hcounter]; exact UInt8.not_lt.mpr hn)]
    exact ⟨hflag, hcounter, hoff⟩

theorem redialled_hangUp {t : Terminal} (h : t.Closing 11) :
    t.hangUp.Redialled ∧ t.hangUp.modem.dial.startDialCounter = 0 := by
  obtain ⟨-, hcounter, hoff⟩ := h
  unfold hangUp
  rw [if_neg (by rw [hcounter]; decide), if_pos (by rw [hcounter]; decide)]
  exact ⟨⟨rfl, rfl, hoff, rfl, rfl, rfl⟩, rfl⟩

theorem closing_endDatalink {t : Terminal} (h : t.modem.dataLinkEndFlag = 1)
    (hn : t.modem.dataLinkEndCounter + 1 ≤ 10) :
    t.endDatalink.Closing (t.modem.dataLinkEndCounter + 1) := by
  unfold endDatalink
  rw [if_pos h]
  exact closing_hangUp (closing_closeSockets ⟨h, rfl, rfl⟩) hn

theorem redialled_endDatalink {t : Terminal} (h : t.modem.dataLinkEndFlag = 1)
    (hn : t.modem.dataLinkEndCounter = 10) :
    t.endDatalink.Redialled ∧
      t.endDatalink.modem.dial.startDialCounter = 0 := by
  unfold endDatalink
  rw [if_pos h, hn]
  exact redialled_hangUp (closing_closeSockets ⟨h, rfl, rfl⟩)

theorem ispTimer_of_offline {t : Terminal}
    (h : t.app.link.dataLinkOnline = 0) : t.ispTimer = t.tcp2HeartTimer := by
  have hoff : t.dataLinkStatus = false :=
    decide_eq_false (not_not_intro h)
  rw [ispTimer, readyDialTimer, hoff, Bool.and_false,
    if_neg Bool.false_ne_true]

/-- What the timers of `timeout_gsm` leave that have nothing to do with the
link. -/
structure SameLink (t u : Terminal) : Prop where
  endFlag : u.modem.dataLinkEndFlag = t.modem.dataLinkEndFlag
  endCounter : u.modem.dataLinkEndCounter = t.modem.dataLinkEndCounter
  online : u.app.link.dataLinkOnline = t.app.link.dataLinkOnline
  dial : u.modem.dial = t.modem.dial
  totalInitial : u.modem.commAt.totalInitial = t.modem.commAt.totalInitial
  wdgResetFlag : u.modem.wdgResetFlag = t.modem.wdgResetFlag

theorem SameLink.closing {t u : Terminal} {n : UInt8} (h : t.SameLink u)
    (ht : t.Closing n) : u.Closing n where
  endFlag := h.endFlag.trans ht.endFlag
  endCounter := h.endCounter.trans ht.endCounter
  online := h.online.trans ht.online

theorem SameLink.redialled {t u : Terminal} (h : t.SameLink u)
    (ht : t.Redialled) : u.Redialled where
  endFlag := h.endFlag.trans ht.endFlag
  endCounter := h.endCounter.trans ht.endCounter
  online := h.online.trans ht.online
  dialOn := (congrArg DataDial.dialOn h.dial).trans ht.dialOn
  dialStep := (congrArg DataDial.dialStep h.dial).trans ht.dialStep
  totalInitial := h.totalInitial.trans ht.totalInitial

theorem SameLink.trans {t u v : Terminal} (h : t.SameLink u)
    (h' : u.SameLink v) : t.SameLink v where
  endFlag := h'.endFlag.trans h.endFlag
  endCounter := h'.endCounter.trans h.endCounter
  online := h'.online.trans h.online
  dial := h'.dial.trans h.dial
  totalInitial := h'.totalInitial.trans h.totalInitial
  wdgResetFlag := h'.wdgResetFlag.trans h.wdgResetFlag

theorem sameLink_gprsGsmPowerOn (t : Terminal) :
    t.SameLink t.gprsGsmPowerOn := by
  unfold gprsGsmPowerOn
  dsimp only
  split
  · exact ⟨rfl, rfl, rfl, rfl, rfl, rfl⟩
  · split <;> exact ⟨rfl, rfl, rfl, rfl, rfl, rfl⟩

theorem sameLink_tcp2HeartTimer (t : Terminal) :
    t.SameLink t.tcp2HeartTimer := by
  unfold tcp2HeartTimer
  split
  · dsimp only
    split <;> exact ⟨rfl, rfl, rfl, rfl, rfl, rfl⟩
  · exact ⟨rfl, rfl, rfl, rfl, rfl, rfl⟩

theorem sameLink_ttsExceptionTimeLimt (t : Terminal) :
    t.SameLink t.ttsExceptionTimeLimt := by
  unfold ttsExceptionTimeLimt
  dsimp only
  split
  · split <;> exact ⟨rfl, rfl, rfl, rfl, rfl, rfl⟩
  · exact ⟨rfl, rfl, rfl, rfl, rfl, rfl⟩

/-- While the terminal is offline, the timers between the closing and the clock
of the dial have nothing to do with the link. -/
theorem sameLink_timers {t : Terminal} (h : t.app.link.dataLinkOnline = 0) :
    t.SameLink t.ispTimer.ttsExceptionTimeLimt := by
  rw [ispTimer_of_offline h]
  exact (sameLink_tcp2HeartTimer t).trans (sameLink_ttsExceptionTimeLimt _)

theorem closing_dialLinkTimeOutProcess {n : UInt8} {t : Terminal}
    (h : t.Closing n) : t.dialLinkTimeOutProcess.Closing n := by
  have hclose {t : Terminal} (h : t.Closing n) : t.closeSlowDial.Closing n := by
    unfold closeSlowDial
    split
    · exact ⟨rfl, h.endCounter, h.online⟩
    · exact h
  have hreset {t : Terminal} (h : t.Closing n) : t.resetSlowDial.Closing n := by
    unfold resetSlowDial rstWriteAcConoffCounter
    split
    · split <;> exact ⟨h.endFlag, h.endCounter, h.online⟩
    · exact h
  unfold dialLinkTimeOutProcess
  split
  · exact hreset (hclose ⟨h.endFlag, h.endCounter, h.online⟩)
  · exact ⟨h.endFlag, h.endCounter, h.online⟩

theorem redialled_dialLinkTimeOutProcess {t : Terminal} (h : t.Redialled)
    (hcounter : t.modem.dial.startDialCounter = 0) :
    t.dialLinkTimeOutProcess.Redialled := by
  unfold dialLinkTimeOutProcess
  split
  · have hearly : ¬ (0 + 1) % 65536 = 293 := by decide
    have hlate : ¬ (0 + 1) % 65536 > 300 := by decide
    rw [hcounter, closeSlowDial, if_neg hearly, resetSlowDial, if_neg hlate]
    exact ⟨h.endFlag, h.endCounter, h.online, h.dialOn, h.dialStep,
      h.totalInitial⟩
  · exact ⟨h.endFlag, h.endCounter, h.online, h.dialOn, h.dialStep,
      h.totalInitial⟩

/-- A second in which a closing goes on. -/
theorem closing_timeoutGsm {t : Terminal} (h : t.modem.dataLinkEndFlag = 1)
    (hn : t.modem.dataLinkEndCounter + 1 ≤ 10) :
    t.timeoutGsm.Closing (t.modem.dataLinkEndCounter + 1) := by
  have hpower := sameLink_gprsGsmPowerOn t
  have hend : t.gprsGsmPowerOn.endDatalink.Closing
      (t.gprsGsmPowerOn.modem.dataLinkEndCounter + 1) :=
    closing_endDatalink (hpower.endFlag.trans h) (hpower.endCounter ▸ hn)
  rw [hpower.endCounter] at hend
  exact closing_dialLinkTimeOutProcess
    ((sameLink_timers hend.online).closing hend)

/-- The second in which a closing ends. -/
theorem redialled_timeoutGsm {t : Terminal} (h : t.modem.dataLinkEndFlag = 1)
    (hn : t.modem.dataLinkEndCounter = 10) : t.timeoutGsm.Redialled := by
  have hpower := sameLink_gprsGsmPowerOn t
  obtain ⟨hend, hcounter⟩ := redialled_endDatalink
    (hpower.endFlag.trans h) (hpower.endCounter.trans hn)
  have htimers := sameLink_timers hend.online
  refine redialled_dialLinkTimeOutProcess (htimers.redialled hend) ?_
  exact (congrArg DataDial.startDialCounter htimers.dial).trans hcounter

/-- A closing that is under way. -/
structure BeingClosed (t : Terminal) : Prop where
  endFlag : t.modem.dataLinkEndFlag = 1
  endCounter : t.modem.dataLinkEndCounter.toNat ≤ 10

theorem beingClosed_second {t : Terminal} (h : t.BeingClosed)
    (hn : t.modem.dataLinkEndCounter.toNat ≠ 10) :
    (t.step .gsmSecond).BeingClosed ∧
      (t.step .gsmSecond).modem.dataLinkEndCounter.toNat =
        t.modem.dataLinkEndCounter.toNat + 1 ∧
      (t.step .gsmSecond).app.link.dataLinkOnline = 0 := by
  have hle := h.endCounter
  have hnext : (t.modem.dataLinkEndCounter + 1).toNat =
      t.modem.dataLinkEndCounter.toNat + 1 := by
    have hone : (1 : UInt8).toNat = 1 := rfl
    rw [UInt8.toNat_add, hone]
    exact Nat.mod_eq_of_lt (by omega)
  have hten : t.modem.dataLinkEndCounter + 1 ≤ 10 := by
    have hbound : (10 : UInt8).toNat = 10 := rfl
    exact UInt8.le_iff_toNat_le.mpr (by omega)
  have hclosing := closing_timeoutGsm h.endFlag hten
  rw [step_gsmSecond]
  have hcounter := (congrArg UInt8.toNat hclosing.endCounter).trans hnext
  exact ⟨⟨hclosing.endFlag, by omega⟩, hcounter, hclosing.online⟩

theorem beingClosed_other {t : Terminal} {e : Event} (h : t.BeingClosed)
    (he : e.isGsmSecond = false) :
    (t.step e).BeingClosed ∧ (t.step e).modem.dataLinkEndCounter =
      t.modem.dataLinkEndCounter := by
  obtain ⟨hflag, hcounter⟩ := closing_step he h.endFlag
  exact ⟨⟨hflag, hcounter ▸ h.endCounter⟩, hcounter⟩

/-- In every order of the steps, a link that is to be closed is closed and
dialled anew in the eleventh second of the modem's timer: every second before it
leaves the terminal offline, and that second leaves it at the beginning of a
dial. -/
theorem closing_completes {t : Terminal} {es : List Event}
    (ht : t.BeingClosed)
    (hlong : 11 ≤ t.modem.dataLinkEndCounter.toNat +
      es.countP Event.isGsmSecond) :
    ∃ es₁ es₂, es = es₁ ++ .gsmSecond :: es₂ ∧
      t.modem.dataLinkEndCounter.toNat + es₁.countP Event.isGsmSecond = 10 ∧
      (t.run (es₁ ++ [.gsmSecond])).Redialled ∧
      ∀ es₃, es₃ ++ [Event.gsmSecond] <+: es₁ →
        (t.run (es₃ ++ [.gsmSecond])).app.link.dataLinkOnline = 0 := by
  induction es generalizing t with
  | nil =>
      have hle := ht.endCounter
      rw [List.countP_nil] at hlong
      omega
  | cons e es ih =>
      cases hsecond : e.isGsmSecond with
      | true =>
          obtain rfl : e = .gsmSecond := by
            cases e <;> first | rfl | cases hsecond
          by_cases hten : t.modem.dataLinkEndCounter.toNat = 10
          · refine ⟨[], es, rfl, hten, ?_, fun es₃ hpre => ?_⟩
            · rw [List.nil_append, run_cons, run_nil, step_gsmSecond]
              exact redialled_timeoutGsm ht.endFlag (UInt8.toNat_inj.mp hten)
            · exact absurd (List.prefix_nil.mp hpre) (by simp)
          · obtain ⟨hnext, hcounter, hoff⟩ := beingClosed_second ht hten
            rw [List.countP_cons_of_pos hsecond] at hlong
            obtain ⟨es₁, es₂, rfl, hcount, hdone, hbefore⟩ := ih hnext (by omega)
            refine ⟨.gsmSecond :: es₁, es₂, rfl, ?_, ?_, fun es₃ hpre => ?_⟩
            · rw [List.countP_cons_of_pos hsecond]
              omega
            · rw [List.cons_append, run_cons]
              exact hdone
            · cases es₃ with
              | nil =>
                  rw [List.nil_append, run_cons, run_nil]
                  exact hoff
              | cons e₃ es₃ =>
                  obtain ⟨rfl, htail⟩ := List.cons_prefix_cons.mp hpre
                  rw [List.cons_append, run_cons]
                  exact hbefore es₃ htail
      | false =>
          obtain ⟨hnext, hcounter⟩ := beingClosed_other ht hsecond
          have hskip : ¬ e.isGsmSecond = true := by
            rw [hsecond]
            exact Bool.false_ne_true
          rw [List.countP_cons_of_neg hskip] at hlong
          obtain ⟨es₁, es₂, rfl, hcount, hdone, hbefore⟩ :=
            ih hnext (by rwa [hcounter])
          refine ⟨e :: es₁, es₂, rfl, ?_, ?_, fun es₃ hpre => ?_⟩
          · rw [List.countP_cons_of_neg hskip, ← hcounter]
            exact hcount
          · rw [List.cons_append, run_cons]
            exact hdone
          · cases es₃ with
            | nil =>
                obtain ⟨rfl, -⟩ := List.cons_prefix_cons.mp hpre
                cases hsecond
            | cons e₃ es₃ =>
                obtain ⟨rfl, htail⟩ := List.cons_prefix_cons.mp hpre
                rw [List.cons_append, run_cons]
                exact hbefore es₃ htail

/-- A link that the platform has closed, with other steps between the seconds. -/
theorem closing_completes_eleven :
    ∃ es₁ es₂, List.replicate 11 Event.gsmSecond ++ [.appTurn] =
        es₁ ++ .gsmSecond :: es₂ ∧
      0 + es₁.countP Event.isGsmSecond = 10 ∧
      (run { modem.dataLinkEndFlag := 1 } (es₁ ++ [.gsmSecond])).Redialled ∧
      ∀ es₃, es₃ ++ [Event.gsmSecond] <+: es₁ →
        (run { modem.dataLinkEndFlag := 1 }
          (es₃ ++ [.gsmSecond])).app.link.dataLinkOnline = 0 :=
  closing_completes (t := { modem.dataLinkEndFlag := 1 })
    ⟨rfl, Nat.zero_le _⟩ (by decide)

/-! ## The clock of the dial -/

/-- `DataDial.start_dial_stateFLAG` and `DataDial.start_dial_counter`. -/
def dialClock (t : Terminal) : UInt8 × ℕ :=
  (t.modem.dial.startDialStateFlag, t.modem.dial.startDialCounter)

theorem dialClock_gsmThreadTurn_of_idle {t : Terminal}
    (h : t.modem.dial.dialStep = .idle) :
    t.gsmThreadTurn.dialClock = t.dialClock := by
  have hplay (t : Terminal) : t.ttsDataPlay.dialClock = t.dialClock := by
    unfold ttsDataPlay
    split
    · rfl
    · dsimp only
      split
      · split <;> rfl
      · split <;> rfl
  rw [gsmThreadTurn, hplay, dataLinkProcess, if_pos (Or.inr h), dialStepTimer,
    if_pos (Or.inr h)]

/-- The dial goes on without touching its clock, or it has succeeded. -/
theorem dialClock_dialMove (t : Terminal) (r : LineResult) :
    (t.dialMove r).dialClock = t.dialClock ∨
      (t.dialMove r).modem.dial.startDialStateFlag = 0 ∧
        (t.dialMove r).modem.dial.dialStep = .idle := by
  unfold dialMove nextOnOk
  split
  · exact Or.inl rfl
  · split
    case h_10 =>
        split
        · exact Or.inl rfl
        · split
          · exact Or.inr ⟨rfl, rfl⟩
          · exact Or.inl rfl
    case h_11 =>
        split
        · exact Or.inl rfl
        · split
          · exact Or.inr ⟨rfl, rfl⟩
          · exact Or.inl rfl
    case h_12 =>
        split
        · exact Or.inl rfl
        · split <;> exact Or.inl rfl
    case h_13 => exact Or.inl rfl
    case h_14 => exact Or.inl rfl
    all_goals split <;> exact Or.inl rfl

/-- A turn of the modem thread behind which the clock runs has not moved it. -/
theorem startDialCounter_gsmTurn {t : Terminal} {line : Option (List UInt8)}
    (h : (t.gsmTurn line).modem.dial.startDialStateFlag = 1) :
    (t.gsmTurn line).modem.dial.startDialCounter =
      t.modem.dial.startDialCounter := by
  obtain ⟨u, hu, heq | ⟨r, heq⟩⟩ := gsmTurn_cases t line
  · rw [heq]
    exact (hu.trans (keeps_gsmThreadTurn u)).startDialCounter
  · rw [heq] at h ⊢
    rcases dialClock_dialMove u r with hclock | ⟨hoff, hidle⟩
    · have hcounter := congrArg Prod.snd hclock
      exact (keeps_gsmThreadTurn _).startDialCounter.trans
        (hcounter.trans hu.startDialCounter)
    · have hclock := congrArg Prod.fst (dialClock_gsmThreadTurn_of_idle hidle)
      exact absurd (h.symm.trans (hclock.trans hoff)) (by decide)

/-- The clock of a dial runs, and no closing ends with the next second. -/
structure Dials (t : Terminal) : Prop where
  clock : t.modem.dial.startDialStateFlag = 1
  notClosed : t.modem.dataLinkEndFlag = 1 →
    t.modem.dataLinkEndCounter.toNat < 10

theorem startDialCounter_step {t : Terminal} {e : Event}
    (he : e.isGsmSecond = false) (hnext : (t.step e).Dials) :
    (t.step e).modem.dial.startDialCounter =
      t.modem.dial.startDialCounter := by
  by_cases hturn : ∃ line, e = .gsmTurn line
  · obtain ⟨line, rfl⟩ := hturn
    exact startDialCounter_gsmTurn hnext.clock
  · have hsame := sameClocks_step (t := t) he fun line heq => hturn ⟨line, heq⟩
    exact congrArg DataDial.startDialCounter hsame.dial

theorem dialClock_endDatalink {t : Terminal}
    (h : t.modem.dataLinkEndFlag = 1 →
      t.modem.dataLinkEndCounter.toNat < 10) :
    t.endDatalink.dialClock = t.dialClock := by
  have hsockets (t : Terminal) :
      t.closeSockets.dialClock = t.dialClock ∧
        t.closeSockets.modem.dataLinkEndCounter =
          t.modem.dataLinkEndCounter := by
    unfold closeSockets
    split
    · exact ⟨rfl, rfl⟩
    · split
      · exact ⟨rfl, rfl⟩
      · split <;> exact ⟨rfl, rfl⟩
  have hhang {t : Terminal} (h : t.modem.dataLinkEndCounter ≤ 10) :
      t.hangUp.dialClock = t.dialClock := by
    unfold hangUp
    split
    · rfl
    · rw [if_neg (UInt8.not_lt.mpr h)]
  unfold endDatalink
  split
  · rename_i hflag
    have hless := h hflag
    refine (hhang ?_).trans (hsockets _).1
    rw [(hsockets _).2]
    refine UInt8.le_iff_toNat_le.mpr ?_
    have hone : (1 : UInt8).toNat = 1 := rfl
    have hten : (10 : UInt8).toNat = 10 := rfl
    dsimp only
    rw [UInt8.toNat_add, hone, hten, Nat.mod_eq_of_lt (by omega)]
    omega
  · rfl

theorem dialClock_ispTimer (t : Terminal) :
    t.ispTimer.dialClock = t.dialClock := by
  have hready : t.readyDialTimer.dialClock = t.dialClock := by
    unfold readyDialTimer
    split
    · dsimp only
      split <;> rfl
    · rfl
  have hheart := (sameLink_tcp2HeartTimer t.readyDialTimer).dial
  rw [ispTimer, ← hready]
  exact congrArg (fun d : DataDial => (d.startDialStateFlag, d.startDialCounter))
    hheart

theorem wdgResetFlag_resetSlowDial {t : Terminal}
    (h : t.modem.dial.startDialCounter > 300) :
    t.resetSlowDial.modem.wdgResetFlag = 1 := by
  unfold resetSlowDial rstWriteAcConoffCounter
  rw [if_pos h]
  split <;> rfl

theorem startDialCounter_closeSlowDial (t : Terminal) :
    t.closeSlowDial.modem.dial.startDialCounter =
      t.modem.dial.startDialCounter := by
  unfold closeSlowDial
  split <;> rfl

/-- A second of the clock: it is counted, or it was one too many. -/
theorem dialLinkTimeOutProcess_running {t : Terminal}
    (h : t.modem.dial.startDialStateFlag = 1)
    (hcounter : t.modem.dial.startDialCounter ≤ 300) :
    if t.modem.dial.startDialCounter = 300 then
      t.dialLinkTimeOutProcess.modem.wdgResetFlag = 1
    else t.dialLinkTimeOutProcess.modem.dial.startDialCounter =
      t.modem.dial.startDialCounter + 1 := by
  have hmod : (t.modem.dial.startDialCounter + 1) % 65536 =
      t.modem.dial.startDialCounter + 1 := Nat.mod_eq_of_lt (by omega)
  rw [dialLinkTimeOutProcess, if_pos h, hmod]
  split
  · rename_i hlast
    refine wdgResetFlag_resetSlowDial ?_
    rw [startDialCounter_closeSlowDial]
    dsimp only
    omega
  · rename_i hmore
    rw [resetSlowDial, if_neg]
    · rw [startDialCounter_closeSlowDial]
    · rw [startDialCounter_closeSlowDial]
      dsimp only
      omega

theorem dials_timeoutGsm {t : Terminal} (h : t.Dials)
    (hcounter : t.modem.dial.startDialCounter ≤ 300) :
    if t.modem.dial.startDialCounter = 300 then
      t.timeoutGsm.modem.wdgResetFlag = 1
    else t.timeoutGsm.modem.dial.startDialCounter =
      t.modem.dial.startDialCounter + 1 := by
  have hpower := sameLink_gprsGsmPowerOn t
  have hpowered : t.gprsGsmPowerOn.dialClock = t.dialClock :=
    congrArg (fun d : DataDial => (d.startDialStateFlag, d.startDialCounter))
      hpower.dial
  have hnotClosed : t.gprsGsmPowerOn.modem.dataLinkEndFlag = 1 →
      t.gprsGsmPowerOn.modem.dataLinkEndCounter.toNat < 10 := by
    rw [hpower.endFlag, hpower.endCounter]
    exact h.notClosed
  have hplayed (u : Terminal) :
      u.ttsExceptionTimeLimt.dialClock = u.dialClock :=
    congrArg (fun d : DataDial => (d.startDialStateFlag, d.startDialCounter))
      (sameLink_ttsExceptionTimeLimt u).dial
  have hclock :
      t.gprsGsmPowerOn.endDatalink.ispTimer.ttsExceptionTimeLimt.dialClock =
        t.dialClock := by
    rw [hplayed, dialClock_ispTimer, dialClock_endDatalink hnotClosed, hpowered]
  rw [timeoutGsm]
  generalize t.gprsGsmPowerOn.endDatalink.ispTimer.ttsExceptionTimeLimt = u
    at hclock ⊢
  have hflag : u.modem.dial.startDialStateFlag = 1 :=
    (congrArg Prod.fst hclock).trans h.clock
  have hsame : u.modem.dial.startDialCounter = t.modem.dial.startDialCounter :=
    congrArg Prod.snd hclock
  rw [← hsame] at hcounter ⊢
  exact dialLinkTimeOutProcess_running hflag hcounter

/-! ## A reset stays -/

theorem wdgResetFlag_endDatalink (t : Terminal) :
    t.endDatalink.modem.wdgResetFlag = t.modem.wdgResetFlag := by
  have hsockets (t : Terminal) :
      t.closeSockets.modem.wdgResetFlag = t.modem.wdgResetFlag := by
    unfold closeSockets
    split
    · rfl
    · split
      · rfl
      · split <;> rfl
  have hhang (t : Terminal) :
      t.hangUp.modem.wdgResetFlag = t.modem.wdgResetFlag := by
    unfold hangUp
    split
    · rfl
    · split <;> rfl
  unfold endDatalink
  split
  · rw [hhang, hsockets]
  · rfl

theorem wdgResetFlag_ispTimer (t : Terminal) :
    t.ispTimer.modem.wdgResetFlag = t.modem.wdgResetFlag := by
  have hready :
      t.readyDialTimer.modem.wdgResetFlag = t.modem.wdgResetFlag := by
    unfold readyDialTimer
    split
    · dsimp only
      split <;> rfl
    · rfl
  rw [ispTimer, (sameLink_tcp2HeartTimer _).wdgResetFlag, hready]

theorem wdgResetFlag_dialLinkTimeOutProcess {t : Terminal}
    (h : t.modem.wdgResetFlag = 1) :
    t.dialLinkTimeOutProcess.modem.wdgResetFlag = 1 := by
  have hclose (t : Terminal) :
      t.closeSlowDial.modem.wdgResetFlag = t.modem.wdgResetFlag := by
    unfold closeSlowDial
    split <;> rfl
  have hreset {t : Terminal} (h : t.modem.wdgResetFlag = 1) :
      t.resetSlowDial.modem.wdgResetFlag = 1 := by
    unfold resetSlowDial rstWriteAcConoffCounter
    split
    · split <;> rfl
    · exact h
  unfold dialLinkTimeOutProcess
  split
  · exact hreset ((hclose _).trans h)
  · exact h

theorem wdgResetFlag_timeoutGsm {t : Terminal}
    (h : t.modem.wdgResetFlag = 1) : t.timeoutGsm.modem.wdgResetFlag = 1 := by
  rw [timeoutGsm]
  refine wdgResetFlag_dialLinkTimeOutProcess ?_
  rw [(sameLink_ttsExceptionTimeLimt _).wdgResetFlag, wdgResetFlag_ispTimer,
    wdgResetFlag_endDatalink, (sameLink_gprsGsmPowerOn t).wdgResetFlag]
  exact h

theorem wdgResetFlag_step {t : Terminal} (e : Event)
    (h : t.modem.wdgResetFlag = 1) : (t.step e).modem.wdgResetFlag = 1 := by
  by_cases hsecond : e.isGsmSecond = true
  · obtain rfl : e = .gsmSecond := by
      cases e <;> first | rfl | cases hsecond
    rw [step_gsmSecond]
    exact wdgResetFlag_timeoutGsm h
  · by_cases hturn : ∃ line, e = .gsmTurn line
    · obtain ⟨line, rfl⟩ := hturn
      exact (effect_gsmTurn t line).wdgResetFlag.trans h
    · have hsame := sameClocks_step (t := t) (Bool.eq_false_iff.mpr hsecond)
        fun line heq => hturn ⟨line, heq⟩
      rcases hsame.wdgResetFlag with heq | hone
      · exact heq.trans h
      · exact hone

theorem wdgResetFlag_run {t : Terminal} (h : t.modem.wdgResetFlag = 1)
    (es : List Event) : (t.run es).modem.wdgResetFlag = 1 := by
  induction es generalizing t with
  | nil => exact h
  | cons e es ih =>
      rw [run_cons]
      exact ih (wdgResetFlag_step e h)

/-- In every order of the steps, a dial that does not bring the link up, and is
not begun anew, resets the terminal in its 301st second. -/
theorem dial_resets {t : Terminal} {es : List Event}
    (hcounter : t.modem.dial.startDialCounter ≤ 300)
    (h : Runs.Meeting step (fun t _ => t.Dials) t es)
    (hlong : 301 ≤ t.modem.dial.startDialCounter +
      es.countP Event.isGsmSecond) :
    (t.run es).modem.wdgResetFlag = 1 := by
  induction es generalizing t with
  | nil =>
      rw [List.countP_nil] at hlong
      omega
  | cons e es ih =>
      rw [run_cons]
      cases hsecond : e.isGsmSecond with
      | true =>
          obtain rfl : e = .gsmSecond := by
            cases e <;> first | rfl | cases hsecond
          have hstep := dials_timeoutGsm h.1 hcounter
          rw [← step_gsmSecond] at hstep
          split at hstep
          · exact wdgResetFlag_run hstep es
          · rw [List.countP_cons_of_pos hsecond] at hlong
            exact ih (by omega) h.2 (by omega)
      | false =>
          have hskip : ¬ e.isGsmSecond = true := by
            rw [hsecond]
            exact Bool.false_ne_true
          rw [List.countP_cons_of_neg hskip] at hlong
          cases es with
          | nil =>
              rw [List.countP_nil] at hlong
              omega
          | cons e' es =>
              have hsame := startDialCounter_step hsecond h.2.1
              exact ih (by omega) h.2 (by rwa [hsame])

instance decidableDials (t : Terminal) : Decidable t.Dials :=
  decidable_of_iff
    (t.modem.dial.startDialStateFlag = 1 ∧ (t.modem.dataLinkEndFlag = 1 →
      t.modem.dataLinkEndCounter.toNat < 10))
    ⟨fun ⟨hclock, hclosed⟩ => ⟨hclock, hclosed⟩,
      fun h => ⟨h.clock, h.notClosed⟩⟩

/-- A dial just begun. -/
def dialBegun : Terminal := { modem.dial.startDialStateFlag := 1 }

/-- Five minutes and a second, with turns of both threads in each. -/
def longDial : List Event :=
  (List.replicate 301 [.appTurn, .gsmTurn none, .gsmSecond]).flatten

theorem dial_resets_late : (dialBegun.run longDial).modem.wdgResetFlag = 1 :=
  dial_resets (Nat.zero_le 300) (by decide +kernel) (by decide +kernel)

end Terminal

end VehicleRecorder.Protocol
