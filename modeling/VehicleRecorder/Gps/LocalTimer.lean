import VehicleRecorder.Gps.TimedReport

/-!
# The local timer

When the time of the receiver stands still, `GPS_Delta_DurPro` hands the timed
report over to `local_time`, which counts the seconds itself.  The difference
that is to show this is kept from the last two times that were unequal, so that
it is 0 only for as long as the receiver has not given a time yet.  For the
interval 30 `local_time` has a test of its own, which no second passes.
-/

namespace VehicleRecorder.Gps

open Driving Runs

/-! ## The function -/

namespace TimedReport

/-- The authentication of `local_time`, five seconds ahead of a report. -/
def announceLocal (t : TimedReport) : TimedReport :=
  if t.sleepState = 1 ∧ t.localTimer = t.currentSdDuration - 5 ∧
      5 < t.currentSdDuration then
    { t with sleepConfigFlag := 1 }
  else t

end TimedReport

namespace GpsState

/-- The report of `local_time`. -/
def localReport (s : GpsState) : GpsState :=
  { s.positionSdEnable with drive.dev.currentUdpSd := 1 }

/-- `local_time` with the interval 30. -/
def localTime30 (s : GpsState) : GpsState :=
  let now := s.drive.timeNow
  let s : GpsState :=
    { s with
      gpsGprs.date :=
        ⟨UInt8.ofNat now.year, UInt8.ofNat now.month, UInt8.ofNat now.day⟩
      gpsGprs.time :=
        ⟨UInt8.ofNat now.hour, UInt8.ofNat now.min, UInt8.ofNat now.sec⟩ }
  if s.gpsGprs.time.sec = 20 ∧ s.gpsGprs.time.sec = 50 then s.localReport else s

/-- `local_time` with another interval. -/
def localTimeCount (s : GpsState) : GpsState :=
  let t : TimedReport :=
    { s.timed with localTimer := (s.timed.localTimer + 1) % 4294967296 }
  let t := t.announceLocal
  if t.currentSdDuration ≤ t.localTimer then
    { s with timed := { t with localTimer := 0 } }.localReport
  else { s with timed := t }

/-- `local_time`. -/
def localTime (s : GpsState) : GpsState :=
  if s.timed.localTrig = 1 ∨ s.gpsGetfirst = 2 then
    if s.timed.currentSdDuration = 30 then s.localTime30 else s.localTimeCount
  else s

end GpsState

/-! ## Histories -/

/-- A second of the clock of the unit, with the variables that other parts
set. -/
structure ClockSecond where
  now : TDateTime
  hour_lt : now.hour < 24 := by decide
  min_lt : now.min < 60 := by decide
  sec_lt : now.sec < 60 := by decide
  sleepState : UInt8 := 0
  gpsGetfirst : UInt8 := 1
  deriving Repr

/-- The seconds since midnight. -/
def ClockSecond.seconds (k : ClockSecond) : ℕ :=
  k.now.hour * 60 * 60 + k.now.min * 60 + k.now.sec

theorem ClockSecond.seconds_mod (k : ClockSecond) : k.seconds % 60 = k.now.sec := by
  have hsec := k.sec_lt
  unfold ClockSecond.seconds
  omega

/-- A call of `GPS_Delta_DurPro` or of `local_time`. -/
inductive TimerCall
  | delta (c : Call)
  | second (k : ClockSecond)
  deriving Repr

/-- What is seen of a call: the time of the receiver, and whether the call took
the report back from the local timer; the time of the clock, and whether the
call triggered a report; and `local_trig` behind the call. -/
inductive SeenCall
  | delta (time : Hms) (clears : Bool) (localTrig : UInt8)
  | second (rtc : ℕ) (reports : Bool) (localTrig : UInt8)
  deriving DecidableEq, Repr

namespace SeenCall

/-- `local_trig` behind the call. -/
def localTrig : SeenCall → UInt8
  | delta _ _ trig => trig
  | second _ _ trig => trig

/-- The call took the report back from the local timer. -/
def clears : SeenCall → Bool
  | delta _ clears _ => clears
  | second _ _ _ => false

/-- The time a call of `GPS_Delta_DurPro` saw. -/
def time? : SeenCall → Option Hms
  | delta time _ _ => some time
  | second _ _ _ => none

/-- The time of the clock in a call of `local_time`, and whether it triggered a
report. -/
def second? : SeenCall → Option (ℕ × Bool)
  | delta _ _ _ => none
  | second rtc reports _ => some (rtc, reports)

end SeenCall

namespace GpsState

open TimedReport

/-- The variables as a call of `local_time` finds them, the last report being
sent. -/
def receiveSecond (s : GpsState) (k : ClockSecond) : GpsState :=
  { s with
    drive.timeNow := k.now
    drive.dev.positionSdEnable := false
    gpsGetfirst := k.gpsGetfirst
    timed.sleepState := k.sleepState }

/-- A call of `local_time`. -/
def second (s : GpsState) (k : ClockSecond) : GpsState :=
  (s.receiveSecond k).localTime

/-- The call of `GPS_Delta_DurPro` takes the report back from the local timer:
it triggers while a position has been found. -/
def Clears (s : GpsState) (c : Call) : Prop :=
  c.gpsGetfirst = 1 ∧ (s.receive c).timed.measure.Due

instance (s : GpsState) (c : Call) : Decidable (s.Clears c) :=
  inferInstanceAs (Decidable (_ ∧ _))

/-- The call of `GPS_Delta_DurPro` hands the report to the local timer and sets
it to 0: it is the twentieth that finds the difference of the times 0. -/
def HandsOver (s : GpsState) (c : Call) : Prop :=
  timeDelta s.timed.bakTimerSeconds c.time.seconds
      s.timed.bakDeltaTimerSeconds = 0 ∧
    (s.timed.gpstimerAbnormalCounter + 1) % 4294967296 = 20

instance (s : GpsState) (c : Call) : Decidable (s.HandsOver c) :=
  inferInstanceAs (Decidable (_ ∧ _))

end GpsState

/-- The variables, and what has been seen of the calls, oldest first. -/
structure History where
  state : GpsState
  seen : List SeenCall := []

namespace History

/-- A call. -/
def step (h : History) : TimerCall → History
  | .delta c =>
      { state := h.state.call c
        seen := h.seen ++ [.delta c.time.toHms (decide (h.state.Clears c))
          (h.state.call c).timed.localTrig] }
  | .second k =>
      { state := h.state.second k
        seen := h.seen ++ [.second k.seconds
          (h.state.second k).drive.dev.positionSdEnable
          (h.state.second k).timed.localTrig] }

/-- The times that the calls of `GPS_Delta_DurPro` saw. -/
def times (h : History) : List Hms := h.seen.filterMap SeenCall.time?

end History

/-- The times end in the same one twenty-one times. -/
def StandsStill (times : List Hms) : Prop :=
  ∃ t ∈ times, List.replicate 21 t <:+ times

instance (times : List Hms) : Decidable (StandsStill times) :=
  inferInstanceAs (Decidable (∃ t ∈ times, _))

/-- Each second of the clock follows the one before. -/
def Advances (rtcs : List ℕ) : Prop :=
  rtcs.IsChain fun a b => (a + 1) % 86400 = b

/-- The timed report survives a receiver whose time stands still: after
twenty-one calls with the same time the local timer is in charge, and while it
is, `D` consecutive seconds of the clock contain a report. -/
structure FallsBack (D : ℕ) (h : History) : Prop where
  enabled : StandsStill h.times → h.state.timed.localTrig = 1
  reports : ∀ w, w <:+: h.seen → (∀ x ∈ w, x.localTrig = 1) →
    (w.filterMap SeenCall.second?).length = D →
    Advances ((w.filterMap SeenCall.second?).map Prod.fst) →
    ∃ x ∈ w.filterMap SeenCall.second?, x.2 = true

/-! ## One call -/

namespace GpsState

open TimedReport

section Second

variable {s : GpsState} (k : ClockSecond)

theorem announceLocal_eq (t : TimedReport) :
    t.announceLocal =
      { t with sleepConfigFlag := t.announceLocal.sleepConfigFlag } := by
  unfold announceLocal
  split <;> rfl

/-- With the interval 30 no second triggers a report. -/
theorem localTime30_timed : s.localTime30.timed = s.timed := by
  unfold localTime30
  dsimp only
  split <;> rfl

/-- With another interval a second is counted, or the count is complete. -/
theorem localTimeCount_cases (hbound : s.timed.localTimer + 1 < 4294967296) :
    (s.timed.currentSdDuration ≤ s.timed.localTimer + 1 ∧
        s.localTimeCount.drive.dev.positionSdEnable = true ∧
        s.localTimeCount.timed =
          { s.timed with
            localTimer := 0
            sleepConfigFlag := s.localTimeCount.timed.sleepConfigFlag }) ∨
      (s.timed.localTimer + 1 < s.timed.currentSdDuration ∧
        s.localTimeCount.timed =
          { s.timed with
            localTimer := s.timed.localTimer + 1
            sleepConfigFlag := s.localTimeCount.timed.sleepConfigFlag }) := by
  unfold localTimeCount
  dsimp only
  rw [Nat.mod_eq_of_lt hbound, announceLocal_eq]
  dsimp only
  by_cases hdue : s.timed.currentSdDuration ≤ s.timed.localTimer + 1
  · rw [if_pos hdue]
    exact .inl ⟨hdue, rfl, rfl⟩
  · rw [if_neg hdue]
    exact .inr ⟨Nat.not_le.mp hdue, rfl⟩

/-- A call of `local_time` changes the timer and the flags of sleep alone. -/
theorem second_timed :
    (s.second k).timed =
      { s.timed with
        sleepState := k.sleepState
        sleepConfigFlag := (s.second k).timed.sleepConfigFlag
        localTimer := (s.second k).timed.localTimer } := by
  unfold second localTime
  split
  · split
    · rw [localTime30_timed]
      rfl
    · unfold localTimeCount
      dsimp only
      rw [announceLocal_eq]
      dsimp only
      split <;> rfl
  · rfl

/-- What a call of `local_time` does to the variables of the timer. -/
theorem second_cases (hbound : s.timed.localTimer + 1 < 4294967296) :
    (s.timed.currentSdDuration = 30 ∨ s.timed.localTrig ≠ 1) ∧
        (s.second k).timed.localTimer = s.timed.localTimer ∨
      (s.second k).drive.dev.positionSdEnable = true ∧
        (s.second k).timed.localTimer = 0 ∨
      s.timed.localTimer + 1 < s.timed.currentSdDuration ∧
        (s.second k).timed.localTimer = s.timed.localTimer + 1 := by
  have hcount := localTimeCount_cases (s := s.receiveSecond k) hbound
  unfold second localTime
  by_cases htakes : s.timed.localTrig = 1 ∨ k.gpsGetfirst = 2
  · rw [if_pos (show (s.receiveSecond k).timed.localTrig = 1 ∨
      (s.receiveSecond k).gpsGetfirst = 2 from htakes)]
    by_cases h30 : s.timed.currentSdDuration = 30
    · rw [if_pos (show (s.receiveSecond k).timed.currentSdDuration = 30 from
        h30), localTime30_timed]
      exact .inl ⟨.inl h30, rfl⟩
    · rw [if_neg (show (s.receiveSecond k).timed.currentSdDuration ≠ 30 from
        h30)]
      rcases hcount with ⟨-, hreports, htimed⟩ | ⟨hshort, htimed⟩
      · rw [htimed]
        exact .inr (.inl ⟨hreports, rfl⟩)
      · rw [htimed]
        exact .inr (.inr ⟨hshort, rfl⟩)
  · rw [if_neg (show ¬ ((s.receiveSecond k).timed.localTrig = 1 ∨
      (s.receiveSecond k).gpsGetfirst = 2) from htakes)]
    exact .inl ⟨.inr fun h => htakes (.inl h), rfl⟩

end Second

section Delta

variable {s : GpsState} (c : Call)

theorem sendTrigger_timed :
    s.sendTrigger.timed =
      if s.timed.Due then s.timed.trigger s.gpsGetfirst else s.timed := by
  unfold sendTrigger
  split <;> rfl

theorem trigger_tmp (gpsGetfirst : UInt8) (t : TimedReport) :
    (t.trigger gpsGetfirst).tmpTimeSeconds = t.tmpTimeSeconds := by
  unfold trigger
  dsimp only
  split <;> rfl

/-- What a call of `GPS_Delta_DurPro` leaves in its variables. -/
theorem durationReport_timed :
    s.durationReport.timed =
      let t := s.timed.measure.announce
      { (if t.Due then t.trigger s.gpsGetfirst else t).enableLocalTimer with
        bakTimerSeconds := s.timed.currentTime.seconds } := by
  set s₁ : GpsState :=
    if s.timed.currentTime.seconds = s.timed.bakTime.seconds then
      { s with udpDataPacketFlag := 0x03 }.statusRegGpsV
    else s with hs₁
  have htimed : s₁.timed = s.timed := by
    rw [hs₁]
    split <;> rfl
  have hfirst : s₁.gpsGetfirst = s.gpsGetfirst := by
    rw [hs₁]
    split <;> rfl
  have htmp : s.timed.measure.announce.tmpTimeSeconds =
      s.timed.currentTime.seconds := by
    rw [announce_eq]
    rfl
  rw [durationReport, ← hs₁]
  dsimp only
  rw [sendTrigger_timed]
  dsimp only
  rw [htimed, hfirst]
  split
  · rw [trigger_tmp, htmp]
  · rw [htmp]

/-- The local timer takes over with the twentieth difference of 0. -/
theorem enableLocalTimer_cases (t : TimedReport) :
    t.bakDeltaTimerSeconds = 0 ∧
        (t.gpstimerAbnormalCounter + 1) % 4294967296 = 20 ∧
        t.enableLocalTimer.localTrig = 1 ∧ t.enableLocalTimer.localTimer = 0 ∨
      ¬ (t.bakDeltaTimerSeconds = 0 ∧
          (t.gpstimerAbnormalCounter + 1) % 4294967296 = 20) ∧
        t.enableLocalTimer.localTrig = t.localTrig ∧
        t.enableLocalTimer.localTimer = t.localTimer := by
  unfold enableLocalTimer
  by_cases hstill : t.bakDeltaTimerSeconds = 0
  · rw [if_pos hstill]
    dsimp only
    by_cases hcount : (t.gpstimerAbnormalCounter + 1) % 4294967296 = 20
    · rw [if_pos hcount]
      exact .inl ⟨hstill, hcount, rfl, rfl⟩
    · rw [if_neg hcount]
      exact .inr ⟨fun h => hcount h.2, rfl, rfl⟩
  · rw [if_neg hstill]
    exact .inr ⟨fun h => hstill h.1, rfl, rfl⟩

/-- The variables behind a call, without the announcement of a sleeping unit. -/
theorem call_timed (hmode : s.timed.durTotalMode = 1) :
    let m := (s.receive c).timed.measure
    let t := { m with sleepConfigFlag := m.announce.sleepConfigFlag }
    (s.call c).timed =
      { (if t.Due then t.trigger c.gpsGetfirst else t).enableLocalTimer with
        bakTimerSeconds := c.time.seconds } := by
  intro m t
  have ht : m.announce = t := announce_eq m
  rw [call, gpsDeltaDurPro_timed (s.receive c) hmode, durationReport_timed,
    ← ht]
  rfl

/-- What a call of `GPS_Delta_DurPro` does to the variables of the local
timer. -/
theorem call_cases (hmode : s.timed.durTotalMode = 1) :
    (s.call c).timed.durTotalMode = s.timed.durTotalMode ∧
      (s.call c).timed.currentSdDuration = s.timed.currentSdDuration ∧
      (s.Clears c ∧ (s.call c).timed.localTrig = 0 ∧
          (s.call c).timed.localTimer = 0 ∨
        (¬ s.Clears c ∧ s.HandsOver c) ∧ (s.call c).timed.localTrig = 1 ∧
          (s.call c).timed.localTimer = 0 ∨
        (¬ s.Clears c ∧ ¬ s.HandsOver c) ∧
          (s.call c).timed.localTrig = s.timed.localTrig ∧
          (s.call c).timed.localTimer = s.timed.localTimer) := by
  set t : TimedReport :=
    { (s.receive c).timed.measure with
      sleepConfigFlag :=
        (s.receive c).timed.measure.announce.sleepConfigFlag } with ht
  set t' : TimedReport :=
    if t.Due then t.trigger c.gpsGetfirst else t with ht'
  have htimed : (s.call c).timed =
      { t'.enableLocalTimer with bakTimerSeconds := c.time.seconds } :=
    s.call_timed c hmode
  have hclears : s.Clears c ↔ c.gpsGetfirst = 1 ∧ t.Due := Iff.rfl
  have hkept : t'.durTotalMode = s.timed.durTotalMode ∧
      t'.currentSdDuration = s.timed.currentSdDuration ∧
      t'.bakDeltaTimerSeconds = timeDelta s.timed.bakTimerSeconds
        c.time.seconds s.timed.bakDeltaTimerSeconds := by
    rw [ht']
    split
    · unfold trigger
      dsimp only
      split <;> exact ⟨rfl, rfl, rfl⟩
    · exact ⟨rfl, rfl, rfl⟩
  have hmodes : (s.call c).timed.durTotalMode = t'.durTotalMode ∧
      (s.call c).timed.currentSdDuration = t'.currentSdDuration := by
    rw [htimed, enableLocalTimer_eq]
    exact ⟨rfl, rfl⟩
  refine ⟨hmodes.1.trans hkept.1, hmodes.2.trans hkept.2.1, ?_⟩
  rw [htimed]
  by_cases hc : s.Clears c
  · refine .inl ⟨hc, ?_⟩
    obtain ⟨hfirst, hdue⟩ := hclears.mp hc
    have hreset : t'.localTrig = 0 ∧ t'.localTimer = 0 ∧
        t'.gpstimerAbnormalCounter = 0 := by
      rw [ht', if_pos hdue, hfirst]
      exact ⟨rfl, rfl, rfl⟩
    rcases enableLocalTimer_cases t' with ⟨-, hcount, -⟩ | ⟨-, htrig, htimer⟩
    · rw [hreset.2.2] at hcount
      exact absurd hcount (by decide)
    · exact ⟨htrig.trans hreset.1, htimer.trans hreset.2.1⟩
  · have hsame : t'.localTrig = s.timed.localTrig ∧
        t'.localTimer = s.timed.localTimer ∧
        t'.gpstimerAbnormalCounter = s.timed.gpstimerAbnormalCounter := by
      rw [ht']
      split
      · rename_i hdue
        have hfirst : c.gpsGetfirst ≠ 1 := fun h => hc (hclears.mpr ⟨h, hdue⟩)
        rw [trigger, if_neg hfirst]
        exact ⟨rfl, rfl, rfl⟩
      · exact ⟨rfl, rfl, rfl⟩
    have hhands : s.HandsOver c ↔ t'.bakDeltaTimerSeconds = 0 ∧
        (t'.gpstimerAbnormalCounter + 1) % 4294967296 = 20 := by
      rw [hkept.2.2, hsame.2.2]
      rfl
    rcases enableLocalTimer_cases t' with
      ⟨hstill, hcount, htrig, htimer⟩ | ⟨hnot, htrig, htimer⟩
    · exact .inr (.inl ⟨⟨hc, hhands.mpr ⟨hstill, hcount⟩⟩, htrig, htimer⟩)
    · exact .inr (.inr ⟨⟨hc, mt hhands.mp hnot⟩, htrig.trans hsame.1,
        htimer.trans hsame.2.1⟩)

/-- What a call of `GPS_Delta_DurPro` does to the times and the differences. -/
theorem call_differences (hmode : s.timed.durTotalMode = 1) :
    (s.call c).timed.bakTimerSeconds = c.time.seconds ∧
      (s.call c).timed.bakDeltaTimerSeconds =
        timeDelta s.timed.bakTimerSeconds c.time.seconds
          s.timed.bakDeltaTimerSeconds ∧
      (s.call c).timed.deltaTimeSeconds =
        timeDelta s.timed.bakTime.seconds c.time.seconds
          s.timed.deltaTimeSeconds ∧
      (¬ (s.receive c).timed.measure.Due →
        (s.call c).timed.bakTime = s.timed.bakTime) := by
  rw [call_timed c hmode, enableLocalTimer_eq]
  dsimp only
  split
  · rename_i hdue
    unfold trigger
    dsimp only
    refine ⟨rfl, ?_, ?_, fun hnot => absurd hdue hnot⟩
    · split <;> rfl
    · split <;> rfl
  · exact ⟨rfl, rfl, rfl, fun _ => rfl⟩

end Delta

end GpsState

namespace History

/-! ## The local timer in charge -/

/-- Before the receiver has given a time. -/
structure Timeless (t : TimedReport) : Prop where
  bakTimer : t.bakTimerSeconds = 0
  bakTime : t.bakTime.seconds = 0
  delta : t.deltaTimeSeconds = 0

/-- What keeps the local timer out of charge for good once a report has been
taken back: the difference of the times is not 0 then. -/
structure Known (h : History) : Prop where
  mode : h.state.timed.durTotalMode = 1
  pos : 0 < h.state.timed.currentSdDuration
  bakTimer_lt : h.state.timed.bakTimerSeconds < 86400
  timeless : h.state.timed.bakDeltaTimerSeconds = 0 → Timeless h.state.timed
  taken : (∃ x ∈ h.seen, x.clears = true) →
    h.state.timed.localTrig ≠ 1 ∧ h.state.timed.bakDeltaTimerSeconds ≠ 0
  kept : (∀ x ∈ h.seen, x.clears = false) → h.state.timed.localTrig = 1

theorem timeDelta_eq_zero {former now old : ℕ} (hformer : former < 86400)
    (hnow : now < 86400) (h : timeDelta former now old = 0) :
    now = former ∧ old = 0 := by
  unfold timeDelta at h
  split at h
  · omega
  · split at h
    · omega
    · omega

theorem not_due_of_delta {t : TimedReport} (hpos : 0 < t.currentSdDuration)
    (hdelta : t.deltaTimeSeconds = 0) : ¬ t.Due := by
  unfold TimedReport.Due
  rw [hdelta]
  split
  · exact fun h => h.1 rfl
  · omega

theorem Known.delta {h : History} (hk : h.Known) (c : Call) :
    (h.step (.delta c)).Known := by
  obtain ⟨hmode, hinterval, hcases⟩ := h.state.call_cases c hk.mode
  obtain ⟨hbakTimer, hbakDelta, hdelta, hbakTime⟩ :=
    h.state.call_differences c hk.mode
  -- A difference of 0 means that the receiver has only given 00:00:00 so far.
  have hzero : (h.state.call c).timed.bakDeltaTimerSeconds = 0 →
      h.state.timed.bakDeltaTimerSeconds = 0 ∧
        Timeless (h.state.call c).timed ∧ ¬ h.state.Clears c := by
    intro hnow
    rw [hbakDelta] at hnow
    obtain ⟨hsame, hold⟩ :=
      timeDelta_eq_zero hk.bakTimer_lt c.time.seconds_lt hnow
    have hbefore := hk.timeless hold
    have hmidnight : c.time.seconds = 0 := hsame.trans hbefore.bakTimer
    have hkept : timeDelta h.state.timed.bakTime.seconds c.time.seconds
        h.state.timed.deltaTimeSeconds = 0 := by
      rw [hbefore.bakTime, hmidnight, hbefore.delta, GpsState.timeDelta_self]
    have hnotDue : ¬ (h.state.receive c).timed.measure.Due :=
      not_due_of_delta hk.pos hkept
    refine ⟨hold, ⟨hbakTimer.trans hmidnight, ?_, hdelta.trans hkept⟩,
      fun hclears => hnotDue hclears.2⟩
    rw [hbakTime hnotDue]
    exact hbefore.bakTime
  refine ⟨hmode.trans hk.mode, hinterval ▸ hk.pos, ?_,
    fun hnow => (hzero hnow).2.1, ?_, ?_⟩
  · change (h.state.call c).timed.bakTimerSeconds < 86400
    rw [hbakTimer]
    exact c.time.seconds_lt
  · rintro ⟨x, hx, hclears⟩
    have htaken : h.state.Clears c ∨
        h.state.timed.localTrig ≠ 1 ∧ h.state.timed.bakDeltaTimerSeconds ≠ 0 := by
      rcases List.mem_append.mp hx with hx | hx
      · exact .inr (hk.taken ⟨x, hx, hclears⟩)
      · rw [List.mem_singleton.mp hx] at hclears
        exact .inl (of_decide_eq_true hclears)
    have hdifferent : (h.state.call c).timed.bakDeltaTimerSeconds ≠ 0 := by
      intro hnow
      obtain ⟨hold, -, hnot⟩ := hzero hnow
      exact htaken.elim hnot fun hbefore => hbefore.2 hold
    refine ⟨?_, hdifferent⟩
    rcases hcases with ⟨-, htrig, -⟩ | ⟨⟨-, hnow, -⟩, -⟩ | ⟨⟨hnot, -⟩, htrig, -⟩
    · change (h.state.call c).timed.localTrig ≠ 1
      rw [htrig]
      decide
    · exact absurd (hbakDelta.trans hnow) hdifferent
    · change (h.state.call c).timed.localTrig ≠ 1
      rw [htrig]
      exact (htaken.resolve_left hnot).1
  · intro hclears
    have hbefore := hk.kept fun x hx => hclears x (List.mem_append_left _ hx)
    have hlast : decide (h.state.Clears c) = false :=
      hclears _ (List.mem_append_right _ List.mem_cons_self)
    rcases hcases with ⟨hclear, -⟩ | ⟨-, htrig, -⟩ | ⟨-, htrig, -⟩
    · exact absurd hclear (of_decide_eq_false hlast)
    · exact htrig
    · exact htrig.trans hbefore

theorem Known.second {h : History} (hk : h.Known) (k : ClockSecond) :
    (h.step (.second k)).Known := by
  have hstate : (h.step (.second k)).state = h.state.second k := rfl
  refine ⟨?_, ?_, ?_, ?_, ?_, ?_⟩ <;>
    rw [hstate, GpsState.second_timed]
  · exact hk.mode
  · exact hk.pos
  · exact hk.bakTimer_lt
  · intro hnow
    have hbefore := hk.timeless hnow
    exact ⟨hbefore.bakTimer, hbefore.bakTime, hbefore.delta⟩
  · rintro ⟨x, hx, hclears⟩
    rcases List.mem_append.mp hx with hx | hx
    · exact hk.taken ⟨x, hx, hclears⟩
    · rw [List.mem_singleton.mp hx] at hclears
      exact absurd hclears Bool.false_ne_true
  · intro hclears
    exact hk.kept fun x hx => hclears x (List.mem_append_left _ hx)

theorem Known.run {h : History} (hk : h.Known) (es : List TimerCall) :
    (es.foldl step h).Known := by
  induction es generalizing h with
  | nil => exact hk
  | cons e es ih =>
      cases e with
      | delta c => exact ih (hk.delta c)
      | second k => exact ih (hk.second k)

theorem Known.localTrig_eq_one_iff {h : History} (hk : h.Known) :
    h.state.timed.localTrig = 1 ↔ ∀ x ∈ h.seen, x.clears = false := by
  refine ⟨fun htrig x hx => ?_, hk.kept⟩
  by_contra hclears
  exact (hk.taken ⟨x, hx, Bool.of_not_eq_false hclears⟩).1 htrig

/-! ## Runs -/

/-- The call stays clear of three defects: `GPS_Delta_DurPro` finds the same time
for the twenty-first time after it has taken the report back, it sets a running
local timer to 0, and `local_time` comes to a second of the interval 30. -/
def Spared (h : History) : TimerCall → Prop
  | .delta c =>
      (StandsStill (h.times ++ [c.time.toHms]) →
        ¬ h.state.Clears c ∧ ∀ x ∈ h.seen, x.clears = false) ∧
        (h.state.HandsOver c → h.state.timed.localTimer = 0)
  | .second k =>
      h.state.timed.currentSdDuration = 30 → h.state.timed.localTrig = 1 →
        k.now.sec ≠ 20 ∧ k.now.sec ≠ 50

instance (h : History) : (e : TimerCall) → Decidable (h.Spared e)
  | .delta _ => inferInstanceAs (Decidable (_ ∧ _))
  | .second _ => inferInstanceAs (Decidable (_ → _ → _))

/-- The seconds of a window without a report, while the local timer is in
charge, are in the timer. -/
def Counted (timer : ℕ) (w : List SeenCall) : Prop :=
  (∀ x ∈ w, x.localTrig = 1) →
    (∀ x ∈ w.filterMap SeenCall.second?, x.2 = false) →
    (w.filterMap SeenCall.second?).length ≤ timer

/-- The duration mode with the interval `D` behind calls that stay clear of the
defects. -/
structure Sound (D : ℕ) (h : History) : Prop where
  mode : h.state.timed.durTotalMode = 1
  interval : h.state.timed.currentSdDuration = D
  still : StandsStill h.times → ∀ x ∈ h.seen, x.clears = false
  timer_lt : h.state.timed.localTimer < D
  counted : D ≠ 30 → ∀ w, w <:+ h.seen → Counted h.state.timed.localTimer w
  short : D ≠ 30 → ∀ w, w <:+: h.seen → Counted (D - 1) w
  thirty : D = 30 → ∀ x ∈ h.seen, x.localTrig = 1 →
    ∀ y ∈ x.second?, y.1 % 60 ≠ 20 ∧ y.1 % 60 ≠ 50

section Step

variable {D timer timer' : ℕ} {h : History} {w seen : List SeenCall}
  {x : SeenCall}

theorem counted_nil : Counted timer [] := fun _ _ => Nat.zero_le timer

/-- Behind one more call only the windows that end in it have to be looked at. -/
theorem counted_concat (h : ∀ w, w <:+ seen → Counted timer w)
    (hx : ∀ w, Counted timer w → Counted timer' (w ++ [x])) :
    ∀ w, w <:+ seen ++ [x] → Counted timer' w := by
  intro w hw
  rcases List.suffix_concat_iff.mp hw with rfl | ⟨w, rfl, hsuffix⟩
  · exact counted_nil
  · exact hx w (h w hsuffix)

/-- A window that ends in a call without the local timer. -/
theorem counted_concat_of_trig (hx : x.localTrig ≠ 1) :
    Counted timer (w ++ [x]) := by
  intro htrig
  exact absurd (htrig x (List.mem_append_right w List.mem_cons_self)) hx

theorem Counted.concat (h : Counted timer w)
    (hx : ∀ y ∈ x.second?, y.2 = false → timer + 1 ≤ timer')
    (hnone : x.second? = none → timer ≤ timer') :
    Counted timer' (w ++ [x]) := by
  intro htrig hquiet
  rw [List.filterMap_append] at hquiet ⊢
  have hle := h (fun y hy => htrig y (List.mem_append_left _ hy))
    (fun y hy => hquiet y (List.mem_append_left _ hy))
  cases hsecond : x.second? with
  | none =>
      rw [List.filterMap_cons_none hsecond, List.filterMap_nil, List.append_nil]
      exact hle.trans (hnone hsecond)
  | some y =>
      rw [List.filterMap_cons_some hsecond, List.filterMap_nil] at hquiet ⊢
      have hlast := hquiet y (List.mem_append_right _ List.mem_cons_self)
      have hcount := hx y hsecond hlast
      rw [List.length_append, List.length_singleton]
      omega

theorem Counted.mono (h : Counted timer w) (hle : timer ≤ timer') :
    Counted timer' w :=
  fun htrig hquiet => (h htrig hquiet).trans hle

/-- The windows of a longer history are those that end in the last call and the
earlier ones. -/
theorem short_concat {limit : ℕ} (h : ∀ w, w <:+: seen → Counted limit w)
    (hlast : ∀ w, w <:+ seen ++ [x] → Counted timer w) (hle : timer ≤ limit) :
    ∀ w, w <:+: seen ++ [x] → Counted limit w := by
  intro w hw
  rcases List.infix_concat_iff.mp hw with hsuffix | hinfix
  · exact (hlast w hsuffix).mono hle
  · exact h w hinfix

theorem times_delta (c : Call) :
    (h.step (.delta c)).times = h.times ++ [c.time.toHms] := by
  rw [times, step, List.filterMap_append]
  rfl

theorem times_second (k : ClockSecond) :
    (h.step (.second k)).times = h.times := by
  rw [times, step, List.filterMap_append]
  exact List.append_nil _

/-- A call of `GPS_Delta_DurPro`. -/
theorem Sound.delta (hs : h.Sound D) (hpos : 0 < D) {c : Call}
    (hspared : h.Spared (.delta c)) : (h.step (.delta c)).Sound D := by
  obtain ⟨hmode, hinterval, hcases⟩ := h.state.call_cases c hs.mode
  obtain ⟨hstill, hhands⟩ := hspared
  have htimer := hs.timer_lt
  have htimer' : (h.state.call c).timed.localTimer < D := by
    rcases hcases with ⟨-, -, hzero⟩ | ⟨-, -, hzero⟩ | ⟨-, -, hsame⟩ <;> omega
  have hcounted : D ≠ 30 → ∀ w, w <:+ (h.step (.delta c)).seen →
      Counted (h.state.call c).timed.localTimer w := by
    intro h30
    refine counted_concat (hs.counted h30) fun w hw => ?_
    rcases hcases with ⟨-, htrig, -⟩ | ⟨⟨-, hnow⟩, -, hzero⟩ | ⟨-, -, hsame⟩
    · refine counted_concat_of_trig ?_
      rw [show SeenCall.localTrig _ = (h.state.call c).timed.localTrig from rfl,
        htrig]
      decide
    · refine hw.concat (fun y hy => absurd hy (by simp [SeenCall.second?])) ?_
      rw [hhands hnow]
      exact fun _ => Nat.zero_le _
    · refine hw.concat (fun y hy => absurd hy (by simp [SeenCall.second?])) ?_
      exact fun _ => hsame.ge
  refine ⟨hmode.trans hs.mode, hinterval.trans hs.interval, ?_, htimer',
    hcounted, ?_, ?_⟩
  · rw [times_delta]
    intro hstands x hx
    obtain ⟨hno, hnone⟩ := hstill hstands
    rcases List.mem_append.mp hx with hx | hx
    · exact hnone x hx
    · rw [List.mem_singleton.mp hx]
      exact decide_eq_false hno
  · exact fun h30 => short_concat (hs.short h30) (hcounted h30) (by omega)
  · intro h30 x hx
    rcases List.mem_append.mp hx with hx | hx
    · exact hs.thirty h30 x hx
    · rw [List.mem_singleton.mp hx]
      exact fun _ y hy => absurd hy (by simp [SeenCall.second?])

/-- A call of `local_time`. -/
theorem Sound.second (hs : h.Sound D) (hbound : D < 4294967296)
    {k : ClockSecond} (hspared : h.Spared (.second k)) :
    (h.step (.second k)).Sound D := by
  have htimer := hs.timer_lt
  have hmode : (h.state.second k).timed.durTotalMode =
      h.state.timed.durTotalMode := by
    rw [GpsState.second_timed]
  have hinterval : (h.state.second k).timed.currentSdDuration =
      h.state.timed.currentSdDuration := by
    rw [GpsState.second_timed]
  have htrig : (h.state.second k).timed.localTrig = h.state.timed.localTrig := by
    rw [GpsState.second_timed]
  have hcases := h.state.second_cases k (by omega)
  rw [hs.interval] at hcases
  have htimer' : (h.state.second k).timed.localTimer < D := by
    rcases hcases with ⟨-, hsame⟩ | ⟨-, hzero⟩ | ⟨hlt, hnext⟩ <;> omega
  have hcounted : D ≠ 30 → ∀ w, w <:+ (h.step (.second k)).seen →
      Counted (h.state.second k).timed.localTimer w := by
    intro h30
    refine counted_concat (hs.counted h30) fun w hw => ?_
    rcases hcases with ⟨hidle, -⟩ | ⟨hreports, -⟩ | ⟨-, hnext⟩
    · refine counted_concat_of_trig ?_
      rw [show SeenCall.localTrig _ = (h.state.second k).timed.localTrig from rfl,
        htrig]
      exact hidle.resolve_left h30
    · refine hw.concat ?_ fun hnone => absurd hnone (by simp [SeenCall.second?])
      intro y hy hquiet
      obtain rfl := Option.some_inj.mp hy
      exact absurd (hreports.symm.trans hquiet) (by decide)
    · refine hw.concat (fun y _ _ => hnext.ge) ?_
      exact fun hnone => absurd hnone (by simp [SeenCall.second?])
  refine ⟨hmode.trans hs.mode, hinterval.trans hs.interval, ?_, htimer',
    hcounted, ?_, ?_⟩
  · rw [times_second]
    intro hstands x hx
    rcases List.mem_append.mp hx with hx | hx
    · exact hs.still hstands x hx
    · rw [List.mem_singleton.mp hx]
      rfl
  · exact fun h30 => short_concat (hs.short h30) (hcounted h30) (by omega)
  · intro h30 x hx
    rcases List.mem_append.mp hx with hx | hx
    · exact hs.thirty h30 x hx
    · rw [List.mem_singleton.mp hx]
      intro hcharge y hy
      obtain rfl := Option.some_inj.mp hy
      rw [k.seconds_mod]
      exact hspared (hs.interval.trans h30) (htrig.symm.trans hcharge)

theorem Sound.step (hs : h.Sound D) (hpos : 0 < D) (hbound : D < 4294967296)
    (e : TimerCall) (hspared : h.Spared e) : (h.step e).Sound D := by
  cases e with
  | delta c => exact hs.delta hpos hspared
  | second k => exact hs.second hbound hspared

end Step

/-- Thirty consecutive seconds contain the twentieth or the fiftieth of a
minute. -/
theorem exists_twenty_or_fifty {rtcs : List ℕ} (h : Advances rtcs)
    (hlength : rtcs.length = 30) : ∃ r ∈ rtcs, r % 60 = 20 ∨ r % 60 = 50 := by
  have hget : ∀ i, (hi : i < rtcs.length) → rtcs[i] % 30 = (rtcs[0] + i) % 30 := by
    intro i
    induction i with
    | zero => exact fun _ => rfl
    | succ i ih =>
        intro hi
        have hnext := List.isChain_iff_getElem.mp h i hi
        have hhere := ih (by omega)
        omega
  have hi : (50 - rtcs[0] % 30) % 30 < rtcs.length := by omega
  refine ⟨rtcs[(50 - rtcs[0] % 30) % 30], List.getElem_mem hi, ?_⟩
  have hthere := hget _ hi
  omega

/-- Behind calls that stay clear of the defects the report falls back on the
local timer. -/
theorem Sound.fallsBack {D : ℕ} {h : History} (hs : h.Sound D) (hpos : 0 < D)
    (hk : h.Known) : FallsBack D h := by
  refine ⟨fun hstill => hk.localTrig_eq_one_iff.mpr (hs.still hstill), ?_⟩
  intro w hw htrig hlength hadvances
  by_cases h30 : D = 30
  · obtain ⟨r, hr, hsecond⟩ :=
      exists_twenty_or_fifty hadvances (by rw [List.length_map, hlength, h30])
    obtain ⟨y, hy, rfl⟩ := List.mem_map.mp hr
    obtain ⟨x, hx, hxy⟩ := List.mem_filterMap.mp hy
    have hnot := hs.thirty h30 x (hw.subset hx) (htrig x hx) y hxy
    exact absurd hsecond (not_or.mpr hnot)
  · by_contra hquiet
    have hle := hs.short h30 w hw htrig fun x hx => by
      by_contra hreports
      exact hquiet ⟨x, hx, Bool.of_not_eq_false hreports⟩
    omega

end History

open Runs

/-- From the start on, the timed report falls back on the local timer as long as
every call stays clear of the defects. -/
theorem fallsBack_of_spared (D : UInt32) (s : GpsState) (es : List TimerCall)
    (hstart : s.timed = { currentSdDuration := D.toNat }) (hpos : 0 < D)
    (hspared : Meeting History.step History.Spared ⟨s, []⟩ es) :
    FallsBack D.toNat (es.foldl History.step ⟨s, []⟩) := by
  have hpos' : 0 < D.toNat := hpos
  have hbound : D.toNat < 4294967296 := D.toNat_lt
  have hfirst : History.Sound D.toNat ⟨s, []⟩ := by
    refine ⟨?_, ?_, ?_, ?_, ?_, ?_, ?_⟩
    · rw [hstart]
    · rw [hstart]
    · rintro ⟨t, ht, -⟩
      exact absurd ht List.not_mem_nil
    · rw [hstart]
      exact hpos'
    · intro _ w hw
      rw [List.suffix_nil.mp hw]
      exact History.counted_nil
    · intro _ w hw
      rw [List.infix_nil.mp hw]
      exact History.counted_nil
    · exact fun _ x hx => absurd hx List.not_mem_nil
  have hknown : History.Known ⟨s, []⟩ := by
    refine ⟨?_, ?_, ?_, ?_, ?_, ?_⟩ <;> rw [hstart]
    · exact hpos'
    · exact Nat.zero_lt_succ 86399
    · exact fun _ => ⟨rfl, rfl, rfl⟩
    · rintro ⟨x, hx, -⟩
      exact absurd hx List.not_mem_nil
    · exact fun _ => rfl
  have hsound := hspared.invariant
    (fun h e (hs : h.Sound D.toNat) => hs.step hpos' hbound e) hfirst
  exact hsound.fallsBack hpos' (hknown.run es)

/-- A report after two seconds of the receiver, and the next after two seconds of
the clock of the unit. -/
theorem fallsBack_twoSeconds :
    FallsBack (2 : UInt32).toNat
      (List.foldl History.step ⟨{ timed := { currentSdDuration := 2 } }, []⟩
        [.delta { GpsState.atSecond 1 with gpsGetfirst := 0 },
          .second { now := ⟨14, 5, 9, 8, 0, 1, by decide, by decide, by decide⟩ },
          .second
            { now := ⟨14, 5, 9, 8, 0, 2, by decide, by decide, by decide⟩ }]) :=
  fallsBack_of_spared 2 _ _ rfl (by decide) (by decide)

/-- After a report the time of the receiver stands still, and nothing takes
over. -/
theorem frozenReceiver_not_fallsBack :
    ¬ FallsBack 20
      (List.foldl History.step ⟨{ timed := { currentSdDuration := 20 } }, []⟩
        (.delta (GpsState.atSecond 20) ::
          List.replicate 21 (.delta (GpsState.atSecond 21)))) := by
  intro h
  exact absurd (h.enabled (by decide +kernel)) (by decide +kernel)

end VehicleRecorder.Gps
