import Mathlib.Data.List.Chain
import VehicleRecorder.Gps.GpsState
import VehicleRecorder.Lib.Runs

/-!
# The timed report

`GPS_Delta_DurPro` compares the time of each sentence with the time of the last
trigger, and triggers a report when the difference has reached the interval.
The difference is kept in a variable that two of the three outcomes of the
comparison update.  A second sentence with the time of the last trigger finds
the difference that caused it.
-/

namespace VehicleRecorder.Gps

open Driving Runs

/-! ## The function -/

/-- The difference of two times of the day.  Equal times leave the old one. -/
def timeDelta (former now old : ℕ) : ℕ :=
  if former < now then now - former
  else if now < former then (86400 + 4294967296 - former + now) % 4294967296
  else old

namespace TimedReport

/-- The two differences of `GPS_Delta_DurPro`. -/
def measure (t : TimedReport) : TimedReport :=
  let fomer := t.bakTime.seconds
  let tmp := t.currentTime.seconds
  { t with
    fomerTimeSeconds := fomer
    tmpTimeSeconds := tmp
    deltaTimeSeconds := timeDelta fomer tmp t.deltaTimeSeconds
    bakDeltaTimerSeconds :=
      timeDelta t.bakTimerSeconds tmp t.bakDeltaTimerSeconds }

/-- The authentication five seconds ahead of a report while asleep. -/
def announce (t : TimedReport) : TimedReport :=
  if t.sleepState = 1 ∧ t.deltaTimeSeconds = t.currentSdDuration - 5 ∧
      5 < t.currentSdDuration then
    { t with sleepConfigFlag := 1 }
  else t

/-- The condition of the trigger. -/
def Due (t : TimedReport) : Prop :=
  if t.currentSdDuration = 30 then
    t.deltaTimeSeconds ≠ 0 ∧ (t.currentTime.sec = 50 ∨ t.currentTime.sec = 20)
  else t.currentSdDuration ≤ t.deltaTimeSeconds

instance (t : TimedReport) : Decidable t.Due :=
  inferInstanceAs (Decidable (ite _ _ _))

/-- What a trigger does to the timers. -/
def trigger (gpsGetfirst : UInt8) (t : TimedReport) : TimedReport :=
  let t :=
    if gpsGetfirst = 1 then
      { t with localTrig := 0, gpstimerAbnormalCounter := 0, localTimer := 0 }
    else t
  { t with
    bakTime := t.currentTime
    triggers := t.triggers ++ [t.currentTime] }

/-- The local timer takes over when the time has stood still for long. -/
def enableLocalTimer (t : TimedReport) : TimedReport :=
  if t.bakDeltaTimerSeconds = 0 then
    let counter := (t.gpstimerAbnormalCounter + 1) % 4294967296
    if counter = 20 then
      { t with gpstimerAbnormalCounter := 0, localTrig := 1, localTimer := 0 }
    else { t with gpstimerAbnormalCounter := counter }
  else t

end TimedReport

namespace GpsState

/-- The trigger of `GPS_Delta_DurPro`. -/
def sendTrigger (s : GpsState) : GpsState :=
  if s.timed.Due then
    { s.positionSdEnable with timed := s.timed.trigger s.gpsGetfirst }
  else s

/-- The part of `GPS_Delta_DurPro` for `DUR_TOTALMODE`. -/
def durationReport (s : GpsState) : GpsState :=
  let s₁ :=
    if s.timed.currentTime.seconds = s.timed.bakTime.seconds then
      { s with udpDataPacketFlag := 0x03 }.statusRegGpsV
    else s
  let s₂ := { s₁ with timed := s₁.timed.measure.announce }.sendTrigger
  { s₂ with
    timed :=
      { s₂.timed.enableLocalTimer with
        bakTimerSeconds := s₂.timed.tmpTimeSeconds } }

/-- The position goes into use unless a coordinate is 0. -/
def usePosition (s : GpsState) : GpsState :=
  if be4 s.tempGpsGprs.latitude ≠ 0 ∧ be4 s.tempGpsGprs.longitude ≠ 0 then
    { s with gpsGprs := s.tempGpsGprs }
  else s

/-- The judges of the rails, every second and every fifth second. -/
def railJudges (s : GpsState) : GpsState :=
  let position := (s.tempGpsGprs.latitude, s.tempGpsGprs.longitude)
  let sec := s.tempGpsGprs.time.sec
  { s with
    rectangleJudged :=
      if sec % 2 = 0 then s.rectangleJudged ++ [position] else s.rectangleJudged
    routeJudged :=
      if sec % 5 = 0 then s.routeJudged ++ [position] else s.routeJudged }

/-- `GPS_Delta_DurPro`. -/
def gpsDeltaDurPro (s : GpsState) : GpsState :=
  let s₁ := if s.timed.durTotalMode = 1 then s.durationReport else s
  s₁.usePosition.railJudges

end GpsState

/-! ## One call -/

namespace TimedReport

theorem announce_eq (t : TimedReport) :
    t.announce = { t with sleepConfigFlag := t.announce.sleepConfigFlag } := by
  unfold announce
  split <;> rfl

theorem enableLocalTimer_eq (t : TimedReport) :
    t.enableLocalTimer =
      { t with
        gpstimerAbnormalCounter := t.enableLocalTimer.gpstimerAbnormalCounter
        localTrig := t.enableLocalTimer.localTrig
        localTimer := t.enableLocalTimer.localTimer } := by
  unfold enableLocalTimer
  split
  · dsimp only
    split <;> rfl
  · rfl

/-- The variables the trigger depends on, and the triggers so far. -/
structure View where
  durTotalMode : UInt8
  currentSdDuration : ℕ
  bakTime : Hms
  deltaTimeSeconds : ℕ
  triggers : List Hms

/-- The part of the variables in a `View`. -/
def view (t : TimedReport) : View :=
  ⟨t.durTotalMode, t.currentSdDuration, t.bakTime, t.deltaTimeSeconds,
    t.triggers⟩

theorem announce_view (t : TimedReport) : t.announce.view = t.view := by
  rw [announce_eq]
  rfl

theorem enableLocalTimer_view (t : TimedReport) :
    t.enableLocalTimer.view = t.view := by
  rw [enableLocalTimer_eq]
  rfl

/-- Nor does noting the second matter. -/
theorem noteTimer_view (t : TimedReport) :
    { t.enableLocalTimer with bakTimerSeconds := t.tmpTimeSeconds }.view =
      t.view :=
  enableLocalTimer_view t

theorem trigger_view (gpsGetfirst : UInt8) (t : TimedReport) :
    (t.trigger gpsGetfirst).view =
      { t.view with
        bakTime := t.currentTime
        triggers := t.triggers ++ [t.currentTime] } := by
  unfold trigger
  by_cases hfirst : gpsGetfirst = 1
  · rw [if_pos hfirst]
    rfl
  · rw [if_neg hfirst]
    rfl

theorem due_iff {t : TimedReport} (h : t.currentSdDuration ≠ 30) :
    t.Due ↔ t.currentSdDuration ≤ t.deltaTimeSeconds := by
  rw [Due, if_neg h]

end TimedReport

/-- A second of GPS time: the time, the position decoded with it, and the
variables that other parts set. -/
structure Call where
  time : GpsTime
  position : GpsInfo := {}
  sleepState : UInt8 := 0
  gpsGetfirst : UInt8 := 1
  deriving Repr

namespace GpsState

open TimedReport

/-- The variables as a call finds them. -/
def receive (s : GpsState) (c : Call) : GpsState :=
  { s with
    tempGpsGprs := c.position
    gpsGetfirst := c.gpsGetfirst
    timed :=
      { s.timed with
        currentTime := c.time.toHms
        sleepState := c.sleepState } }

/-- A call of `GPS_Delta_DurPro`. -/
def call (s : GpsState) (c : Call) : GpsState := (s.receive c).gpsDeltaDurPro

theorem sendTrigger_view (s : GpsState) (h : s.timed.currentSdDuration ≠ 30) :
    s.sendTrigger.timed.view =
      if s.timed.currentSdDuration ≤ s.timed.deltaTimeSeconds then
        { s.timed.view with
          bakTime := s.timed.currentTime
          triggers := s.timed.triggers ++ [s.timed.currentTime] }
      else s.timed.view := by
  unfold sendTrigger
  by_cases hdue : s.timed.Due
  · rw [if_pos hdue, if_pos ((due_iff h).mp hdue)]
    exact trigger_view s.gpsGetfirst s.timed
  · rw [if_neg hdue, if_neg (mt (due_iff h).mpr hdue)]

theorem durationReport_view (s : GpsState)
    (h : s.timed.currentSdDuration ≠ 30) :
    s.durationReport.timed.view =
      if s.timed.currentSdDuration ≤ s.timed.measure.deltaTimeSeconds then
        { s.timed.measure.view with
          bakTime := s.timed.currentTime
          triggers := s.timed.triggers ++ [s.timed.currentTime] }
      else s.timed.measure.view := by
  set s₁ : GpsState :=
    if s.timed.currentTime.seconds = s.timed.bakTime.seconds then
      { s with udpDataPacketFlag := 0x03 }.statusRegGpsV
    else s with hs₁
  have htimed : s₁.timed = s.timed := by
    rw [hs₁]
    split <;> rfl
  have hview : s.durationReport.timed.view =
      { s₁ with timed := s₁.timed.measure.announce }.sendTrigger.timed.view := by
    rw [durationReport, ← hs₁]
    dsimp only
    exact noteTimer_view _
  rw [hview, sendTrigger_view _ (by rw [htimed, announce_eq]; exact h), htimed,
    announce_view, announce_eq]
  rfl

theorem gpsDeltaDurPro_timed (s : GpsState) (h : s.timed.durTotalMode = 1) :
    s.gpsDeltaDurPro.timed = s.durationReport.timed := by
  unfold gpsDeltaDurPro usePosition railJudges
  rw [if_pos h]
  dsimp only
  split <;> rfl

/-- What a call does to the variables of the trigger. -/
theorem call_view (s : GpsState) (c : Call) (hmode : s.timed.durTotalMode = 1)
    (h30 : s.timed.currentSdDuration ≠ 30) :
    (s.call c).timed.view =
      let delta := timeDelta s.timed.bakTime.seconds c.time.seconds
        s.timed.deltaTimeSeconds
      if s.timed.currentSdDuration ≤ delta then
        ⟨s.timed.durTotalMode, s.timed.currentSdDuration, c.time.toHms, delta,
          s.timed.triggers ++ [c.time.toHms]⟩
      else
        ⟨s.timed.durTotalMode, s.timed.currentSdDuration, s.timed.bakTime,
          delta, s.timed.triggers⟩ := by
  rw [call, gpsDeltaDurPro_timed (s.receive c) hmode,
    durationReport_view (s.receive c) h30]
  rfl

/-! ## The interval -/

/-- The seconds from one time of the day on to another. -/
def elapsed (a b : Hms) : ℕ := (b.seconds + 86400 - a.seconds) % 86400

theorem timeDelta_of_ne {a b : Hms} (old : ℕ) (ha : a.seconds < 86400)
    (hb : b.seconds < 86400) (hne : a.seconds ≠ b.seconds) :
    timeDelta a.seconds b.seconds old = elapsed a b := by
  unfold timeDelta elapsed
  split
  · omega
  · rw [if_pos (by omega)]
    omega

theorem timeDelta_self (a old : ℕ) : timeDelta a a old = old := by
  rw [timeDelta, if_neg (Nat.lt_irrefl a), if_neg (Nat.lt_irrefl a)]

theorem elapsed_of_eq {a b : Hms} (h : a.seconds = b.seconds) :
    elapsed a b = 0 := by
  unfold elapsed
  omega

theorem seconds_inj (a b : GpsTime) (h : a.seconds = b.seconds) :
    a.toHms = b.toHms := by
  have hmin : a.min.toNat < 60 := a.min_lt
  have hsec : a.sec.toNat < 60 := a.sec_lt
  have hmin' : b.min.toNat < 60 := b.min_lt
  have hsec' : b.sec.toNat < 60 := b.sec_lt
  simp only [Hms.seconds] at h
  have hhours : a.hour.toNat = b.hour.toNat := by omega
  have hmins : a.min.toNat = b.min.toNat := by omega
  have hsecs : a.sec.toNat = b.sec.toNat := by omega
  exact Hms.ext (UInt8.toNat_inj.mp hhours) (UInt8.toNat_inj.mp hmins)
    (UInt8.toNat_inj.mp hsecs)

/-- The timed mode with the interval `D`; the time of the last trigger is kept
in `BakTime`. -/
structure Timed (D : ℕ) (s : GpsState) : Prop where
  mode : s.timed.durTotalMode = 1
  interval : s.timed.currentSdDuration = D
  bakTime : ∃ t : GpsTime, t.toHms = s.timed.bakTime
  last : ∀ t ∈ s.timed.triggers.getLast?, t = s.timed.bakTime

/-- The call triggers a report. -/
def Triggers (s : GpsState) (c : Call) : Prop :=
  (s.call c).timed.triggers = s.timed.triggers ++ [c.time.toHms]

/-- A time that is not the one of the last trigger again, unless the difference
kept is below the interval. -/
def NotRepeated (s : GpsState) (c : Call) : Prop :=
  s.timed.triggers.getLast? = some c.time.toHms →
    s.timed.deltaTimeSeconds < s.timed.currentSdDuration

instance (s : GpsState) (c : Call) : Decidable (s.NotRepeated c) :=
  inferInstanceAs (Decidable (_ → _))

/-- Successive triggers lie at least `D` seconds apart. -/
def Separated (D : ℕ) (ts : List Hms) : Prop :=
  ts.IsChain fun a b => D ≤ elapsed a b

instance (D : ℕ) (ts : List Hms) : Decidable (Separated D ts) :=
  inferInstanceAs (Decidable (ts.IsChain _))

section Interval

variable {D : ℕ} {s : GpsState}

/-- What a call does in the timed mode. -/
theorem Timed.call_cases (h : s.Timed D) (h30 : D ≠ 30) (c : Call) :
    let delta := timeDelta s.timed.bakTime.seconds c.time.seconds
      s.timed.deltaTimeSeconds
    (D ≤ delta ∧
        (s.call c).timed.view =
          ⟨1, D, c.time.toHms, delta, s.timed.triggers ++ [c.time.toHms]⟩) ∨
      (delta < D ∧
        (s.call c).timed.view =
          ⟨1, D, s.timed.bakTime, delta, s.timed.triggers⟩) := by
  intro delta
  have hview := s.call_view c h.mode (by rw [h.interval]; exact h30)
  rw [h.mode, h.interval] at hview
  rcases Nat.lt_or_ge delta D with hlt | hge
  · rw [if_neg (Nat.not_le.mpr hlt)] at hview
    exact .inr ⟨hlt, hview⟩
  · rw [if_pos hge] at hview
    exact .inl ⟨hge, hview⟩

theorem timed_of_view {b : Hms} {delta : ℕ} {ts : List Hms} {s' : GpsState}
    (hview : s'.timed.view = ⟨1, D, b, delta, ts⟩)
    (hbak : ∃ t : GpsTime, t.toHms = b) (hlast : ∀ t ∈ ts.getLast?, t = b) :
    s'.Timed D where
  mode := congrArg View.durTotalMode hview
  interval := congrArg View.currentSdDuration hview
  bakTime := by
    rw [show s'.timed.bakTime = b from congrArg View.bakTime hview]
    exact hbak
  last := by
    rw [show s'.timed.triggers = ts from congrArg View.triggers hview,
      show s'.timed.bakTime = b from congrArg View.bakTime hview]
    exact hlast

theorem Timed.call (h : s.Timed D) (h30 : D ≠ 30) (c : Call) :
    (s.call c).Timed D := by
  rcases h.call_cases h30 c with ⟨-, hview⟩ | ⟨-, hview⟩
  · refine timed_of_view hview ⟨c.time, rfl⟩ ?_
    intro t ht
    rw [List.getLast?_concat] at ht
    exact (Option.mem_some_iff.mp ht).symm
  · exact timed_of_view hview h.bakTime h.last

/-- A call keeps the triggers apart exactly when it does not repeat the time of
the last one. -/
theorem Timed.separated_call (h : s.Timed D) (hpos : 0 < D) (h30 : D ≠ 30)
    (c : Call) :
    Separated D (s.call c).timed.triggers ↔
      Separated D s.timed.triggers ∧ s.NotRepeated c := by
  obtain ⟨b, hb⟩ := h.bakTime
  have hrepeated : s.timed.triggers.getLast? = some c.time.toHms →
      b.seconds = c.time.seconds := by
    intro hlast
    rw [hb, h.last _ hlast]
  have hdelta : timeDelta s.timed.bakTime.seconds c.time.seconds
      s.timed.deltaTimeSeconds =
        if b.seconds = c.time.seconds then s.timed.deltaTimeSeconds
        else elapsed s.timed.bakTime c.time.toHms := by
    rw [← hb]
    split
    · rename_i heq
      rw [heq, timeDelta_self]
    · rename_i hne
      exact timeDelta_of_ne _ b.seconds_lt c.time.seconds_lt hne
  rcases h.call_cases h30 c with ⟨hdue, hview⟩ | ⟨hearly, hview⟩
  · rw [show (s.call c).timed.triggers = s.timed.triggers ++ [c.time.toHms] from
      congrArg View.triggers hview, Separated, List.isChain_append]
    refine and_congr Iff.rfl ⟨?_, ?_⟩
    · rintro ⟨-, hapart⟩ hlast
      have hle := hapart _ hlast _ rfl
      rw [elapsed_of_eq rfl] at hle
      exact absurd hpos (Nat.not_lt.mpr hle)
    · intro hfresh
      refine ⟨List.isChain_singleton _, ?_⟩
      intro t ht u hu
      obtain rfl : c.time.toHms = u := Option.some_inj.mp hu
      have htb : t = s.timed.bakTime := h.last t ht
      rw [hdelta] at hdue
      by_cases heq : b.seconds = c.time.seconds
      · have hsame : t = c.time.toHms :=
          htb.trans (hb.symm.trans (seconds_inj b c.time heq))
        rw [if_pos heq] at hdue
        have hlt := hfresh (hsame ▸ ht)
        rw [h.interval] at hlt
        exact absurd hdue (Nat.not_le.mpr hlt)
      · rw [if_neg heq] at hdue
        rw [htb]
        exact hdue
  · rw [show (s.call c).timed.triggers = s.timed.triggers from
      congrArg View.triggers hview]
    refine (and_iff_left ?_).symm
    intro hlast
    rw [hdelta, if_pos (hrepeated hlast)] at hearly
    rw [h.interval]
    exact hearly

/-- When the interval has passed since `BakTime` the call triggers. -/
theorem Timed.triggers_of_elapsed (h : s.Timed D) (hpos : 0 < D)
    (h30 : D ≠ 30) {c : Call} (hdue : D ≤ elapsed s.timed.bakTime c.time.toHms) :
    s.Triggers c := by
  obtain ⟨b, hb⟩ := h.bakTime
  have hne : b.seconds ≠ c.time.seconds := by
    intro heq
    rw [← hb, elapsed_of_eq heq] at hdue
    omega
  have hdelta := timeDelta_of_ne s.timed.deltaTimeSeconds b.seconds_lt
    c.time.seconds_lt hne
  rw [hb] at hdelta
  rcases h.call_cases h30 c with ⟨-, hview⟩ | ⟨hearly, -⟩
  · exact congrArg View.triggers hview
  · rw [hdelta] at hearly
    exact absurd hdue (Nat.not_le.mpr hearly)

theorem Timed.separated_run (hpos : 0 < D) (h30 : D ≠ 30) (cs : List Call)
    (h : s.Timed D) :
    Separated D (cs.foldl GpsState.call s).timed.triggers ↔
      Separated D s.timed.triggers ∧
        Meeting GpsState.call NotRepeated s cs := by
  induction cs generalizing s with
  | nil => exact (and_iff_left trivial).symm
  | cons c cs ih =>
      rw [List.foldl_cons, ih (h.call h30 c), h.separated_call hpos h30 c,
        and_assoc]
      rfl

theorem Timed.run (h30 : D ≠ 30) (cs : List Call) (h : s.Timed D) :
    (cs.foldl GpsState.call s).Timed D := by
  induction cs generalizing s with
  | nil => exact h
  | cons c cs ih => exact ih (h.call h30 c)

end Interval

/-- The interval is respected: two successive triggers are at least
`Current_SD_Duration` seconds apart, and a call triggers when so much time has
passed since `BakTime`. -/
structure RespectsInterval (s : GpsState) (cs : List Call) : Prop where
  separated :
    Separated s.timed.currentSdDuration (cs.foldl call s).timed.triggers
  prompt : Throughout call
    (fun s c =>
      s.timed.currentSdDuration ≤ elapsed s.timed.bakTime c.time.toHms →
        s.Triggers c) s cs

/-- The interval is respected exactly when no call repeats the time of the last
trigger while the difference kept is the one that caused it. -/
theorem respectsInterval_iff (s : GpsState) (cs : List Call)
    (hmode : s.timed.durTotalMode = 1) (hpos : 0 < s.timed.currentSdDuration)
    (h30 : s.timed.currentSdDuration ≠ 30) (t : GpsTime)
    (hbak : s.timed.bakTime = t.toHms) (hnone : s.timed.triggers = []) :
    RespectsInterval s cs ↔ Meeting call NotRepeated s cs := by
  have h : s.Timed s.timed.currentSdDuration :=
    ⟨hmode, rfl, ⟨t, hbak.symm⟩, by rw [hnone]; simp⟩
  have hrun := h.separated_run hpos h30 cs
  rw [hnone] at hrun
  have hiff : Separated s.timed.currentSdDuration
      (cs.foldl call s).timed.triggers ↔ Meeting call NotRepeated s cs :=
    hrun.trans (and_iff_right List.isChain_nil)
  refine ⟨fun hrespects => hiff.mp hrespects.separated, fun hmeets => ?_⟩
  refine ⟨hiff.mpr hmeets, ?_⟩
  intro cs₁ c hpre hdue
  have hthere := h.run h30 cs₁
  rw [hthere.interval] at hdue
  exact hthere.triggers_of_elapsed hpos h30 hdue

/-- The call at a second of the first minute of the day. -/
def atSecond (sec : UInt8) (h : sec < 60 := by decide) : Call where
  time :=
    { hour := 0
      min := 0
      sec := sec
      hour_lt := (by decide : (0 : UInt8) < 24)
      min_lt := (by decide : (0 : UInt8) < 60)
      sec_lt := h }

theorem respectsInterval_iff_twoReports :
    RespectsInterval {} [atSecond 20, atSecond 39, atSecond 40] :=
  (respectsInterval_iff {} [atSecond 20, atSecond 39, atSecond 40] rfl
    (by decide) (by decide) (atSecond 0).time rfl rfl).mpr (by decide)

/-- The second that triggered a report comes once more, and triggers again. -/
theorem repeatedSecond_not_respected :
    ¬ RespectsInterval {} [atSecond 20, atSecond 20] := by
  intro h
  exact absurd h.separated (by decide)

end GpsState

end VehicleRecorder.Gps
