import VehicleRecorder.Protocol.TcpRxProcess

/-!
# Temporary tracking

A message `0x8202` asks for reports in an interval for some seconds.  The handler
takes the number of seconds for the interval; `SendMode_Config` takes the
interval, and gives it up when a counter of seconds has gone beyond the number.
No function moves this counter.
-/

namespace VehicleRecorder.Protocol

open Bytes

/-! ## The functions -/

/-- What `SendMode_Config` reads of `JT808Conf_struct.SD_MODE` besides
`DUR_TOTALMODE` and `Dur_DefaultMode`. -/
structure SendMode where
  durSleepMode : UInt8 := 0
  durNologinMode : UInt8 := 0
  durEmegencMode : UInt8 := 0
  distTotalMode : UInt8 := 0
  distDefaultMode : UInt8 := 0
  distNoLoginMode : UInt8 := 0
  distSleepMode : UInt8 := 0
  distEmgenceMode : UInt8 := 0
  deriving DecidableEq, Repr

/-- The variables of the modes of sending. -/
structure Sending where
  app : AppState := {}
  sdMode : SendMode := {}
  heartSdCnter : UInt16 := 0
  heartSdFlag : UInt8 := 0
  currentState : UInt8 := 0

namespace Sending

/-- The interval of the reports, `Current_SD_Duration`. -/
def currentSdDuration (t : Sending) : ℕ := t.app.link.currentSdDuration

/-- `JT808Conf_struct.RT_LOCK`. -/
def rtLock (t : Sending) : RealtimeLock := t.app.conf.rtLock

/-- A new interval. -/
def setDuration (t : Sending) (duration : ℕ) : Sending :=
  { t with app := { t.app with link.currentSdDuration := duration } }

/-- A new distance, in a variable of one byte. -/
def setState (t : Sending) (distance : ℕ) : Sending :=
  { t with currentState := UInt8.ofNat distance }

/-- The part of `SendMode_Config` behind the lock. -/
def modeConfig (t : Sending) : Sending :=
  if t.app.conf.durTotalMode = 1 then
    if t.sdMode.durEmegencMode = 1 then
      t.setDuration t.app.conf.duration.emegenceDur
    else if t.app.conf.durDefaultMode = 1 then
      t.setDuration t.app.conf.duration.defaultDur
    else if t.sdMode.durNologinMode = 1 then
      t.setDuration t.app.conf.duration.noDrvLoginDur
    else if t.sdMode.durSleepMode = 1 then
      t.setDuration t.app.conf.duration.sleepDur
    else t
  else if t.sdMode.distTotalMode = 1 then
    if t.sdMode.distEmgenceMode = 1 then
      t.setState t.app.conf.distance.emergenDist
    else if t.sdMode.distDefaultMode = 1 then
      t.setState t.app.conf.distance.defalutDistDelta
    else if t.sdMode.distNoLoginMode = 1 then
      t.setState t.app.conf.distance.noDrvLoginDist
    else if t.sdMode.distSleepMode = 1 then
      t.setState t.app.conf.distance.sleepDist
    else t
  else t

/-- `SendMode_Config`. -/
def sendModeConfig (t : Sending) : Sending :=
  if t.rtLock.lockState = 1 then
    let t : Sending :=
      { t with
        app := { t.app with
          conf.durTotalMode := 1
          link.currentSdDuration := t.rtLock.lockDur } }
    if t.rtLock.lockKeepDur < t.rtLock.lockKeepCnter then
      { t with app := t.app.saveJT808 }.modeConfig
    else t
  else t.modeConfig

/-- `SendMode_ConterProcess`. -/
def sendModeConterProcess (t : Sending) : Sending :=
  let heartSdCnter := t.heartSdCnter + 1
  if t.app.conf.duration.heartDur < heartSdCnter.toNat then
    { t with heartSdCnter := 0, heartSdFlag := 1 }
  else { t with heartSdCnter := heartSdCnter }

/-- The message `0x8202` in the receive buffer is handled. -/
def track (t : Sending) (rx : ℕ → UInt8) : Sending :=
  { t with app := t.app.case8202 rx }

end Sending

/-! ## The lock -/

/-- A second, with `SendMode_ConterProcess`, or a call of `SendMode_Config`. -/
inductive SendStep
  | second
  | config
  deriving DecidableEq, Repr

namespace Sending

/-- One step. -/
def step (t : Sending) : SendStep → Sending
  | .second => t.sendModeConterProcess
  | .config => t.sendModeConfig

/-- The interval `T` is kept until `K` seconds have passed; a call of
`SendMode_Config` after that gives up the lock and returns to the interval of the
default mode. -/
structure Tracks (T K : ℕ) (t : Sending) (es : List SendStep) : Prop where
  during : ∀ es₁, es₁ <+: es → es₁.count .second < K →
    (es₁.foldl step t).currentSdDuration = T
  after : ∀ es₁, es₁ ++ [SendStep.config] <+: es → K ≤ es₁.count .second →
    ((es₁ ++ [SendStep.config]).foldl step t).currentSdDuration =
        t.app.conf.duration.defaultDur ∧
      ((es₁ ++ [SendStep.config]).foldl step t).rtLock.lockState = 0

/-- The lock is on with the interval `T` and `K` seconds, of which none has been
counted. -/
structure Locked (T K : ℕ) (t : Sending) : Prop where
  lockState : t.rtLock.lockState = 1
  lockDur : t.rtLock.lockDur = T
  lockKeepDur : t.rtLock.lockKeepDur = K
  lockKeepCnter : t.rtLock.lockKeepCnter = 0

section Steps

variable {T K : ℕ} {t : Sending}

theorem locked_track (t : Sending) (rx : ℕ → UInt8) :
    (t.track rx).Locked (be16 rx 13) (be32 rx 15) :=
  ⟨rfl, rfl, rfl, rfl⟩

/-- The handler sets the interval to the number of seconds. -/
theorem currentSdDuration_track (t : Sending) (rx : ℕ → UInt8) :
    (t.track rx).currentSdDuration = be32 rx 15 :=
  rfl

/-- The counter of the heart beats is the only one that a second moves. -/
theorem sendModeConterProcess_app : t.sendModeConterProcess.app = t.app := by
  unfold sendModeConterProcess
  dsimp only
  split <;> rfl

/-- As long as the counter stands still, `SendMode_Config` ends with the lock. -/
theorem Locked.sendModeConfig_app (h : t.Locked T K) :
    t.sendModeConfig.app =
      { t.app with
        conf.durTotalMode := 1
        link.currentSdDuration := T } := by
  unfold sendModeConfig
  rw [if_pos h.lockState]
  dsimp only
  rw [if_neg, h.lockDur]
  change ¬ t.rtLock.lockKeepDur < t.rtLock.lockKeepCnter
  rw [h.lockKeepCnter]
  exact Nat.not_lt_zero _

theorem Locked.step (h : t.Locked T K) (e : SendStep) :
    (t.step e).Locked T K := by
  have hlock : (t.step e).rtLock = t.rtLock := by
    cases e with
    | second => exact congrArg (·.conf.rtLock) sendModeConterProcess_app
    | config => exact congrArg (·.conf.rtLock) h.sendModeConfig_app
  refine ⟨?_, ?_, ?_, ?_⟩ <;> rw [hlock]
  exacts [h.lockState, h.lockDur, h.lockKeepDur, h.lockKeepCnter]

theorem Locked.run (h : t.Locked T K) (es : List SendStep) :
    (es.foldl Sending.step t).Locked T K := by
  induction es generalizing t with
  | nil => exact h
  | cons e es ih => exact ih (h.step e)

/-- The interval of the lock stays once it is in use. -/
theorem Locked.duration_run (h : t.Locked T K)
    (hduration : t.currentSdDuration = T) (es : List SendStep) :
    (es.foldl Sending.step t).currentSdDuration = T := by
  induction es generalizing t with
  | nil => exact hduration
  | cons e es ih =>
      refine ih (h.step e) ?_
      cases e with
      | second =>
          exact (congrArg (·.link.currentSdDuration)
            sendModeConterProcess_app).trans hduration
      | config => exact congrArg (·.link.currentSdDuration) h.sendModeConfig_app

end Steps

/-- Tracking works exactly when the interval asked for is the number of seconds
itself and `SendMode_Config` is not called any more when they have passed. -/
theorem tracks_iff (t : Sending) (rx : ℕ → UInt8) (es : List SendStep)
    (hK : 0 < be32 rx 15) :
    Tracks (be16 rx 13) (be32 rx 15) (t.track rx) es ↔
      be16 rx 13 = be32 rx 15 ∧
        ∀ es₁, es₁ ++ [SendStep.config] <+: es → es₁.count .second < be32 rx 15 := by
  have hlocked := locked_track t rx
  constructor
  · intro h
    refine ⟨(h.during [] List.nil_prefix hK).symm, ?_⟩
    intro es₁ hpre
    by_contra hover
    have hfree := (h.after es₁ hpre (Nat.not_lt.mp hover)).2
    rw [(hlocked.run (es₁ ++ [SendStep.config])).lockState] at hfree
    exact absurd hfree (by decide)
  · rintro ⟨hsame, hearly⟩
    refine ⟨fun es₁ _ _ => ?_, fun es₁ hpre hover => ?_⟩
    · refine hlocked.duration_run ?_ es₁
      rw [currentSdDuration_track, hsame]
    · exact absurd (hearly es₁ hpre) (Nat.not_lt.mpr hover)

/-- A receive buffer with the interval `T` and the number of seconds `K`, both
below 256. -/
def trackFrame (T K : UInt8) (i : ℕ) : UInt8 :=
  if i = 14 then T else if i = 18 then K else 0

/-- An interval of 20 s for 20 s. -/
theorem tracks_twenty :
    Tracks 20 20 (track {} (trackFrame 20 20)) [.second, .config, .second] := by
  refine (tracks_iff {} (trackFrame 20 20) [.second, .config, .second]
    (by decide)).mpr ⟨by decide, fun es₁ hpre => ?_⟩
  have hcount : es₁.count .second ≤ es₁.length := List.count_le_length
  have hlength := hpre.length_le
  rw [List.length_append, List.length_singleton] at hlength
  change es₁.count .second < 20
  have hshort : es₁.length + 1 ≤ 3 := hlength
  omega

/-- An interval of 10 s for 60 s gives reports every 60 s. -/
theorem tenForSixty_not_tracks :
    ¬ Tracks 10 60 (track {} (trackFrame 10 60)) [] := by
  intro h
  exact absurd (h.during [] List.nil_prefix (by decide)) (by decide)

end Sending

end VehicleRecorder.Protocol
