import VehicleRecorder.Gps.RmcFields

/-!
# The report by distance

The odometer is moved in three places, two of them in `Speed_pro` and one in
`SpeedSensorProcess`.  Each is to move the distance since the last report with
it.  Only the one for a sensor that is not calibrated yet does: the one without
a sensor adds a variable that is still 0, and `SpeedSensorProcess` adds nothing.
-/

namespace VehicleRecorder.Gps

open Runs

namespace GpsState

/-! ## The functions -/

/-- `Speed_pro` with a position, behind the conversion of the speed to m/h. -/
def speedLocated (s : GpsState) (sp : ℕ) : GpsState :=
  if sp > 220000 then s else s.speedUse sp

/-- `Speed_pro` without a position. -/
def speedLost (s : GpsState) : GpsState :=
  let s :=
    if s.speedGetType = 0 then { s with drive.gpsSpeed := 0 }
    else
      let s := s.kAdjustUseGps 0
      { s with drive.gpsSpeed := s.speedCacu }
  { s with speedGps := 0 }

/-- `SpeedSensorProcess`.  The products are below `2 ^ 32`, in which the
quotients are taken. -/
def speedSensorProcess (s : GpsState) : GpsState :=
  let plus := s.kAdjust.delta1sPlus.toNat
  let speedCacu := plus * 36000 / s.kAdjust.vechCharacterValue % 65536
  let s :=
    { s with
      speedCacu := speedCacu
      drive.gpsSpeed := speedCacu
      moduleStatus := s.moduleStatus ||| 0x08 }
  s.addDistance (plus * 1000 / s.kAdjust.vechCharacterValue)

theorem speedPro_located {s : GpsState} {tmpinfo : ℕ → UInt8} {point knots : ℕ}
    (hflag : s.udpDataPacketFlag = 0x02) (hpoint : 1 ≤ point ∧ point ≤ 3)
    (hsp : speedSp tmpinfo point = some knots) :
    s.speedPro tmpinfo point = s.speedLocated (knots * 1856 / 10) := by
  have hdigits : ¬ (¬ (1 ≤ point ∧ point ≤ 3) ∧ s.speedGetType = 0) :=
    fun h => h.1 hpoint
  rw [speedPro, if_pos hflag, hsp]
  simp only [if_neg hdigits]
  rfl

theorem speedPro_lost {s : GpsState} (tmpinfo : ℕ → UInt8) (point : ℕ)
    (hflag : s.udpDataPacketFlag = 0x03) :
    s.speedPro tmpinfo point = s.speedLost := by
  rw [speedPro, if_neg (by rw [hflag]; decide), if_pos hflag]
  rfl

end GpsState

/-! ## Updates of the speed -/

/-- An update of the speed: by `Speed_pro` with a position and a speed in m/h or
without a position, by `SpeedSensorProcess`, each with the pulses of the second,
or a change of the source. -/
inductive SpeedUpdate
  | located (sp : ℕ) (pulses : UInt16)
  | lost (pulses : UInt16)
  | sensor (pulses : UInt16)
  | source (speedGetType dfKAdjustState : UInt8)
  deriving DecidableEq, Repr

namespace GpsState

/-- The pulses of the second. -/
def sense (s : GpsState) (pulses : UInt16) : GpsState :=
  { s with kAdjust.delta1sPlus := pulses }

/-- An update of the speed, after the report of the last one has been sent. -/
def update (s : GpsState) (e : SpeedUpdate) : GpsState :=
  let s := { s with drive.dev.positionSdEnable := false }
  match e with
  | .located sp pulses => (s.sense pulses).speedLocated sp
  | .lost pulses => (s.sense pulses).speedLost
  | .sensor pulses => (s.sense pulses).speedSensorProcess
  | .source speedGetType dfKAdjustState =>
      { s with
        speedGetType := speedGetType
        kAdjust.dfKAdjustState := dfKAdjustState }

/-- `Speed_pro` counts the speed as a distance: it is neither drift nor out of
range, and the pulses are not in use. -/
def Counts (s : GpsState) (sp : ℕ) (pulses : UInt16) : Prop :=
  (5000 ≤ sp ∧ sp ≤ 220000) ∧
    (s.speedGetType = 0 ∨
      ((s.sense pulses).kAdjustUseGps (sp / 100)).kAdjust.dfKAdjustState = 0)

instance (s : GpsState) (sp : ℕ) (pulses : UInt16) :
    Decidable (s.Counts sp pulses) :=
  inferInstanceAs (Decidable (_ ∧ _))

/-- The metres that an update adds to the odometer. -/
def metres (s : GpsState) : SpeedUpdate → ℕ
  | .located sp pulses => if s.Counts sp pulses then sp / 3600 else 0
  | .lost _ => 0
  | .sensor pulses => pulses.toNat * 1000 / s.kAdjust.vechCharacterValue
  | .source _ _ => 0

/-- An update triggers a report. -/
def Reports (s : GpsState) (e : SpeedUpdate) : Prop :=
  (s.update e).drive.dev.positionSdEnable = true

instance (s : GpsState) (e : SpeedUpdate) : Decidable (s.Reports e) :=
  inferInstanceAs (Decidable (_ = true))

/-! ## One update -/

/-- The variables of the report and of the odometer. -/
structure ReportView where
  distTotalMode : UInt8
  currentSdDistance : ℕ
  distanceAccumulate : ℕ
  positionSdEnable : Bool
  distanceM : ℕ

/-- The part of the variables in a `ReportView`. -/
def reportView (s : GpsState) : ReportView :=
  ⟨s.distTotalMode, s.currentSdDistance, s.distanceAccumulate,
    s.drive.dev.positionSdEnable, s.drive.dev.distanceM⟩

/-- `Distance_m_u32` behind an addition. -/
def odometer (distanceM metres : ℕ) : ℕ :=
  let sum := (distanceM + metres) % 4294967296
  if sum > 0xFFFFFF then 0 else sum

/-- The report after a distance, on the view. -/
def ReportView.report (v : ReportView) (reg : ℕ) : ReportView :=
  if v.distTotalMode = 1 then
    let sum := (v.distanceAccumulate + reg) % 4294967296
    if v.currentSdDistance ≤ sum then
      { v with distanceAccumulate := 0, positionSdEnable := true }
    else { v with distanceAccumulate := sum }
  else v

section Update

variable {s : GpsState}

theorem kAdjustUseGps_report (n : ℕ) :
    (s.kAdjustUseGps n).reportView = s.reportView := by
  unfold kAdjustUseGps calibrate
  dsimp only
  split
  · rfl
  · split
    · split
      · split <;> rfl
      · rfl
    · rfl

theorem distanceReport_report (reg : ℕ) :
    (s.distanceReport reg).reportView = s.reportView.report reg := by
  have hview : s.reportView.report reg =
      if s.distTotalMode = 1 then
        if s.currentSdDistance ≤ (s.distanceAccumulate + reg) % 4294967296 then
          { s.reportView with distanceAccumulate := 0, positionSdEnable := true }
        else
          { s.reportView with
            distanceAccumulate := (s.distanceAccumulate + reg) % 4294967296 }
      else s.reportView := rfl
  rw [hview]
  unfold distanceReport
  dsimp only
  split
  · split <;> rfl
  · rfl

/-- The calibration reads nothing but its own variables. -/
theorem kAdjustUseGps_kAdjust {s' : GpsState} (h : s'.kAdjust = s.kAdjust)
    (n : ℕ) : (s'.kAdjustUseGps n).kAdjust = (s.kAdjustUseGps n).kAdjust := by
  unfold kAdjustUseGps calibrate
  dsimp only
  rw [h]
  split
  · exact h
  · split
    · split
      · split <;> rfl
      · rfl
    · rfl

/-- What `Speed_pro` does with a speed in range: a speed that counts moves the
odometer, and the sum of the report by as much if there is a sensor. -/
theorem speedUse_report (sp : ℕ) :
    (s.speedUse sp).reportView =
      if 5000 ≤ sp ∧ (s.speedGetType = 0 ∨
          (s.kAdjustUseGps (sp / 100)).kAdjust.dfKAdjustState = 0) then
        ({ s.reportView with
            distanceM := odometer s.drive.dev.distanceM (sp / 3600) } :
          ReportView).report (if s.speedGetType = 0 then 0 else sp / 3600)
      else s.reportView := by
  unfold speedUse
  dsimp only
  set s₁ : GpsState :=
    if 5 ≤ s.sateliteNum then { s with speedGps := sp / 100 % 65536 } else s
    with hs₁
  have hview : s₁.reportView = s.reportView := by
    rw [hs₁]
    split <;> rfl
  have htypes : s₁.speedGetType = s.speedGetType := by
    rw [hs₁]
    split <;> rfl
  have hadjust : s₁.kAdjust = s.kAdjust := by
    rw [hs₁]
    split <;> rfl
  rw [htypes, ← kAdjustUseGps_kAdjust hadjust, ← hview,
    show s.drive.dev.distanceM = s₁.drive.dev.distanceM from
      (congrArg ReportView.distanceM hview).symm]
  by_cases htype : s.speedGetType = 0
  · rw [if_neg (not_not_intro htype), if_pos htype]
    by_cases hdrift : 5000 ≤ sp
    · rw [if_pos hdrift, if_pos ⟨hdrift, .inl htype⟩]
      exact distanceReport_report 0
    · rw [if_neg hdrift, if_neg fun h => hdrift h.1]
      rfl
  · rw [if_pos htype, if_neg htype]
    have hkeep := kAdjustUseGps_report (s := s₁) (sp / 100)
    generalize s₁.kAdjustUseGps (sp / 100) = s₂ at hkeep ⊢
    by_cases hstate : s₂.kAdjust.dfKAdjustState = 0
    · rw [if_pos hstate]
      by_cases hdrift : 5000 ≤ sp
      · rw [if_pos hdrift, if_pos ⟨hdrift, .inr hstate⟩, distanceReport_report,
          ← hkeep,
          show s₁.drive.dev.distanceM = s₂.drive.dev.distanceM from
            (congrArg ReportView.distanceM hkeep).symm]
        rfl
      · rw [if_neg hdrift, if_neg fun h => hdrift h.1]
        exact hkeep
    · rw [if_neg hstate, if_neg fun h => hstate (h.2.resolve_left htype)]
      exact hkeep

theorem speedLost_report : s.speedLost.reportView = s.reportView := by
  have hkeep := kAdjustUseGps_report (s := s) 0
  unfold speedLost
  dsimp only
  split
  · rfl
  · exact hkeep

/-- The variables of the report as an update finds them. -/
def idleView (s : GpsState) : ReportView :=
  { s.reportView with positionSdEnable := false }

theorem update_located (sp : ℕ) (pulses : UInt16) :
    (s.update (.located sp pulses)).reportView =
      if s.Counts sp pulses then
        ({ s.idleView with
            distanceM := odometer s.drive.dev.distanceM (sp / 3600) } :
          ReportView).report (if s.speedGetType = 0 then 0 else sp / 3600)
      else s.idleView := by
  set s₁ : GpsState :=
    ({ s with drive.dev.positionSdEnable := false } : GpsState).sense pulses
    with hs₁
  have hadjust : s₁.kAdjust = (s.sense pulses).kAdjust := rfl
  have hstep : s.update (.located sp pulses) = s₁.speedLocated sp := rfl
  rw [hstep, speedLocated]
  by_cases hrange : sp > 220000
  · rw [if_pos hrange, if_neg fun h => by have := h.1.2; omega]
    rfl
  · rw [if_neg hrange, speedUse_report, kAdjustUseGps_kAdjust hadjust]
    by_cases hcounts : s.Counts sp pulses
    · rw [if_pos ⟨hcounts.1.1, hcounts.2⟩, if_pos hcounts]
      rfl
    · rw [if_neg hcounts, if_neg]
      · rfl
      · exact fun h => hcounts ⟨⟨h.1, Nat.not_lt.mp hrange⟩, h.2⟩

theorem update_lost (pulses : UInt16) :
    (s.update (.lost pulses)).reportView = s.idleView :=
  speedLost_report

theorem update_sensor (pulses : UInt16) :
    (s.update (.sensor pulses)).reportView =
      { s.idleView with
        distanceM := odometer s.drive.dev.distanceM
          (pulses.toNat * 1000 / s.kAdjust.vechCharacterValue) } :=
  rfl

theorem update_source (speedGetType dfKAdjustState : UInt8) :
    (s.update (.source speedGetType dfKAdjustState)).reportView = s.idleView :=
  rfl

theorem report_settings (v : ReportView) (reg : ℕ) :
    (v.report reg).distTotalMode = v.distTotalMode ∧
      (v.report reg).currentSdDistance = v.currentSdDistance := by
  unfold ReportView.report
  dsimp only
  split
  · split <;> exact ⟨rfl, rfl⟩
  · exact ⟨rfl, rfl⟩

/-- No update changes the mode or the distance. -/
theorem update_settings (s : GpsState) (e : SpeedUpdate) :
    (s.update e).distTotalMode = s.distTotalMode ∧
      (s.update e).currentSdDistance = s.currentSdDistance := by
  change (s.update e).reportView.distTotalMode = _ ∧
    (s.update e).reportView.currentSdDistance = _
  cases e with
  | located sp pulses =>
      rw [update_located]
      split
      · exact report_settings _ _
      · exact ⟨rfl, rfl⟩
  | lost pulses =>
      rw [update_lost]
      exact ⟨rfl, rfl⟩
  | sensor pulses => exact ⟨rfl, rfl⟩
  | source speedGetType dfKAdjustState => exact ⟨rfl, rfl⟩

end Update

/-! ## Runs -/

/-- The update is one whose metres are counted for the report as well: it counts
none, or it takes the speed of the position in place of the sensor's, and the
sum does not wrap around. -/
def Credited (s : GpsState) : SpeedUpdate → Prop
  | .located sp pulses =>
      s.Counts sp pulses →
        s.speedGetType ≠ 0 ∧ s.distanceAccumulate + sp / 3600 < 4294967296
  | .lost _ => True
  | .sensor pulses =>
      s.kAdjust.vechCharacterValue = 0 ∨
        pulses.toNat * 1000 < s.kAdjust.vechCharacterValue
  | .source _ _ => True

instance (s : GpsState) : (e : SpeedUpdate) → Decidable (s.Credited e)
  | .located _ _ => inferInstanceAs (Decidable (_ → _))
  | .lost _ => isTrue trivial
  | .sensor _ => inferInstanceAs (Decidable (_ ∨ _))
  | .source _ _ => isTrue trivial

end GpsState

/-- The variables, and the metres that the odometer has counted since the last
report. -/
structure Trip where
  state : GpsState
  since : ℕ

namespace Trip

open GpsState

/-- An update of the speed. -/
def step (t : Trip) (e : SpeedUpdate) : Trip where
  state := t.state.update e
  since := if t.state.Reports e then 0 else t.since + t.state.metres e

/-- An update keeps the report with the odometer: the metres are added to its sum
too, and it is triggered exactly when those since the last report have reached
the distance. -/
structure Follows (t : Trip) (e : SpeedUpdate) : Prop where
  added : (t.state.update e).distanceAccumulate =
    if t.state.Reports e then 0
    else t.state.distanceAccumulate + t.state.metres e
  reports : t.state.Reports e ↔
    t.state.currentSdDistance ≤ t.since + t.state.metres e

/-- The report by distance with the sum at the metres since the last report. -/
structure Underway (t : Trip) : Prop where
  mode : t.state.distTotalMode = 1
  sum : t.state.distanceAccumulate = t.since
  short : t.since < t.state.currentSdDistance

theorem report_cases {v : ReportView} (hmode : v.distTotalMode = 1) (reg : ℕ) :
    (v.currentSdDistance ≤ (v.distanceAccumulate + reg) % 4294967296 ∧
        v.report reg =
          { v with distanceAccumulate := 0, positionSdEnable := true }) ∨
      ((v.distanceAccumulate + reg) % 4294967296 < v.currentSdDistance ∧
        v.report reg =
          { v with
            distanceAccumulate :=
              (v.distanceAccumulate + reg) % 4294967296 }) := by
  unfold ReportView.report
  rw [if_pos hmode]
  dsimp only
  split
  · rename_i hdue
    exact .inl ⟨hdue, rfl⟩
  · rename_i hearly
    exact .inr ⟨Nat.not_le.mp hearly, rfl⟩

section Step

variable {t : Trip} {e : SpeedUpdate}

theorem reports_iff {v : ReportView} (hview : (t.state.update e).reportView = v) :
    t.state.Reports e ↔ v.positionSdEnable = true := by
  rw [← hview]
  rfl

/-- An update that reports nothing keeps the report with the odometer if its
metres are in the sum and short of the distance. -/
theorem follows_of_quiet {v : ReportView}
    (hview : (t.state.update e).reportView = v)
    (hquiet : v.positionSdEnable = false) :
    t.Follows e ↔
      v.distanceAccumulate = t.state.distanceAccumulate + t.state.metres e ∧
        t.since + t.state.metres e < t.state.currentSdDistance := by
  have hno : ¬ t.state.Reports e := by
    rw [reports_iff hview, hquiet]
    decide
  have hsum : (t.state.update e).distanceAccumulate = v.distanceAccumulate :=
    congrArg ReportView.distanceAccumulate hview
  constructor
  · intro h
    have hadded := h.added
    rw [if_neg hno, hsum] at hadded
    exact ⟨hadded, Nat.not_le.mp (mt h.reports.mpr hno)⟩
  · rintro ⟨hadded, hshort⟩
    refine ⟨?_, iff_of_false hno (Nat.not_le.mpr hshort)⟩
    rw [if_neg hno, hsum, hadded]

/-- An update without metres that leaves the sum alone follows the odometer. -/
theorem Underway.follows_of_idle (h : t.Underway) {v : ReportView}
    (hview : (t.state.update e).reportView = v)
    (hquiet : v.positionSdEnable = false)
    (hsum : v.distanceAccumulate = t.state.distanceAccumulate)
    (hmetres : t.state.metres e = 0) : t.Follows e := by
  rw [follows_of_quiet hview hquiet, hmetres]
  exact ⟨hsum, h.short⟩

theorem Underway.follows_located (h : t.Underway) (sp : ℕ) (pulses : UInt16) :
    t.Follows (.located sp pulses) ↔ t.state.Credited (.located sp pulses) := by
  have hview := update_located (s := t.state) sp pulses
  by_cases hcounts : t.state.Counts sp pulses
  · rw [if_pos hcounts] at hview
    have hmetres : t.state.metres (.located sp pulses) = sp / 3600 :=
      if_pos hcounts
    have hrange : 5000 ≤ sp ∧ sp ≤ 220000 := hcounts.1
    have hcredited : t.state.Credited (.located sp pulses) ↔
        t.state.speedGetType ≠ 0 ∧
          t.state.distanceAccumulate + sp / 3600 < 4294967296 :=
      forall_prop_of_true hcounts
    have hsum := h.sum
    have hshort := h.short
    rw [hcredited]
    generalize hreg : (if t.state.speedGetType = 0 then 0 else sp / 3600) = reg
      at hview
    rcases report_cases (show ({ t.state.idleView with
        distanceM := odometer t.state.drive.dev.distanceM (sp / 3600) } :
          ReportView).distTotalMode = 1 from h.mode) reg with
      ⟨hdue, heq⟩ | ⟨hearly, heq⟩
    · rw [heq] at hview
      replace hdue : t.state.currentSdDistance ≤
        (t.state.distanceAccumulate + reg) % 4294967296 := hdue
      have hreports : t.state.Reports (.located sp pulses) :=
        (reports_iff hview).mpr rfl
      have hreset : (t.state.update (.located sp pulses)).distanceAccumulate = 0 :=
        congrArg ReportView.distanceAccumulate hview
      have htype : t.state.speedGetType ≠ 0 := by
        intro htype
        rw [if_pos htype] at hreg
        omega
      rw [if_neg htype] at hreg
      refine iff_of_true ⟨?_, iff_of_true hreports ?_⟩ ⟨htype, ?_⟩
      · rw [hreset, if_pos hreports]
      · rw [hmetres]
        omega
      · omega
    · rw [heq] at hview
      replace hearly : (t.state.distanceAccumulate + reg) % 4294967296 <
        t.state.currentSdDistance := hearly
      rw [follows_of_quiet hview rfl, hmetres]
      change (t.state.distanceAccumulate + reg) % 4294967296 =
        t.state.distanceAccumulate + sp / 3600 ∧ _ ↔ _
      by_cases htype : t.state.speedGetType = 0
      · rw [if_pos htype] at hreg
        refine iff_of_false (fun hfollows => ?_) fun h => h.1 htype
        have hadded := hfollows.1
        omega
      · rw [if_neg htype] at hreg
        rw [and_iff_right htype]
        omega
  · rw [if_neg hcounts] at hview
    refine iff_of_true ?_ fun hcounts' => absurd hcounts' hcounts
    exact h.follows_of_idle hview rfl rfl (if_neg hcounts)

theorem Underway.follows_sensor (h : t.Underway) (pulses : UInt16) :
    t.Follows (.sensor pulses) ↔ t.state.Credited (.sensor pulses) := by
  rw [follows_of_quiet (update_sensor pulses) rfl, Credited,
    ← Nat.div_eq_zero_iff]
  have hmetres : t.state.metres (.sensor pulses) =
      pulses.toNat * 1000 / t.state.kAdjust.vechCharacterValue := rfl
  have hsum : ({ t.state.idleView with
      distanceM := odometer t.state.drive.dev.distanceM
        (pulses.toNat * 1000 / t.state.kAdjust.vechCharacterValue) } :
      ReportView).distanceAccumulate = t.state.distanceAccumulate := rfl
  rw [hmetres, hsum]
  constructor
  · rintro ⟨hadded, -⟩
    omega
  · intro hzero
    rw [hzero]
    exact ⟨rfl, h.short⟩

/-- An update follows the odometer exactly when its metres are credited. -/
theorem Underway.follows_iff (h : t.Underway) (e : SpeedUpdate) :
    t.Follows e ↔ t.state.Credited e := by
  cases e with
  | located sp pulses => exact h.follows_located sp pulses
  | lost pulses =>
      exact iff_of_true (h.follows_of_idle (update_lost pulses) rfl rfl rfl)
        trivial
  | sensor pulses => exact h.follows_sensor pulses
  | source speedGetType dfKAdjustState =>
      exact iff_of_true
        (h.follows_of_idle (update_source speedGetType dfKAdjustState) rfl rfl
          rfl) trivial

/-- An update that is credited keeps the sum at the metres since the last
report. -/
theorem Underway.step (h : t.Underway) (hcredited : t.state.Credited e) :
    (t.step e).Underway := by
  have hfollows := (h.follows_iff e).mpr hcredited
  obtain ⟨hmode, hdistance⟩ := update_settings t.state e
  refine ⟨hmode.trans h.mode, ?_, ?_⟩
  · change (t.state.update e).distanceAccumulate = _
    rw [hfollows.added, h.sum]
    rfl
  · have hsince : (t.step e).since =
        if t.state.Reports e then 0 else t.since + t.state.metres e := rfl
    change _ < (t.state.update e).currentSdDistance
    rw [hdistance, hsince]
    split
    · exact Nat.zero_lt_of_lt h.short
    · rename_i hquiet
      exact Nat.not_le.mp (mt hfollows.reports.mpr hquiet)

end Step

end Trip

namespace GpsState

/-- The report follows the odometer in every update of a run. -/
def FollowsOdometer (s : GpsState) (es : List SpeedUpdate) : Prop :=
  Throughout Trip.step Trip.Follows ⟨s, s.distanceAccumulate⟩ es

/-- The report by distance follows the odometer exactly when every update is
credited. -/
theorem followsOdometer_iff (s : GpsState) (es : List SpeedUpdate)
    (hmode : s.distTotalMode = 1)
    (hshort : s.distanceAccumulate < s.currentSdDistance) :
    s.FollowsOdometer es ↔
      Meeting Trip.step (fun t e => t.state.Credited e)
        ⟨s, s.distanceAccumulate⟩ es :=
  throughout_iff_meeting_of_invariant
    (fun _ e (h : Trip.Underway _) => h.follows_iff e)
    (fun _ _ h hcredited => h.step hcredited) ⟨hmode, rfl, hshort⟩ es

/-- A sensor that is not calibrated, at 72 km/h. -/
theorem followsOdometer_uncalibrated :
    ({ distTotalMode := 1, speedGetType := 1, currentSdDistance := 40 } :
      GpsState).FollowsOdometer
        [.located 72000 20, .located 72000 20, .lost 0] :=
  (followsOdometer_iff _ _ rfl (by decide)).mpr (by decide)

/-- Without a sensor the metres of a second at 72 km/h are missing from the
sum. -/
theorem withoutSensor_not_follows :
    ¬ ({ distTotalMode := 1 } : GpsState).FollowsOdometer [.located 72000 0] := by
  intro h
  have hadded := (h [] (.located 72000 0) List.prefix_rfl).added
  exact absurd hadded (by decide)

end GpsState

end VehicleRecorder.Gps
