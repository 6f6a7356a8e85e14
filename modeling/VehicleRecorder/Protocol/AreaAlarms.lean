import Mathlib.Data.Nat.Sqrt
import VehicleRecorder.Lib.EarlyExit
import VehicleRecorder.Protocol.Geofence
import VehicleRecorder.Protocol.TimeWindow

/-!
# The alarms of areas

`CycleRail_Judge` and `RectangleRail_Judge` compare the position of the vehicle
with the eight stored areas of a shape.  The first leaves its loop at an area
whose time window is not active, and computes distances in 32 bits; the second
never looks at the time.
-/

namespace VehicleRecorder.Protocol

open Bytes Dataflash Driving

/-! ## Integers of the processor -/

/-- The `int` that an integer is stored as. -/
def toInt (z : ℤ) : ℤ := z.bmod 4294967296

/-- The `u32` that an integer is stored as. -/
def toU32 (z : ℤ) : ℕ := (z % 4294967296).toNat

/-- `abs`. -/
def absInt (z : ℤ) : ℤ := toInt |z|

theorem toInt_eq {z : ℤ} (h : z.natAbs < 2147483648) : toInt z = z := by
  refine Int.bmod_eq_of_le ?_ ?_ <;> omega

theorem absInt_eq {z : ℤ} (h : z.natAbs < 2147483648) :
    absInt z = z.natAbs := by
  rw [absInt, ← Int.natCast_natAbs]
  exact toInt_eq h

/-- A quotient of positive numbers. -/
theorem toU32_tdiv {n m : ℕ} (h : n < 4294967296) :
    toU32 ((n : ℤ).tdiv m) = n / m := by
  have hlt : n / m < 4294967296 := Nat.lt_of_le_of_lt (Nat.div_le_self n m) h
  rw [← Int.ofNat_tdiv, toU32]
  generalize n / m = q at hlt ⊢
  omega

/-! ## Stored areas -/

section Fields

variable (xs : List UInt8)

/-- A member of a structure. -/
def memberAt (offset size : ℕ) : ℕ := leValue ((xs.drop offset).take size)

/-- A time in a structure. -/
def timeAt (offset : ℕ) : BcdTime where
  year := xs.getD offset 0
  month := xs.getD (offset + 1) 0
  day := xs.getD (offset + 2) 0
  hour := xs.getD (offset + 3) 0
  min := xs.getD (offset + 4) 0
  sec := xs.getD (offset + 5) 0

/-- `CIRCLE_RAIL`, as far as the judge reads it. -/
structure CircleArea where
  areaAttribute : ℕ
  centerLatitude : ℕ
  centerLongitude : ℕ
  radius : ℕ
  maxSpd : ℕ
  effectiveFlag : UInt8
  startTime : BcdTime
  endTime : BcdTime

/-- `RECT_RAIL`, as far as the judge reads it. -/
structure RectangleArea where
  areaAttribute : ℕ
  leftUpLatitude : ℕ
  leftUpLongitude : ℕ
  rightDownLatitude : ℕ
  rightDownLongitude : ℕ
  effectiveFlag : UInt8
  startTime : BcdTime
  endTime : BcdTime

/-- The bytes of `Rail_Cycle`. -/
def circleArea : CircleArea where
  areaAttribute := memberAt xs 4 2
  centerLatitude := memberAt xs 8 4
  centerLongitude := memberAt xs 12 4
  radius := memberAt xs 16 4
  maxSpd := memberAt xs 20 2
  effectiveFlag := xs.getD 24 0
  startTime := timeAt xs 25
  endTime := timeAt xs 31

/-- The bytes of `Rail_Rectangle`. -/
def rectangleArea : RectangleArea where
  areaAttribute := memberAt xs 4 2
  leftUpLatitude := memberAt xs 8 4
  leftUpLongitude := memberAt xs 12 4
  rightDownLatitude := memberAt xs 16 4
  rightDownLongitude := memberAt xs 20 4
  effectiveFlag := xs.getD 28 0
  startTime := timeAt xs 29
  endTime := timeAt xs 35

end Fields

/-! ## The judges -/

/-- `InOut_Object`. -/
structure InOutObject where
  type : UInt8 := 0
  id : ℕ := 0
  inOutState : UInt8 := 0
  deriving DecidableEq, Repr

/-- The variables that the judges set. -/
structure AlarmState where
  warnStatus1 : UInt8 := 0
  warnStatus3 : UInt8 := 0
  inOutObject : InOutObject := {}
  deriving DecidableEq, Repr

/-- The flash, the clock, the speeds and the position of the vehicle.  `Rail_Cycle`
and `Rail_Rectangle` are filled from flash before each use. -/
structure Surroundings where
  device : Device
  timeNow : TDateTime
  gpsSpeed : ℕ
  speedGps : ℕ
  latiStr : ℕ → UInt8
  longiStr : ℕ → UInt8

namespace CircleArea

variable (o : CircleArea) (latitude longitude : ℕ)

/-- `DeltaLatiDis`. -/
def deltaLatiDis : ℕ :=
  toU32 ((absInt (toInt (latitude - o.centerLatitude))).tdiv 9)

/-- `DeltaLongiDis`. -/
def deltaLongiDis : ℕ :=
  toU32 ((toInt (absInt (toInt (longitude - o.centerLongitude)) * 853)).tdiv
    10000)

/-- `CacuDist`. -/
def cacuDist : ℕ :=
  Nat.sqrt ((o.deltaLatiDis latitude * o.deltaLatiDis latitude +
    o.deltaLongiDis longitude * o.deltaLongiDis longitude) % 4294967296)

/-- `InOutState`. -/
def inOutState : ℕ :=
  if o.deltaLatiDis latitude > o.radius then 1
  else if o.deltaLongiDis longitude > o.radius then 1
  else 0

end CircleArea

namespace RectangleArea

/-- `InOutState`. -/
def inOutState (o : RectangleArea) (latitude longitude : ℕ) : ℕ :=
  if latitude > o.rightDownLatitude ∧ latitude < o.leftUpLatitude ∧
      longitude > o.leftUpLongitude ∧ longitude < o.rightDownLongitude then 0
  else 1

end RectangleArea

/-- The alarm of the platform for the `i`-th area. -/
def AlarmState.raise (s : AlarmState) (type : UInt8) (i : ℕ)
    (inOutState : UInt8) : AlarmState :=
  { s with
    warnStatus1 := s.warnStatus1 ||| 0x10
    inOutObject := { type := type, id := i, inOutState := inOutState } }

/-- The alarm of the speed in a circle. -/
def AlarmState.limitSpeed (s : AlarmState) (o : CircleArea) (gpsSpeed : ℕ) :
    AlarmState :=
  if o.areaAttribute &&& 0x0002 ≠ 0 then
    if gpsSpeed > o.maxSpd then
      { s with warnStatus3 := s.warnStatus3 ||| 0x02 }
    else { s with warnStatus3 := s.warnStatus3 &&& 0xFD }
  else s

namespace Surroundings

variable (v : Surroundings)

/-- `Latitude`. -/
def latitude : ℕ := be32 v.latiStr 0

/-- `Longitude`. -/
def longitude : ℕ := be32 v.longiStr 0

/-- The `i`-th circle as the judge reads it. -/
def circle (i : ℕ) : CircleArea :=
  circleArea (apiRecordNumRead v.device .railCycle (i + 1) Shape.circle.size)

/-- The `i`-th rectangle as the judge reads it. -/
def rectangle (i : ℕ) : RectangleArea :=
  rectangleArea
    (apiRecordNumRead v.device .railRect (i + 1) Shape.rectangle.size)

/-- A turn of the loop of `CycleRail_Judge`, and whether it leaves the loop. -/
def cycleTurn (i : ℕ) (s : AlarmState) : AlarmState × Bool :=
  let o := v.circle i
  if o.effectiveFlag = 1 then
    let inOutState := o.inOutState v.latitude v.longitude
    let cacuDist := o.cacuDist v.latitude v.longitude
    if o.areaAttribute &&& 0x0001 ≠ 0 ∧
        currentTimeJudge o.startTime o.endTime v.timeNow = false then
      (s, true)
    else
      let s := s.limitSpeed o v.gpsSpeed
      if o.areaAttribute &&& 0x0008 ≠ 0 ∧ inOutState = 0 ∧
          cacuDist < o.radius ∧ o.maxSpd > v.speedGps / 10 then
        (s.raise 1 i 0, true)
      else if (o.areaAttribute &&& 0x0020 ≠ 0 ∧ o.maxSpd > v.speedGps / 10) ∧
          (inOutState = 1 ∨ cacuDist > o.radius) then
        (s.raise 1 i 1, true)
      else (s, false)
  else (s, false)

/-- `CycleRail_Judge`. -/
def cycleRailJudge : AlarmState → AlarmState :=
  EarlyExit.loop v.cycleTurn (List.range 8)

/-- A turn of the loop of `RectangleRail_Judge`, and whether it leaves the
loop. -/
def rectangleTurn (i : ℕ) (s : AlarmState) : AlarmState × Bool :=
  let o := v.rectangle i
  if o.effectiveFlag = 1 then
    let inOutState := o.inOutState v.latitude v.longitude
    -- the branch of the time window is empty
    if o.areaAttribute &&& 0x0008 ≠ 0 ∧ inOutState = 0 then
      (s.raise 2 i 0, true)
    else if o.areaAttribute &&& 0x0020 ≠ 0 ∧ inOutState = 1 then
      (s.raise 2 i 1, true)
    else (s, false)
  else (s, false)

/-- `RectangleRail_Judge`. -/
def rectangleRailJudge : AlarmState → AlarmState :=
  EarlyExit.loop v.rectangleTurn (List.range 8)

end Surroundings

/-! ## The alarm conditions -/

/-- The time window of an attribute with the start and the end is active. -/
def WindowActive (areaAttribute : ℕ) (startTime endTime : BcdTime)
    (timeNow : TDateTime) : Prop :=
  areaAttribute &&& 0x0001 = 0 ∨ InWindow startTime endTime timeNow

/-- The attribute asks for an alarm inside and the position is inside, or it asks
for one outside and the position is outside. -/
def AlarmAsked (areaAttribute : ℕ) (inside outside : Prop) : Prop :=
  areaAttribute &&& 0x0008 ≠ 0 ∧ inside ∨ areaAttribute &&& 0x0020 ≠ 0 ∧ outside

namespace CircleArea

variable (o : CircleArea) (latitude longitude : ℕ)

/-- The distance in meters. -/
def distance : ℕ :=
  let a := ((latitude : ℤ) - o.centerLatitude).natAbs / 9
  let b := ((longitude : ℤ) - o.centerLongitude).natAbs * 853 / 10000
  Nat.sqrt (a * a + b * b)

/-- The area has its alarm condition. -/
def Alarm : Prop :=
  AlarmAsked o.areaAttribute (o.distance latitude longitude < o.radius)
    (o.radius < o.distance latitude longitude)

/-- The area has its alarm condition by the distances in 32 bits. -/
def Alarm32 : Prop :=
  AlarmAsked o.areaAttribute
    (o.deltaLatiDis latitude ≤ o.radius ∧ o.deltaLongiDis longitude ≤ o.radius ∧
      o.cacuDist latitude longitude < o.radius)
    (o.radius < o.deltaLatiDis latitude ∨ o.radius < o.deltaLongiDis longitude ∨
      o.radius < o.cacuDist latitude longitude)

/-- The distances fit in 32 bits. -/
def Near : Prop :=
  ((latitude : ℤ) - o.centerLatitude).natAbs < 2147483648 ∧
    ((longitude : ℤ) - o.centerLongitude).natAbs * 853 < 2147483648 ∧
    (((latitude : ℤ) - o.centerLatitude).natAbs / 9) ^ 2 +
      (((longitude : ℤ) - o.centerLongitude).natAbs * 853 / 10000) ^ 2 <
        4294967296

/-- Where the distances fit in 32 bits the alarm condition is the exact one. -/
theorem alarm32_iff_alarm (h : o.Near latitude longitude) :
    o.Alarm32 latitude longitude ↔ o.Alarm latitude longitude := by
  obtain ⟨hlat, hlong, hsum⟩ := h
  have hlati : o.deltaLatiDis latitude =
      ((latitude : ℤ) - o.centerLatitude).natAbs / 9 := by
    rw [deltaLatiDis, toInt_eq hlat, absInt_eq hlat]
    exact toU32_tdiv (hlat.trans (by decide))
  have hlongi : o.deltaLongiDis longitude =
      ((longitude : ℤ) - o.centerLongitude).natAbs * 853 / 10000 := by
    have hdelta : ((longitude : ℤ) - o.centerLongitude).natAbs < 2147483648 :=
      Nat.lt_of_le_of_lt (Nat.le_mul_of_pos_right _ (by decide)) hlong
    rw [deltaLongiDis, toInt_eq hdelta, absInt_eq hdelta]
    generalize ((longitude : ℤ) - o.centerLongitude).natAbs = n at hlong ⊢
    have hproduct : toInt ((n : ℤ) * 853) = (n * 853 : ℕ) := toInt_eq (by omega)
    rw [hproduct]
    exact toU32_tdiv (hlong.trans (by decide))
  have hdist : o.cacuDist latitude longitude =
      o.distance latitude longitude := by
    rw [cacuDist, distance, hlati, hlongi, Nat.mod_eq_of_lt]
    rwa [← Nat.pow_two, ← Nat.pow_two]
  have hle : o.deltaLatiDis latitude ≤ o.distance latitude longitude ∧
      o.deltaLongiDis longitude ≤ o.distance latitude longitude := by
    rw [distance, hlati, hlongi]
    exact ⟨Nat.le_sqrt.mpr (Nat.le_add_right _ _),
      Nat.le_sqrt.mpr (Nat.le_add_left _ _)⟩
  rw [Alarm32, Alarm, hdist, AlarmAsked, AlarmAsked]
  refine or_congr (and_congr_right fun _ => ?_) (and_congr_right fun _ => ?_) <;>
    omega

theorem alarm32_iff :
    o.Alarm32 latitude longitude ↔
      o.areaAttribute &&& 0x0008 ≠ 0 ∧ o.inOutState latitude longitude = 0 ∧
          o.cacuDist latitude longitude < o.radius ∨
        o.areaAttribute &&& 0x0020 ≠ 0 ∧
          (o.inOutState latitude longitude = 1 ∨
            o.cacuDist latitude longitude > o.radius) := by
  have hzero : o.inOutState latitude longitude = 0 ↔
      o.deltaLatiDis latitude ≤ o.radius ∧
        o.deltaLongiDis longitude ≤ o.radius := by
    rw [inOutState]
    split
    · omega
    · split <;> omega
  have hone : o.inOutState latitude longitude = 1 ↔
      o.radius < o.deltaLatiDis latitude ∨
        o.radius < o.deltaLongiDis longitude := by
    rw [inOutState]
    split
    · omega
    · split <;> omega
  rw [Alarm32, AlarmAsked, hzero, hone, and_assoc, or_assoc]

end CircleArea

namespace RectangleArea

variable (o : RectangleArea) (latitude longitude : ℕ)

/-- The position lies between the corners. -/
def Inside : Prop :=
  o.rightDownLatitude < latitude ∧ latitude < o.leftUpLatitude ∧
    o.leftUpLongitude < longitude ∧ longitude < o.rightDownLongitude

/-- The area has its alarm condition. -/
def Alarm : Prop :=
  AlarmAsked o.areaAttribute (o.Inside latitude longitude)
    (¬ o.Inside latitude longitude)

theorem alarm_iff :
    o.Alarm latitude longitude ↔
      o.areaAttribute &&& 0x0008 ≠ 0 ∧ o.inOutState latitude longitude = 0 ∨
        o.areaAttribute &&& 0x0020 ≠ 0 ∧
          o.inOutState latitude longitude = 1 := by
  rw [Alarm, AlarmAsked, Inside, inOutState]
  split
  · rename_i hin
    simp [hin]
  · rename_i hout
    simp [hout]

end RectangleArea

/-- The bit of the platform's alarm for areas is set. -/
def AlarmState.Raised (s : AlarmState) : Prop := s.warnStatus1 &&& 0x10 ≠ 0

namespace AlarmState

@[simp] theorem raised_raise (s : AlarmState) (type : UInt8) (i : ℕ)
    (inOutState : UInt8) : (s.raise type i inOutState).Raised := by
  intro h
  have hbits := congrArg UInt8.toNat h
  rw [raise, UInt8.toNat_and, UInt8.toNat_or, Nat.and_or_distrib_right] at hbits
  exact absurd (Nat.or_eq_zero_iff.mp hbits).2 (by decide)

@[simp] theorem raised_limitSpeed (s : AlarmState) (o : CircleArea)
    (gpsSpeed : ℕ) : (s.limitSpeed o gpsSpeed).Raised ↔ s.Raised := by
  rw [limitSpeed]
  split
  · split <;> rfl
  · rfl

end AlarmState

namespace Surroundings

variable (v : Surroundings)

/-- The `i`-th circle is effective, its window active, and it has its alarm
condition. -/
def CircleAlarms (i : ℕ) : Prop :=
  let o := v.circle i
  o.effectiveFlag = 1 ∧
    WindowActive o.areaAttribute o.startTime o.endTime v.timeNow ∧
    o.Alarm v.latitude v.longitude

/-- The `i`-th rectangle is effective, its window active, and it has its alarm
condition. -/
def RectangleAlarms (i : ℕ) : Prop :=
  let o := v.rectangle i
  o.effectiveFlag = 1 ∧
    WindowActive o.areaAttribute o.startTime o.endTime v.timeNow ∧
    o.Alarm v.latitude v.longitude

/-- The loop over the circles is left at the `i`-th: it is effective, and
`CurrentTime_Judge` does not find the time in its window. -/
def CircleStops (i : ℕ) : Prop :=
  let o := v.circle i
  o.effectiveFlag = 1 ∧ o.areaAttribute &&& 0x0001 ≠ 0 ∧
    currentTimeJudge o.startTime o.endTime v.timeNow = false

/-- The `i`-th circle is effective and has its alarm condition by the distances in
32 bits, and no circle up to it stops the loop. -/
def CircleFound (i : ℕ) : Prop :=
  (v.circle i).effectiveFlag = 1 ∧
    (v.circle i).Alarm32 v.latitude v.longitude ∧ ∀ j ≤ i, ¬ v.CircleStops j

/-- The `i`-th rectangle is effective and has its alarm condition. -/
def RectangleFound (i : ℕ) : Prop :=
  (v.rectangle i).effectiveFlag = 1 ∧
    (v.rectangle i).Alarm v.latitude v.longitude

/-! ## What the loops find -/

section Circle

variable {v} {i : ℕ} (hspeed : v.speedGps = 0)
  (hpos : (v.circle i).effectiveFlag = 1 → 0 < (v.circle i).maxSpd)

include hspeed hpos

/-- A turn raises the alarm of an effective circle with the alarm condition by the
distances in 32 bits, and leaves the loop with it; it leaves the loop too where it
does not find the time in the window. -/
theorem cycleTurn_spec (s : AlarmState) :
    ((v.cycleTurn i s).1.Raised ↔ s.Raised ∨
      ((v.circle i).effectiveFlag = 1 ∧
        (v.circle i).Alarm32 v.latitude v.longitude ∧ ¬ v.CircleStops i)) ∧
    ((v.cycleTurn i s).2 = true ↔
      ((v.circle i).effectiveFlag = 1 ∧
        (v.circle i).Alarm32 v.latitude v.longitude ∧ ¬ v.CircleStops i) ∨
      v.CircleStops i) := by
  rw [cycleTurn, CircleStops, CircleArea.alarm32_iff]
  dsimp only
  split
  · rename_i heff
    have hmax : (v.circle i).maxSpd > v.speedGps / 10 := by
      rw [hspeed]
      exact hpos heff
    simp only [heff, hmax, true_and, and_true]
    split
    · rename_i hstop
      refine ⟨⟨.inl, ?_⟩, iff_of_true rfl (.inr hstop)⟩
      rintro (h | ⟨-, hpass⟩)
      · exact h
      · exact absurd hstop hpass
    · rename_i hpass
      split
      · rename_i hin
        exact ⟨iff_of_true (s.limitSpeed _ _ |>.raised_raise _ _ _)
          (.inr ⟨.inl hin, hpass⟩), iff_of_true rfl (.inl ⟨.inl hin, hpass⟩)⟩
      · rename_i hin
        split
        · rename_i hout
          exact ⟨iff_of_true (s.limitSpeed _ _ |>.raised_raise _ _ _)
            (.inr ⟨.inr hout, hpass⟩), iff_of_true rfl (.inl ⟨.inr hout, hpass⟩)⟩
        · rename_i hout
          have hnone := not_or.mpr ⟨hin, hout⟩
          refine ⟨?_, iff_of_false Bool.false_ne_true ?_⟩
          · rw [AlarmState.raised_limitSpeed]
            exact (or_iff_left fun h => hnone h.1).symm
          · rintro (h | h)
            · exact hnone h.1
            · exact hpass h
  · rename_i heff
    simp [heff]

end Circle

theorem rectangleTurn_spec (i : ℕ) (s : AlarmState) :
    ((v.rectangleTurn i s).1.Raised ↔ s.Raised ∨ v.RectangleFound i) ∧
    ((v.rectangleTurn i s).2 = true ↔ v.RectangleFound i) := by
  rw [rectangleTurn, RectangleFound, RectangleArea.alarm_iff]
  dsimp only
  split
  · rename_i heff
    split
    · rename_i hin
      exact ⟨iff_of_true (s.raised_raise _ _ _) (.inr ⟨heff, .inl hin⟩),
        iff_of_true rfl ⟨heff, .inl hin⟩⟩
    · rename_i hin
      split
      · rename_i hout
        exact ⟨iff_of_true (s.raised_raise _ _ _) (.inr ⟨heff, .inr hout⟩),
          iff_of_true rfl ⟨heff, .inr hout⟩⟩
      · rename_i hout
        have hnone := not_or.mpr ⟨hin, hout⟩
        exact ⟨(or_iff_left fun h => hnone h.2).symm,
          iff_of_false Bool.false_ne_true fun h => hnone h.2⟩
  · rename_i heff
    exact ⟨(or_iff_left fun h => heff h.1).symm,
      iff_of_false Bool.false_ne_true fun h => heff h.1⟩

theorem raised_rectangleRailJudge (s : AlarmState) :
    (v.rectangleRailJudge s).Raised ↔
      s.Raised ∨ ∃ i < 8, v.RectangleFound i := by
  rw [rectangleRailJudge, EarlyExit.raised_loop_range
    (fun i _ s => (v.rectangleTurn_spec i s).1)
    (fun i _ s => (v.rectangleTurn_spec i s).2.trans (or_false _).symm.to_iff)]
  simp

end Surroundings

/-- A standing vehicle; effective circles have a maximum speed. -/
structure Standing extends Surroundings where
  speed_zero : speedGps = 0
  maxSpd_pos : ∀ i < 8, (toSurroundings.circle i).effectiveFlag = 1 →
    0 < (toSurroundings.circle i).maxSpd

namespace Standing

variable (v : Standing)

theorem raised_cycleRailJudge (s : AlarmState) :
    (v.cycleRailJudge s).Raised ↔ s.Raised ∨ ∃ i < 8, v.CircleFound i := by
  have hspec (i : ℕ) (hi : i < 8) :=
    Surroundings.cycleTurn_spec v.speed_zero (v.maxSpd_pos i hi)
  rw [Surroundings.cycleRailJudge, EarlyExit.raised_loop_range
    (fun i hi s => (hspec i hi s).1) (fun i hi s => (hspec i hi s).2)]
  refine or_congr_right (exists_congr fun i => and_congr_right fun _ => ?_)
  constructor
  · rintro ⟨⟨heff, halarm, hpass⟩, hbefore⟩
    refine ⟨heff, halarm, fun j hj => ?_⟩
    rcases Nat.eq_or_lt_of_le hj with rfl | hlt
    · exact hpass
    · exact hbefore j hlt
  · rintro ⟨heff, halarm, hpass⟩
    exact ⟨⟨heff, halarm, hpass i le_rfl⟩, fun j hj => hpass j hj.le⟩

/-- The judges raise the alarm exactly for the areas that have their alarm
condition in an active window. -/
def AlarmsRight : Prop :=
  ∀ s : AlarmState,
    ((v.cycleRailJudge s).Raised ↔ s.Raised ∨ ∃ i < 8, v.CircleAlarms i) ∧
    ((v.rectangleRailJudge s).Raised ↔
      s.Raised ∨ ∃ i < 8, v.RectangleAlarms i)

/-- Errors of the judges change nothing.  Where a circle due for an alarm stands
behind one that stops the loop, or its distances do not fit in 32 bits, another
one is found; where an area is found whose window is not active, or a circle that
has its alarm condition in 32 bits only, another one is due. -/
structure AlarmsSpared : Prop where
  circle_missed : ∀ i < 8, v.CircleAlarms i →
    (∃ j ≤ i, v.CircleStops j) ∨
      ¬ (v.circle i).Alarm32 v.latitude v.longitude →
    ∃ k < 8, v.CircleFound k
  circle_false : ∀ i < 8, v.CircleFound i →
    ¬ WindowActive (v.circle i).areaAttribute (v.circle i).startTime
        (v.circle i).endTime v.timeNow ∨
      ¬ (v.circle i).Alarm v.latitude v.longitude →
    ∃ k < 8, v.CircleAlarms k
  rectangle_false : ∀ i < 8, v.RectangleFound i →
    ¬ WindowActive (v.rectangle i).areaAttribute (v.rectangle i).startTime
      (v.rectangle i).endTime v.timeNow →
    ∃ k < 8, v.RectangleAlarms k

/-- The judges raise the right alarms exactly if the errors are covered. -/
theorem alarmsRight_iff : v.AlarmsRight ↔ v.AlarmsSpared := by
  have hdown : ¬ ({} : AlarmState).Raised := not_not.mpr (by decide)
  constructor
  · intro h
    obtain ⟨hcircle, hrectangle⟩ := h {}
    rw [raised_cycleRailJudge, or_iff_right hdown, or_iff_right hdown]
      at hcircle
    rw [Surroundings.raised_rectangleRailJudge, or_iff_right hdown,
      or_iff_right hdown] at hrectangle
    constructor
    · exact fun i hi halarm _ => hcircle.mpr ⟨i, hi, halarm⟩
    · exact fun i hi hfound _ => hcircle.mp ⟨i, hi, hfound⟩
    · exact fun i hi hfound _ => hrectangle.mp ⟨i, hi, hfound⟩
  · intro h s
    rw [raised_cycleRailJudge, Surroundings.raised_rectangleRailJudge]
    constructor
    · refine or_congr_right ⟨?_, ?_⟩
      · rintro ⟨i, hi, hfound⟩
        by_cases halarm : v.CircleAlarms i
        · exact ⟨i, hi, halarm⟩
        · refine h.circle_false i hi hfound (not_and_or.mp fun hdue => ?_)
          exact halarm ⟨hfound.1, hdue⟩
      · rintro ⟨i, hi, halarm⟩
        by_cases hfound : v.CircleFound i
        · exact ⟨i, hi, hfound⟩
        · refine h.circle_missed i hi halarm (or_iff_not_imp_right.mpr ?_)
          intro hwide
          by_contra hpass
          exact hfound ⟨halarm.1, not_not.mp hwide,
            fun j hj hstop => hpass ⟨j, hj, hstop⟩⟩
    · refine or_congr_right ⟨?_, ?_⟩
      · rintro ⟨i, hi, hfound⟩
        by_cases hactive : WindowActive (v.rectangle i).areaAttribute
          (v.rectangle i).startTime (v.rectangle i).endTime v.timeNow
        · exact ⟨i, hi, hfound.1, hactive, hfound.2⟩
        · exact h.rectangle_false i hi hfound hactive
      · rintro ⟨i, hi, heff, -, halarm⟩
        exact ⟨i, hi, heff, halarm⟩

/-- Without time windows, and with distances that fit in 32 bits, the judges raise
the right alarms. -/
theorem alarmsSpared_of_near
    (hcircle : ∀ i < 8, (v.circle i).effectiveFlag = 1 →
      (v.circle i).areaAttribute &&& 0x0001 = 0 ∧
        (v.circle i).Near v.latitude v.longitude)
    (hrectangle : ∀ i < 8, (v.rectangle i).effectiveFlag = 1 →
      (v.rectangle i).areaAttribute &&& 0x0001 = 0) : v.AlarmsSpared where
  circle_missed i hi halarm hmissed := by
    have hstop : ¬ ∃ j ≤ i, v.CircleStops j := by
      rintro ⟨j, hj, heff, hbit, -⟩
      exact hbit (hcircle j (Nat.lt_of_le_of_lt hj hi) heff).1
    have hnear := (hcircle i hi halarm.1).2
    rcases hmissed with h | h
    · exact absurd h hstop
    · exact absurd ((CircleArea.alarm32_iff_alarm _ _ _ hnear).mpr halarm.2.2) h
  circle_false i hi hfound _ := by
    obtain ⟨hbit, hnear⟩ := hcircle i hi hfound.1
    exact ⟨i, hi, hfound.1, .inl hbit,
      (CircleArea.alarm32_iff_alarm _ _ _ hnear).mp hfound.2.1⟩
  rectangle_false i hi hfound _ :=
    ⟨i, hi, hfound.1, .inl (hrectangle i hi hfound.1), hfound.2⟩

end Standing

/-! ## A rectangle out of its time -/

theorem getD_eq_one_iff {xs : List UInt8} {i : ℕ} :
    xs.getD i 0 = 1 ↔ xs[i]? = some 1 := by
  rw [List.getD_eq_getElem?_getD]
  cases xs[i]? with
  | none => decide
  | some b => exact Option.some_inj.symm

namespace Surroundings

variable (v : Surroundings)

/-- The judges look at the effective areas of the map. -/
theorem circle_effective_iff (i : ℕ) :
    (v.circle i).effectiveFlag = 1 ↔
      area v.device .circle (i + 1) ≠ none := by
  have hflag : (v.circle i).effectiveFlag =
      (apiRecordNumRead v.device .railCycle (i + 1) Shape.circle.size).getD 24 0 := rfl
  rw [hflag, getD_eq_one_iff, area, effectiveArea, ite_ne_right_iff]
  exact (and_iff_left (Option.some_ne_none _)).symm

theorem rectangle_effective_iff (i : ℕ) :
    (v.rectangle i).effectiveFlag = 1 ↔
      area v.device .rectangle (i + 1) ≠ none := by
  have hflag : (v.rectangle i).effectiveFlag =
      (apiRecordNumRead v.device .railRect (i + 1) Shape.rectangle.size).getD 28 0 := rfl
  rw [hflag, getD_eq_one_iff, area, effectiveArea, ite_ne_right_iff]
  exact (and_iff_left (Option.some_ne_none _)).symm

end Surroundings

/-- A rectangle from 39.9 to 40 degrees north and 116.3 to 116.4 degrees east, with
an alarm inside, in 2014. -/
def yard : List UInt8 :=
  leBytes 4 1 ++ leBytes 2 9 ++ [0, 0] ++ leBytes 4 40000000 ++
    leBytes 4 116300000 ++ leBytes 4 39900000 ++ leBytes 4 116400000 ++
    leBytes 2 80 ++ [10, 0, 1] ++ [0x14, 0x01, 0x01, 0x00, 0x00, 0x00] ++
    [0x14, 0x12, 0x31, 0x23, 0x59, 0x59] ++ [0, 0, 0]

/-- The flash with the rectangle. -/
def yardDevice : Device := apiRecordNumWrite .initial .railRect 1 yard

theorem area_yardDevice (shape : Shape) {id : ℕ} (hid : id ≤ 8) :
    area yardDevice shape id =
      if shape = .rectangle ∧ id = 1 then some yard else none := by
  rw [yardDevice, ← Shape.record, area_write .initial .rectangle hid
    (by decide) (by decide), area_initial shape hid]
  rfl

/-- In the rectangle, in June 2015. -/
def afterYard : Standing where
  device := yardDevice
  timeNow := { year := 15, month := 6, day := 1, hour := 12, min := 0, sec := 0 }
  gpsSpeed := 0
  speedGps := 0
  latiStr := fun i => (beBytes4 39950000).getD i 0
  longiStr := fun i => (beBytes4 116350000).getD i 0
  speed_zero := rfl
  maxSpd_pos := by
    intro i hi heff
    rw [Surroundings.circle_effective_iff, area_yardDevice .circle hi] at heff
    exact absurd rfl heff

/-- The alarm is raised, though no area is active. -/
theorem afterYard_not_alarmsRight : ¬ afterYard.AlarmsRight := by
  intro h
  have hyard : afterYard.rectangle 0 = rectangleArea yard :=
    congrArg rectangleArea (apiRecordNumRead_write .initial (by decide)
      (by decide))
  have hfound : afterYard.RectangleFound 0 := by
    rw [Surroundings.RectangleFound, hyard]
    exact ⟨by decide, .inl ⟨by decide, by decide, by decide, by decide,
      by decide⟩⟩
  have hraised := ((h {}).2.mp ((Surroundings.raised_rectangleRailJudge _ _).mpr
    (.inr ⟨0, by decide, hfound⟩))).resolve_left (not_not.mpr (by decide))
  obtain ⟨i, hi, heff, hactive, -⟩ := hraised
  have harea : area afterYard.device .rectangle (i + 1) = _ :=
    area_yardDevice .rectangle hi
  rw [Surroundings.rectangle_effective_iff, harea] at heff
  have hzero : i = 0 := by
    by_contra hne
    exact heff (if_neg fun h => hne (Nat.succ.inj h.2))
  rw [hzero, hyard] at hactive
  rcases hactive with hbit | hwindow
  · exact absurd hbit (by decide)
  · exact absurd hwindow (by decide)

end VehicleRecorder.Protocol
