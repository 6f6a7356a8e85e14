import Mathlib.Algebra.Order.BigOperators.Group.List
import Mathlib.Logic.Function.Basic
import VehicleRecorder.Gps.GpsState
import VehicleRecorder.Lib.Runs
import VehicleRecorder.Lib.TrailingRun

/-!
# The calibration of the pulse counter

`K_AdjustUseGPS` counts the seconds at a steady speed, keeps the speed and the
pulses of each, and computes the pulses of a kilometre when there are enough.
The counter is raised before it is used as the index, so that the samples lie in
the elements from 1 on and the twentieth behind the arrays.
-/

namespace VehicleRecorder.Gps

open Driving Runs TrailingRun

/-! ## The function -/

/-- The test on `Speed_Rec`. -/
def inBand (speedArea speedRec : UInt8) : Bool :=
  decide (speedArea.toNat ≤ speedRec.toNat ∧
    speedRec.toNat ≤ speedArea.toNat + 8) ||
  decide (40 ≤ speedRec.toNat ∧ speedRec.toNat ≤ 40 + 8) ||
  decide (70 ≤ speedRec.toNat ∧ speedRec.toNat ≤ 70 + 8)

/-- The pulses of a kilometre from the pulses and the speeds of some seconds.
The sums of twenty seconds are too small to wrap around. -/
def characterValue (regPlusNum regDistance : ℕ) : ℕ :=
  1000 * regPlusNum / (regDistance * 10 / 36)

namespace KAdjust

/-- `Reg_distance` after the loop. -/
def regDistance (k : KAdjust) : ℕ :=
  ((List.range kAdjustDuration).map fun i => (k.formerGpsSpd i).toNat).sum

/-- `Reg_plusNum` after the loop. -/
def regPlusNum (k : KAdjust) : ℕ :=
  ((List.range kAdjustDuration).map fun i => (k.formerDeltaPlus i).toNat).sum

/-- What the loop over the samples reads. -/
def sumUp (k : KAdjust) : KAdjust :=
  { k with
    accesses := k.accesses ++ (List.range kAdjustDuration).flatMap fun i =>
      [.formerGpsSpd i, .formerDeltaPlus i] }

/-- The sample of this second is kept under the index of the counter. -/
def recordSample (k : KAdjust) : KAdjust :=
  let i := k.spdAdjustCounter.toNat
  { k with
    formerGpsSpd := Function.update k.formerGpsSpd i k.speedRec
    formerDeltaPlus := Function.update k.formerDeltaPlus i k.delta1sPlus
    accesses := k.accesses ++ [.formerGpsSpd i, .formerDeltaPlus i] }

end KAdjust

namespace GpsState

/-- The computation of `K_AdjustUseGPS`, which a sensor without pulses ends. -/
def calibrate (s : GpsState) (k : KAdjust) : GpsState :=
  if k.regPlusNum < 20 then
    { s with kAdjust := { k.sumUp with spdAdjustCounter := 0 } }
  else
    { s with
      moduleStatus := s.moduleStatus ||| 0x08
      drive.jt808Saves := s.drive.jt808Saves + 1
      kAdjust :=
        { k.sumUp with
          divisors := k.divisors ++ [k.regDistance * 10 / 36]
          vechCharacterValue := characterValue k.regPlusNum k.regDistance
          dfKAdjustState := 1
          spdAdjustCounter := 0 } }

/-- `K_AdjustUseGPS`; its first argument is not used. -/
def kAdjustUseGps (s : GpsState) (spDisp : ℕ) : GpsState :=
  if s.kAdjust.dfKAdjustState ≠ 0 then s
  else
    let k := { s.kAdjust with speedRec := UInt8.ofNat (spDisp / 10) }
    if inBand k.speedArea k.speedRec then
      let k := { k with spdAdjustCounter := k.spdAdjustCounter + 1 }
      if kAdjustDuration < k.spdAdjustCounter.toNat then s.calibrate k
      else { s with kAdjust := k.recordSample }
    else { s with kAdjust := { k with spdAdjustCounter := 0 } }

end GpsState

/-! ## Sequences of samples -/

/-- An element inside its array. -/
def Access.InBounds : Access → Prop
  | formerGpsSpd i => i < kAdjustDuration
  | formerDeltaPlus i => i < kAdjustDuration

instance : (a : Access) → Decidable a.InBounds
  | .formerGpsSpd i => Nat.decLt i kAdjustDuration
  | .formerDeltaPlus i => Nat.decLt i kAdjustDuration

/-- The speed of a second, `sp_DISP`, and the pulses counted in it. -/
structure Sample where
  spDisp : UInt32
  pulses : UInt16
  deriving DecidableEq, Repr

namespace Sample

/-- The speed in km/h. -/
def speed (x : Sample) : UInt8 := UInt8.ofNat (x.spDisp.toNat / 10)

/-- A second whose speed lies in a band. -/
def steady (area : UInt8) (x : Sample) : Bool := inBand area x.speed

/-- The value that some samples give. -/
def value (window : List Sample) : ℕ :=
  characterValue (window.map fun x => x.pulses.toNat).sum
    (window.map fun x => x.speed.toNat).sum

end Sample

namespace GpsState

/-- A call of `K_AdjustUseGPS` with a sample. -/
def sample (s : GpsState) (x : Sample) : GpsState :=
  { s with kAdjust.delta1sPlus := x.pulses }.kAdjustUseGps x.spDisp.toNat

section Steps

variable {s : GpsState} {x : Sample}

theorem sample_of_calibrated (h : s.kAdjust.dfKAdjustState ≠ 0) :
    (s.sample x).kAdjust = { s.kAdjust with delta1sPlus := x.pulses } := by
  rw [sample, kAdjustUseGps, if_pos h]

theorem sample_of_outOfBand (h : s.kAdjust.dfKAdjustState = 0)
    (hband : x.steady s.kAdjust.speedArea = false) :
    (s.sample x).kAdjust =
      { s.kAdjust with
        delta1sPlus := x.pulses
        speedRec := x.speed
        spdAdjustCounter := 0 } := by
  have hclosed : ¬ x.steady s.kAdjust.speedArea = true := by
    rw [hband]
    exact Bool.false_ne_true
  rw [sample, kAdjustUseGps, if_neg (not_not_intro h)]
  exact congrArg kAdjust (if_neg hclosed)

theorem sample_of_recorded (h : s.kAdjust.dfKAdjustState = 0)
    (hband : x.steady s.kAdjust.speedArea = true)
    (hcounter : (s.kAdjust.spdAdjustCounter + 1).toNat ≤ kAdjustDuration) :
    (s.sample x).kAdjust =
      { s.kAdjust with
        delta1sPlus := x.pulses
        speedRec := x.speed
        spdAdjustCounter := s.kAdjust.spdAdjustCounter + 1 }.recordSample := by
  rw [sample, kAdjustUseGps, if_neg (not_not_intro h)]
  dsimp only
  exact (congrArg kAdjust (if_pos hband)).trans
    (congrArg kAdjust (if_neg (Nat.not_lt.mpr hcounter)))

theorem sample_of_full (h : s.kAdjust.dfKAdjustState = 0)
    (hband : x.steady s.kAdjust.speedArea = true)
    (hfull : kAdjustDuration < (s.kAdjust.spdAdjustCounter + 1).toNat) :
    s.sample x = { s with kAdjust.delta1sPlus := x.pulses }.calibrate
      { s.kAdjust with
        delta1sPlus := x.pulses
        speedRec := x.speed
        spdAdjustCounter := s.kAdjust.spdAdjustCounter + 1 } := by
  rw [sample, kAdjustUseGps, if_neg (not_not_intro h)]
  exact (if_pos hband).trans (if_pos hfull)

theorem counter_succ (h : s.kAdjust.spdAdjustCounter.toNat ≤ kAdjustDuration) :
    (s.kAdjust.spdAdjustCounter + 1).toNat =
      s.kAdjust.spdAdjustCounter.toNat + 1 := by
  rw [UInt16.toNat_add]
  exact Nat.mod_eq_of_lt (lt_of_le_of_lt (Nat.succ_le_succ h) (by decide))

theorem calibrate_accesses (k : KAdjust) :
    (s.calibrate k).kAdjust.accesses = k.sumUp.accesses := by
  unfold calibrate
  split <;> rfl

/-- The accesses so far stay in the list. -/
theorem accesses_prefix_sample :
    s.kAdjust.accesses <+: (s.sample x).kAdjust.accesses := by
  by_cases h : s.kAdjust.dfKAdjustState = 0
  · cases hband : x.steady s.kAdjust.speedArea with
    | false => rw [sample_of_outOfBand h hband]
    | true =>
        rcases Nat.lt_or_ge kAdjustDuration
          (s.kAdjust.spdAdjustCounter + 1).toNat with hfull | hcounter
        · rw [sample_of_full h hband hfull, calibrate_accesses]
          exact List.prefix_append _ _
        · rw [sample_of_recorded h hband hcounter]
          exact List.prefix_append _ _
  · rw [sample_of_calibrated h]

end Steps

/-- The steady seconds that a state before calibration has counted, none of
which lies outside the arrays. -/
structure Counting (area : UInt8) (ys : List Sample) (s : GpsState) : Prop where
  uncalibrated : s.kAdjust.dfKAdjustState = 0
  speedArea : s.kAdjust.speedArea = area
  counter : s.kAdjust.spdAdjustCounter.toNat =
    (ys.rtakeWhile (Sample.steady area)).length
  short : s.kAdjust.spdAdjustCounter.toNat < kAdjustDuration
  inBounds : ∀ a ∈ s.kAdjust.accesses, a.InBounds
  divisors : s.kAdjust.divisors = []

section Runs

variable {area : UInt8} {ys : List Sample} {s : GpsState} {x : Sample}

/-- A sample that leaves the run of steady seconds short is counted. -/
theorem Counting.sample (h : Counting area ys s)
    (hshort : ((ys ++ [x]).rtakeWhile (Sample.steady area)).length <
      kAdjustDuration) :
    Counting area (ys ++ [x]) (s.sample x) := by
  have hlen := length_concat (p := Sample.steady area) ys x
  cases hband : x.steady area with
  | false =>
      rw [hband, if_neg Bool.false_ne_true] at hlen
      rw [← h.speedArea] at hband
      have heq := sample_of_outOfBand h.uncalibrated hband
      refine ⟨?_, ?_, ?_, ?_, ?_, ?_⟩ <;> rw [heq]
      · exact h.uncalibrated
      · exact h.speedArea
      · exact hlen.symm
      · exact (by decide : 0 < kAdjustDuration)
      · exact h.inBounds
      · exact h.divisors
  | true =>
      rw [hband, if_pos rfl, ← h.counter] at hlen
      rw [← h.speedArea] at hband
      have hsucc := counter_succ h.short.le
      rw [hlen, ← hsucc] at hshort
      have heq := sample_of_recorded h.uncalibrated hband hshort.le
      refine ⟨?_, ?_, ?_, ?_, ?_, ?_⟩ <;> rw [heq]
      · exact h.uncalibrated
      · exact h.speedArea
      · exact hsucc.trans hlen.symm
      · exact hshort
      · intro a ha
        rcases List.mem_append.mp ha with hold | hnew
        · exact h.inBounds a hold
        · rcases List.mem_pair.mp hnew with rfl | rfl
          · exact hshort
          · exact hshort
      · exact h.divisors

/-- The sample that completes twenty steady seconds goes behind the arrays. -/
theorem Counting.overrun (h : Counting area ys s)
    (hlong : kAdjustDuration ≤
      ((ys ++ [x]).rtakeWhile (Sample.steady area)).length) :
    .formerGpsSpd kAdjustDuration ∈ (s.sample x).kAdjust.accesses := by
  have hlen := length_concat (p := Sample.steady area) ys x
  cases hband : x.steady area with
  | false =>
      rw [hlen, hband, if_neg Bool.false_ne_true] at hlong
      exact absurd hlong (by decide)
  | true =>
      rw [hlen, hband, if_pos rfl, ← h.counter,
        ← counter_succ h.short.le] at hlong
      rw [← h.speedArea] at hband
      have hfull : (s.kAdjust.spdAdjustCounter + 1).toNat = kAdjustDuration :=
        Nat.le_antisymm ((counter_succ h.short.le).trans_le h.short) hlong
      rw [sample_of_recorded h.uncalibrated hband hfull.le]
      refine List.mem_append_right _ ?_
      rw [show (s.kAdjust.spdAdjustCounter + 1).toNat = kAdjustDuration
        from hfull]
      exact List.mem_cons_self

/-- As long as the runs of steady seconds are short they are counted. -/
theorem Counting.run (hstart : Counting area [] s) (xs : List Sample)
    (hshort : ∀ ys, ys <+: xs →
      (ys.rtakeWhile (Sample.steady area)).length < kAdjustDuration) :
    Counting area xs (xs.foldl GpsState.sample s) := by
  induction xs using List.reverseRecOn with
  | nil => exact hstart
  | append_singleton xs x ih =>
      rw [List.foldl_append]
      refine (ih fun ys hys => ?_).sample (hshort _ List.prefix_rfl)
      exact hshort ys (hys.trans (List.prefix_append xs [x]))

/-- In a run without an access outside the arrays the runs of steady seconds are
short. -/
theorem short_of_inBounds (hstart : Counting area [] s) (xs : List Sample)
    (hin : ∀ a ∈ (xs.foldl GpsState.sample s).kAdjust.accesses, a.InBounds) :
    ∀ ys, ys <+: xs →
      (ys.rtakeWhile (Sample.steady area)).length <
        kAdjustDuration := by
  induction xs using List.reverseRecOn with
  | nil =>
      intro ys hys
      rw [List.prefix_nil.mp hys, List.rtakeWhile_nil]
      exact (by decide : 0 < kAdjustDuration)
  | append_singleton xs x ih =>
      rw [List.foldl_append, List.foldl_cons, List.foldl_nil] at hin
      have hbefore := ih fun a ha => hin a (accesses_prefix_sample.subset ha)
      intro ys hys
      rcases List.prefix_concat_iff.mp hys with rfl | hlt
      · by_contra hlong
        have hover := (hstart.run xs hbefore).overrun (Nat.not_lt.mp hlong)
        exact absurd (hin _ hover) (lt_irrefl kAdjustDuration)
      · exact hbefore ys hlt

end Runs

/-- The elements counted so far hold speeds of at least 40 km/h. -/
structure FastKept (s : GpsState) : Prop where
  speedArea : s.kAdjust.speedArea = 60
  counter_le : s.kAdjust.spdAdjustCounter.toNat ≤ kAdjustDuration
  kept : ∀ i, 1 ≤ i → i ≤ s.kAdjust.spdAdjustCounter.toNat →
    40 ≤ (s.kAdjust.formerGpsSpd i).toNat
  divisors : ∀ d ∈ s.kAdjust.divisors, d ≠ 0

theorem fast_of_inBand {speed : UInt8} (h : inBand 60 speed = true) :
    40 ≤ speed.toNat := by
  simp only [inBand, Bool.or_eq_true, decide_eq_true_eq] at h
  rcases h with (⟨hlow, -⟩ | ⟨hlow, -⟩) | ⟨hlow, -⟩
  · exact le_trans (by decide) hlow
  · exact hlow
  · exact le_trans (by decide) hlow

/-- One fast element among the twenty is enough for the divisor. -/
theorem regDistance_ne_zero {k : KAdjust} (h : 40 ≤ (k.formerGpsSpd 1).toNat) :
    k.regDistance * 10 / 36 ≠ 0 := by
  have hmem : (k.formerGpsSpd 1).toNat ∈
      (List.range kAdjustDuration).map fun i => (k.formerGpsSpd i).toNat :=
    List.mem_map.mpr ⟨1, List.mem_range.mpr (by decide), rfl⟩
  have hsum : 40 ≤ k.regDistance := h.trans (List.le_sum_of_mem hmem)
  omega

theorem FastKept.calibrate {s : GpsState} {k : KAdjust} (h : s.FastKept)
    (harea : k.speedArea = 60) (hfirst : 40 ≤ (k.formerGpsSpd 1).toNat)
    (hdivisors : k.divisors = s.kAdjust.divisors) : (s.calibrate k).FastKept := by
  have hempty : ∀ i, 1 ≤ i → i ≤ (0 : UInt16).toNat →
      40 ≤ (k.formerGpsSpd i).toNat :=
    fun i hpos hle => absurd (hpos.trans hle) (by decide)
  unfold GpsState.calibrate
  by_cases hplus : k.regPlusNum < 20
  · rw [if_pos hplus]
    exact ⟨harea, Nat.zero_le kAdjustDuration, hempty,
      fun d hd => h.divisors d (hdivisors ▸ hd)⟩
  · rw [if_neg hplus]
    refine ⟨harea, Nat.zero_le kAdjustDuration, hempty, ?_⟩
    intro d hd
    rcases List.mem_append.mp hd with hold | hnew
    · exact h.divisors d (hdivisors ▸ hold)
    · rw [List.mem_singleton.mp hnew]
      exact regDistance_ne_zero hfirst

theorem FastKept.sample {s : GpsState} (h : s.FastKept) (x : Sample) :
    (s.sample x).FastKept := by
  by_cases hstate : s.kAdjust.dfKAdjustState = 0
  · cases hband : x.steady s.kAdjust.speedArea with
    | false =>
        refine ⟨?_, ?_, ?_, ?_⟩ <;> rw [sample_of_outOfBand hstate hband]
        · exact h.speedArea
        · exact Nat.zero_le kAdjustDuration
        · exact fun i hpos hle =>
            absurd (hpos.trans hle) (by decide : ¬ 1 ≤ (0 : UInt16).toNat)
        · exact h.divisors
    | true =>
        have hsucc := counter_succ h.counter_le
        rcases Nat.lt_or_ge kAdjustDuration
          (s.kAdjust.spdAdjustCounter + 1).toNat with hfull | hcounter
        · have hcount : kAdjustDuration ≤ s.kAdjust.spdAdjustCounter.toNat := by
            rw [hsucc] at hfull
            exact Nat.lt_succ_iff.mp hfull
          have hfirst := h.kept 1 le_rfl
            ((by decide : 1 ≤ kAdjustDuration).trans hcount)
          rw [sample_of_full hstate hband hfull]
          exact FastKept.calibrate
            ⟨h.speedArea, h.counter_le, h.kept, h.divisors⟩ h.speedArea hfirst
            rfl
        · have hspeed : 40 ≤ x.speed.toNat :=
            fast_of_inBand (h.speedArea ▸ hband)
          refine ⟨?_, ?_, ?_, ?_⟩ <;>
            rw [sample_of_recorded hstate hband hcounter]
          · exact h.speedArea
          · exact hcounter
          · intro i hpos hle
            change i ≤ (s.kAdjust.spdAdjustCounter + 1).toNat at hle
            change 40 ≤ (Function.update s.kAdjust.formerGpsSpd
              (s.kAdjust.spdAdjustCounter + 1).toNat x.speed i).toNat
            by_cases hlast : i = (s.kAdjust.spdAdjustCounter + 1).toNat
            · rw [hlast, Function.update_self]
              exact hspeed
            · rw [Function.update_of_ne hlast]
              exact h.kept i hpos (by omega)
          · exact h.divisors
  · refine ⟨?_, ?_, ?_, ?_⟩ <;> rw [sample_of_calibrated hstate]
    · exact h.speedArea
    · exact h.counter_le
    · exact h.kept
    · exact h.divisors

/-- No run from the initial state divides by zero. -/
theorem FastKept.run {s : GpsState} (h : s.FastKept) (xs : List Sample) :
    (xs.foldl GpsState.sample s).FastKept := by
  induction xs generalizing s with
  | nil => exact h
  | cons x xs ih => exact ih (h.sample x)

/-- What is asked of a calibration: no access outside the arrays, no division by
zero, and a result that comes from the last `K_adjust_Duration` consecutive
seconds inside a band. -/
structure CalibratesSoundly (s : GpsState) (xs : List Sample) : Prop where
  inBounds : ∀ a ∈ (xs.foldl sample s).kAdjust.accesses, a.InBounds
  divisors : ∀ d ∈ (xs.foldl sample s).kAdjust.divisors, d ≠ 0
  window : ∀ ys x, ys ++ [x] <+: xs →
    (ys.foldl sample s).kAdjust.dfKAdjustState = 0 →
    ((ys ++ [x]).foldl sample s).kAdjust.dfKAdjustState ≠ 0 →
    ∃ w, w <:+ ys ++ [x] ∧ w.length = kAdjustDuration ∧
      (∀ y ∈ w, y.steady s.kAdjust.speedArea) ∧
      ((ys ++ [x]).foldl sample s).kAdjust.vechCharacterValue = Sample.value w

theorem run_of_calibrated (xs : List Sample) {s : GpsState}
    (h : s.kAdjust.dfKAdjustState ≠ 0) :
    (xs.foldl sample s).kAdjust.dfKAdjustState ≠ 0 ∧
      (xs.foldl sample s).kAdjust.accesses = s.kAdjust.accesses ∧
      (xs.foldl sample s).kAdjust.divisors = s.kAdjust.divisors := by
  induction xs using List.reverseRecOn with
  | nil => exact ⟨h, rfl, rfl⟩
  | append_singleton xs x ih =>
      obtain ⟨hstate, haccesses, hdivisors⟩ := ih
      rw [List.foldl_append, List.foldl_cons, List.foldl_nil,
        sample_of_calibrated hstate]
      exact ⟨hstate, haccesses, hdivisors⟩

/-- The calibration is sound exactly when it is never reached: the unit is
calibrated already, or there are no twenty consecutive seconds inside a band. -/
theorem calibratesSoundly_iff (s : GpsState) (xs : List Sample)
    (hcounter : s.kAdjust.spdAdjustCounter = 0)
    (haccesses : s.kAdjust.accesses = []) (hdivisors : s.kAdjust.divisors = []) :
    CalibratesSoundly s xs ↔
      s.kAdjust.dfKAdjustState ≠ 0 ∨
        ∀ w, w <:+: xs → (∀ x ∈ w, x.steady s.kAdjust.speedArea) →
          w.length < kAdjustDuration := by
  by_cases hstate : s.kAdjust.dfKAdjustState = 0
  · have hstart : Counting s.kAdjust.speedArea [] s := by
      refine ⟨hstate, rfl, ?_, ?_, ?_, hdivisors⟩
      · rw [hcounter]
        rfl
      · rw [hcounter]
        decide
      · rw [haccesses]
        exact fun a ha => absurd ha List.not_mem_nil
    rw [or_iff_right (not_not_intro hstate),
      forall_infix_length_lt_iff]
    constructor
    · exact fun h => short_of_inBounds hstart xs h.inBounds
    · intro hshort
      have hrun := hstart.run xs hshort
      refine ⟨hrun.inBounds, ?_, ?_⟩
      · rw [hrun.divisors]
        exact fun d hd => absurd hd List.not_mem_nil
      · intro ys x hpre _ hdone
        have hthere := hstart.run (ys ++ [x]) fun zs hzs =>
          hshort zs (hzs.trans hpre)
        exact absurd hthere.uncalibrated hdone
  · refine iff_of_true ?_ (Or.inl hstate)
    obtain ⟨-, hno, hnone⟩ := run_of_calibrated xs hstate
    refine ⟨?_, ?_, ?_⟩
    · rw [hno, haccesses]
      exact fun a ha => absurd ha List.not_mem_nil
    · rw [hnone, hdivisors]
      exact fun d hd => absurd hd List.not_mem_nil
    · intro ys x _ hopen
      exact absurd hopen (run_of_calibrated ys hstate).1

/-- Nineteen steady seconds, a slow one, and a steady one again. -/
theorem calibratesSoundly_iff_interrupted :
    CalibratesSoundly {} (List.replicate 19 ⟨600, 50⟩ ++ [⟨0, 0⟩, ⟨600, 50⟩]) :=
  (calibratesSoundly_iff {} _ rfl rfl rfl).mpr <| Or.inr <|
    (forall_infix_length_lt_iff _ _).mpr fun ys hys =>
      (List.forall_mem_map.mp (by decide :
        ∀ n ∈ (List.inits
          (List.replicate 19 (⟨600, 50⟩ : Sample) ++
            [⟨0, 0⟩, ⟨600, 50⟩])).map fun ys =>
              (ys.rtakeWhile (Sample.steady 60)).length,
          n < kAdjustDuration)) ys ((List.mem_inits _ _).mpr hys)

/-- Twenty seconds at 60 km/h. -/
theorem twentySteady_not_sound :
    ¬ CalibratesSoundly {} (List.replicate 20 ⟨600, 50⟩) := by
  intro h
  exact absurd (h.inBounds (.formerGpsSpd 20) (by decide)) (by decide)

end GpsState

end VehicleRecorder.Gps
