import Mathlib.Logic.Function.Basic
import VehicleRecorder.Driving.SaveProcess

/-!
# The average speeds of an hour

`AvrgSpd_MintProcess` sums up the speeds of the seconds with a fix and on the
full minute stores the average under the minute of the last fix.  A minute
without a fix thus clears the average of the last minute that had one.
-/

namespace VehicleRecorder.Driving

open Bytes Dataflash

/-! ## The process -/

/-- No date is noted for the hour. -/
def AvrgMintSpeed.NoDate (a : AvrgMintSpeed) : Prop :=
  a.datetimeBak.year = 0 ∧ a.datetimeBak.month = 0 ∧ a.datetimeBak.day = 0

instance (a : AvrgMintSpeed) : Decidable a.NoDate :=
  inferInstanceAs (Decidable (_ ∧ _))

/-- The first part: the date of the hour, and on the hour the request to save
and the index. -/
def mintDate (a : AvrgMintSpeed) (timeNow : TDateTime) (time1 min sec : ℕ) :
    AvrgMintSpeed :=
  if a.saveFlag = 0 ∧ a.NoDate then
    { a with
      datetime := time2BCD timeNow
      datetimeBak := time2BCD timeNow
      avgspdMintWr := time1 }
  else if min = 0 then
    let a : AvrgMintSpeed :=
      if sec = 5 then
        { a with
          datetimeBak := { a.datetime with min := 0, sec := 0 }
          saveFlag := 1
          datetime := time2BCD timeNow }
      else a
    if sec = 8 then { a with avgspdMintWr := 0 } else a
  else a

/-- The second part: a full minute, or one more second. -/
def mintSum (a : AvrgMintSpeed) (udpDataPacketFlag : UInt8)
    (gpsSpeed time1 sec : ℕ) : AvrgMintSpeed :=
  if sec = 0 then
    { a with
      avrgspd := Function.update a.avrgspd a.avgspdMintWr
        (if a.aspdCounter ≠ 0 then
          UInt8.ofNat (a.perMinSpdTotal / a.aspdCounter)
        else 0)
      perMinSpdTotal := 0
      aspdCounter := 0 }
  else if udpDataPacketFlag = 2 then
    { a with
      avgspdMintWr := time1
      aspdCounter := (a.aspdCounter + 1) % 256
      perMinSpdTotal := (a.perMinSpdTotal + gpsSpeed / 10) % 4294967296 }
  else a

/-- `AvrgSpd_MintProcess`; it does not look at the hour. -/
def avrgSpdMintProcess (s : DriveState) (udpDataPacketFlag : UInt8)
    (time1 min sec : ℕ) : DriveState :=
  { s with
    avrg := mintSum (mintDate s.avrg s.timeNow time1 min sec)
      udpDataPacketFlag s.gpsSpeed time1 sec }

/-! ## An hour -/

/-- A second: the clock, whether there is a fix, and `GPS_speed`. -/
structure AvrgSecond where
  timeNow : TDateTime
  udpDataPacketFlag : UInt8
  gpsSpeed : UInt16
  deriving DecidableEq, Repr

/-- The seconds of an hour from the first on, and the calls of the save after
each, with the over-speed data they meet. -/
structure HourInput where
  second : ℕ → AvrgSecond
  saves : ℕ → List (SaveCall × SpdExp)

/-- One call of the save. -/
def saveTurn (s : DriveState) (c : SaveCall × SpdExp) : DriveState :=
  jt808RelatedSaveProcess { c.1.prepare s with speedExd := c.2 } c.1.rtc

/-- The call for second `t` of the hour, with `Temp_Gps_Gprs.Time[1]` the
minute. -/
def secondTurn (inp : HourInput) (s : DriveState) (t : ℕ) : DriveState :=
  let x := inp.second t
  avrgSpdMintProcess { s with
      timeNow := x.timeNow
      gpsSpeed := x.gpsSpeed.toNat }
    x.udpDataPacketFlag (t / 60 % 60) (t / 60 % 60) (t % 60)

/-- The state after the first `t` seconds and the saves that follow them. -/
def hourRun (inp : HourInput) (s : DriveState) : ℕ → DriveState
  | 0 => s
  | t + 1 =>
      (inp.saves (t + 1)).foldl saveTurn
        (secondTurn inp (hourRun inp s t) (t + 1))

/-- A save that is not held back comes after one of the seconds. -/
def SavedWithin (inp : HourInput) (a b : ℕ) : Prop :=
  ∃ t, a ≤ t ∧ t < b ∧ ∃ c ∈ inp.saves t, c.1.gates.Free

/-! ## The averages -/

/-- The speeds in km/h of the first `n` seconds of minute `m` that have a
fix. -/
def speeds (inp : HourInput) (m n : ℕ) : List ℕ :=
  (List.range n).filterMap fun i =>
    let x := inp.second (60 * m + (i + 1))
    if x.udpDataPacketFlag = 2 then some (x.gpsSpeed.toNat / 10) else none

/-- Minute `m` has a second with a fix. -/
def HasFix (inp : HourInput) (m : ℕ) : Prop := speeds inp m 59 ≠ []

instance (inp : HourInput) (m : ℕ) : Decidable (HasFix inp m) :=
  inferInstanceAs (Decidable (_ ≠ _))

/-- The average speed of minute `m`, 0 without a fix. -/
def average (inp : HourInput) (m : ℕ) : ℕ :=
  (speeds inp m 59).sum / (speeds inp m 59).length

/-- The last record of the average speeds holds those of the hour. -/
def RecordsAverages (inp : HourInput) (s : DriveState) : Prop :=
  ∃ r, (s.records .spdpermin).getLast? = some r ∧
    ∀ m < 60, (r.getD (5 + m) 0).toNat = average inp m

section Speeds

variable (inp : HourInput) (m n : ℕ)

theorem speeds_succ :
    speeds inp m (n + 1) = speeds inp m n ++
      if (inp.second (60 * m + (n + 1))).udpDataPacketFlag = 2 then
        [(inp.second (60 * m + (n + 1))).gpsSpeed.toNat / 10]
      else [] := by
  rw [speeds, List.range_succ, List.filterMap_append, ← speeds]
  congr 1
  by_cases h : (inp.second (60 * m + (n + 1))).udpDataPacketFlag = 2
  · simp [h]
  · simp [h]

theorem speeds_length_le : (speeds inp m n).length ≤ n := by
  induction n with
  | zero => exact Nat.le_refl 0
  | succ n ih =>
      rw [speeds_succ, List.length_append]
      split
      · exact Nat.succ_le_succ ih
      · exact Nat.le_succ_of_le ih

theorem speeds_sum_le : (speeds inp m n).sum ≤ 6553 * n := by
  induction n with
  | zero => exact Nat.le_refl 0
  | succ n ih =>
      rw [speeds_succ, List.sum_append]
      have hspeed := (inp.second (60 * m + (n + 1))).gpsSpeed.toNat_lt
      split
      · rw [List.sum_singleton]
        omega
      · rw [List.sum_nil]
        omega

theorem average_of_not_hasFix (h : ¬ HasFix inp m) : average inp m = 0 := by
  rw [HasFix, not_not] at h
  rw [average, h]
  rfl

end Speeds

/-! ## What a save does -/

section Save

variable (s : DriveState) (rtc : TDateTime)

/-- The save of the average speeds clears them and the request. -/
theorem save_avrg (hfree : s.gates.Free) (hflag : s.avrg.saveFlag = 1) :
    (jt808RelatedSaveProcess s rtc).avrg =
        { s.avrg with
          avrgspd := fun _ => 0
          saveFlag := 0 } ∧
      (jt808RelatedSaveProcess s rtc).records .spdpermin =
        s.records .spdpermin ++ [avrgSpdContent s.avrg] := by
  obtain ⟨hlock, hcmd, hdoubt⟩ := hfree
  have hwritten := saveAvrgSpdPerMin_written s
  have havrg : (saveAvrgSpdPerMin s).avrg =
      { s.avrg with avrgspd := fun _ => 0 } := by
    simp only [saveAvrgSpdPerMin, DriveState.directoryWrite]
  rw [jt808RelatedSaveProcess, if_neg (not_not.mpr hlock), if_neg hcmd,
    if_neg hdoubt, if_pos hflag]
  generalize saveAvrgSpdPerMin s = s' at hwritten havrg
  refine ⟨?_, records_of_written hwritten .spdpermin⟩
  dsimp only
  rw [havrg]

/-- The average speeds and their records are left. -/
structure LeavesAvrg (s s' : DriveState) : Prop where
  avrg : s'.avrg = s.avrg
  records : s'.records .spdpermin = s.records .spdpermin

theorem LeavesAvrg.of_written {s s' : DriveState} {name : DirectoryName}
    {content : List UInt8}
    (hwritten : s'.written = s.written ++ [(name, content)])
    (hname : name ≠ .spdpermin) (havrg : s'.avrg = s.avrg) : LeavesAvrg s s' :=
  ⟨havrg, records_of_written_of_ne hwritten hname⟩

theorem saveMileage_leavesAvrg : LeavesAvrg s (saveMileage s) := by
  rw [saveMileage]
  split <;> exact ⟨rfl, rfl⟩

theorem saveStatus_leavesAvrg : LeavesAvrg s (saveStatus s) := by
  obtain ⟨content, hwritten⟩ := saveStatus_written s
  refine .of_written hwritten nofun ?_
  simp only [saveStatus, DriveState.directoryWrite]

theorem saveTiredDriveRecord_leavesAvrg :
    LeavesAvrg s (saveTiredDriveRecord s) := by
  obtain ⟨content, hwritten⟩ := saveTiredDriveRecord_written s
  refine .of_written hwritten nofun ?_
  simp only [saveTiredDriveRecord, DriveState.directoryWrite]

theorem spdExpWr_leavesAvrg : LeavesAvrg s (spdExpWr s) := by
  refine .of_written (spdExpWr_written s) nofun ?_
  simp only [spdExpWr, DriveState.directoryWrite]

/-- Any other call leaves them. -/
theorem save_other (h : ¬ (s.gates.Free ∧ s.avrg.saveFlag = 1)) :
    LeavesAvrg s (jt808RelatedSaveProcess s rtc) := by
  have hsaves := jt808RelatedSaveProcess_saves s rtc
  generalize jt808RelatedSaveProcess s rtc = s' at hsaves ⊢
  cases hsaves with
  | locked => exact ⟨rfl, rfl⟩
  | mileage => exact saveMileage_leavesAvrg s
  | doubt =>
      have hdoubt := saveStatus_leavesAvrg { s with timeNow := rtc }
      generalize saveStatus { s with timeNow := rtc } = t at hdoubt ⊢
      exact ⟨hdoubt.avrg, hdoubt.records⟩
  | avrg hfree hflag => exact absurd ⟨hfree, hflag⟩ h
  | tired => exact saveTiredDriveRecord_leavesAvrg s
  | speed => exact spdExpWr_leavesAvrg s

end Save

/-- The average speeds and the request cleared. -/
def AvrgMintSpeed.saved (a : AvrgMintSpeed) : AvrgMintSpeed :=
  { a with
    avrgspd := fun _ => 0
    saveFlag := 0 }

section Saves

variable {s : DriveState}

theorem LeavesAvrg.trans {s₁ s₂ s₃ : DriveState} (h : LeavesAvrg s₁ s₂)
    (h' : LeavesAvrg s₂ s₃) : LeavesAvrg s₁ s₃ :=
  ⟨h'.avrg.trans h.avrg, h'.records.trans h.records⟩

theorem saveTurn_other {c : SaveCall × SpdExp}
    (h : ¬ (c.1.gates.Free ∧ s.avrg.saveFlag = 1)) :
    LeavesAvrg s (saveTurn s c) := by
  have hleft := save_other { c.1.prepare s with speedExd := c.2 } c.1.rtc h
  exact ⟨hleft.avrg, hleft.records⟩

/-- Without a request the saves leave the average speeds alone. -/
theorem saves_idle (h : s.avrg.saveFlag ≠ 1) (cs : List (SaveCall × SpdExp)) :
    LeavesAvrg s (cs.foldl saveTurn s) := by
  induction cs generalizing s with
  | nil => exact ⟨rfl, rfl⟩
  | cons c cs ih =>
      have hfirst : LeavesAvrg s (saveTurn s c) :=
        saveTurn_other fun hsave => h hsave.2
      exact hfirst.trans (ih (by rw [hfirst.avrg]; exact h))

/-- With a request the first save that is not held back writes the record. -/
theorem saves_requested (h : s.avrg.saveFlag = 1)
    (cs : List (SaveCall × SpdExp)) :
    (LeavesAvrg s (cs.foldl saveTurn s) ∧ ∀ c ∈ cs, ¬ c.1.gates.Free) ∨
      ((cs.foldl saveTurn s).avrg = s.avrg.saved ∧
        (cs.foldl saveTurn s).records .spdpermin =
          s.records .spdpermin ++ [avrgSpdContent s.avrg]) := by
  induction cs generalizing s with
  | nil => exact Or.inl ⟨⟨rfl, rfl⟩, nofun⟩
  | cons c cs ih =>
      rw [List.foldl_cons]
      by_cases hfree : c.1.gates.Free
      · obtain ⟨havrg, hrecords⟩ := save_avrg
          { c.1.prepare s with speedExd := c.2 } c.1.rtc hfree h
        have hrest := saves_idle (s := saveTurn s c)
          (by rw [saveTurn, havrg]; exact nofun) cs
        exact Or.inr ⟨hrest.avrg.trans havrg, hrest.records.trans hrecords⟩
      · have hfirst : LeavesAvrg s (saveTurn s c) :=
          saveTurn_other fun hsave => hfree hsave.1
        rcases ih (by rw [hfirst.avrg]; exact h) with ⟨hleft, hnone⟩ | hsaved
        · refine Or.inl ⟨hfirst.trans hleft, ?_⟩
          intro c' hc'
          rcases List.mem_cons.mp hc' with rfl | hc'
          · exact hfree
          · exact hnone c' hc'
        · rw [hfirst.avrg, hfirst.records] at hsaved
          exact Or.inr hsaved

end Saves

/-! ## What a second does -/

section Process

variable {a : AvrgMintSpeed} {timeNow : TDateTime} {time1 min sec : ℕ}

theorem bcd_noDate {a : AvrgMintSpeed} {timeNow : TDateTime}
    (h : a.datetimeBak = time2BCD timeNow) : ¬ a.NoDate := by
  rintro ⟨-, hmonth, -⟩
  rw [h] at hmonth
  exact bcd_month_ne_zero timeNow hmonth

theorem mintDate_counters (a : AvrgMintSpeed) (timeNow : TDateTime)
    (time1 min sec : ℕ) :
    (mintDate a timeNow time1 min sec).aspdCounter = a.aspdCounter ∧
      (mintDate a timeNow time1 min sec).perMinSpdTotal = a.perMinSpdTotal ∧
      (mintDate a timeNow time1 min sec).avrgspd = a.avrgspd := by
  rw [mintDate]
  dsimp only
  repeat' split
  all_goals exact ⟨rfl, rfl, rfl⟩

/-- Away from the fifth and the eighth second of the hour nothing happens once
there is a date. -/
theorem mintDate_of_date (hdate : ¬ (a.saveFlag = 0 ∧ a.NoDate))
    (h : min = 0 → sec ≠ 5 ∧ sec ≠ 8) :
    mintDate a timeNow time1 min sec = a := by
  rw [mintDate, if_neg hdate]
  split
  · rename_i hmin
    rw [if_neg (h hmin).1, if_neg (h hmin).2]
  · rfl

/-- Within a minute the second part only counts. -/
theorem mintSum_of_sec (a : AvrgMintSpeed) (flag : UInt8) (gpsSpeed time1 : ℕ)
    {sec : ℕ} (hsec : sec ≠ 0) :
    (mintSum a flag gpsSpeed time1 sec).saveFlag = a.saveFlag ∧
      (mintSum a flag gpsSpeed time1 sec).datetimeBak = a.datetimeBak ∧
      (mintSum a flag gpsSpeed time1 sec).avrgspd = a.avrgspd := by
  rw [mintSum, if_neg hsec]
  split <;> exact ⟨rfl, rfl, rfl⟩

end Process

/-! ## The slots -/

section Slots

variable (inp : HourInput)

/-- The slot that a full minute is stored in: the last of the first `m` minutes
that had a fix. -/
def lastFix : ℕ → ℕ
  | 0 => 0
  | m + 1 => if HasFix inp m then m else lastFix m

/-- The slots after `m` full minutes: an average is cleared again by a minute
without a fix behind it. -/
def slot (m i : ℕ) : UInt8 :=
  if i < m ∧ (i + 1 = m ∨ HasFix inp (i + 1)) then UInt8.ofNat (average inp i)
  else 0

variable {inp}

theorem le_lastFix {m j : ℕ} (hj : j < m) (hfix : HasFix inp j) :
    j ≤ lastFix inp m := by
  induction m with
  | zero => omega
  | succ m ih =>
      rw [lastFix]
      split
      · omega
      · rename_i hnone
        have hne : j ≠ m := fun h => hnone (h ▸ hfix)
        exact ih (by omega)

theorem lastFix_lt (inp : HourInput) (m : ℕ) :
    lastFix inp m < m ∨ lastFix inp m = 0 := by
  induction m with
  | zero => exact Or.inr rfl
  | succ m ih =>
      rw [lastFix]
      split
      · omega
      · omega

/-- A slot stays as it is if the minute behind it is over, or the next one has a
fix. -/
theorem slot_succ {m i : ℕ} (hlt : i < m) (h : i + 1 = m → HasFix inp m) :
    slot inp (m + 1) i = slot inp m i := by
  have hiff : (i < m + 1 ∧ (i + 1 = m + 1 ∨ HasFix inp (i + 1))) ↔
      (i < m ∧ (i + 1 = m ∨ HasFix inp (i + 1))) := by
    constructor
    · rintro ⟨-, heq | hnext⟩
      · omega
      · exact ⟨hlt, Or.inr hnext⟩
    · rintro ⟨-, heq | hnext⟩
      · exact ⟨by omega, Or.inr (heq ▸ h heq)⟩
      · exact ⟨by omega, Or.inr hnext⟩
  rw [slot, slot]
  simp only [hiff]

/-- Storing a full minute under the last one with a fix. -/
theorem update_slot (inp : HourInput) (m : ℕ) :
    Function.update (slot inp m) (lastFix inp (m + 1))
      (UInt8.ofNat (average inp m)) = slot inp (m + 1) := by
  funext i
  by_cases hfix : HasFix inp m
  · have hlast : lastFix inp (m + 1) = m := if_pos hfix
    rw [hlast]
    rcases Nat.lt_trichotomy i m with hlt | rfl | hgt
    · rw [Function.update_of_ne hlt.ne, slot_succ hlt fun _ => hfix]
    · rw [Function.update_self, slot, if_pos ⟨Nat.lt_succ_self _, Or.inl rfl⟩]
    · rw [Function.update_of_ne hgt.ne', slot, slot, if_neg (by omega),
        if_neg (by omega)]
  · -- the slot of an earlier minute is cleared
    have hlast : lastFix inp (m + 1) = lastFix inp m := if_neg hfix
    have hzero : average inp m = 0 := average_of_not_hasFix inp m hfix
    have hle := lastFix_lt inp m
    rw [hlast, hzero]
    by_cases hi : i = lastFix inp m
    · rw [hi, Function.update_self, slot]
      split
      · rename_i hcond
        obtain ⟨-, hself | hnext⟩ := hcond
        · have hm : lastFix inp m = m := by omega
          rw [hm, hzero]
        · have hne : lastFix inp m + 1 ≠ m := fun h => hfix (h ▸ hnext)
          have hbefore : lastFix inp m + 1 < m ∨ m ≤ lastFix inp m := by omega
          rcases hbefore with hbefore | hbehind
          · have := le_lastFix hbefore hnext
            omega
          · have hm : lastFix inp m = m := by omega
            rw [hm, hzero]
      · rfl
    · rw [Function.update_of_ne hi]
      rcases Nat.lt_trichotomy i m with hlt | rfl | hgt
      · by_cases hend : i + 1 = m
        · have hnone : ¬ HasFix inp i := by
            intro hhas
            have hthis := le_lastFix hlt hhas
            omega
          rw [slot, slot, average_of_not_hasFix inp i hnone]
          split <;> split <;> rfl
        · exact (slot_succ hlt fun heq => absurd heq hend).symm
      · rw [slot, slot, hzero, if_neg (by omega)]
        split <;> rfl
      · rw [slot, slot, if_neg (by omega), if_neg (by omega)]

end Slots

/-! ## The run of an hour -/

section Hour

variable (inp : HourInput) (s : DriveState)

/-- The average-speed data after the first part of the call for second
`t + 1`. -/
def afterDate (t : ℕ) : AvrgMintSpeed :=
  mintDate s.avrg (inp.second (t + 1)).timeNow ((t + 1) / 60 % 60)
    ((t + 1) / 60 % 60) ((t + 1) % 60)

theorem secondTurn_avrg (t : ℕ) :
    (secondTurn inp s (t + 1)).avrg =
      mintSum (afterDate inp s t) (inp.second (t + 1)).udpDataPacketFlag
        (inp.second (t + 1)).gpsSpeed.toNat ((t + 1) / 60 % 60)
        ((t + 1) % 60) := rfl

/-- Within a minute a call leaves the slots, and the request and the date are
those of its first part. -/
theorem secondTurn_of_sec {t : ℕ} (hfull : (t + 1) % 60 ≠ 0) :
    (secondTurn inp s (t + 1)).avrg.saveFlag = (afterDate inp s t).saveFlag ∧
      (secondTurn inp s (t + 1)).avrg.datetimeBak =
        (afterDate inp s t).datetimeBak ∧
      (secondTurn inp s (t + 1)).avrg.avrgspd = s.avrg.avrgspd := by
  obtain ⟨hflag, hbak, hslots⟩ := mintSum_of_sec (afterDate inp s t)
    (inp.second (t + 1)).udpDataPacketFlag
    (inp.second (t + 1)).gpsSpeed.toNat ((t + 1) / 60 % 60) hfull
  rw [secondTurn_avrg]
  exact ⟨hflag, hbak, hslots.trans (mintDate_counters _ _ _ _ _).2.2⟩

/-- The counters hold the speeds of the minute so far. -/
def Sums (a : AvrgMintSpeed) (t : ℕ) : Prop :=
  a.aspdCounter = (speeds inp (t / 60) (t % 60)).length ∧
    a.perMinSpdTotal = (speeds inp (t / 60) (t % 60)).sum

variable {inp s}

/-- A second counts if it has a fix, and a full minute begins anew. -/
theorem Sums.next {a : AvrgMintSpeed} {t : ℕ} (h : Sums inp a t) :
    Sums inp (mintSum a (inp.second (t + 1)).udpDataPacketFlag
      (inp.second (t + 1)).gpsSpeed.toNat ((t + 1) / 60 % 60)
      ((t + 1) % 60)) (t + 1) := by
  rw [Sums, mintSum]
  by_cases hsec : (t + 1) % 60 = 0
  · rw [if_pos hsec, hsec]
    exact ⟨rfl, rfl⟩
  · obtain ⟨hcount, htotal⟩ := h
    have hminute : (t + 1) / 60 = t / 60 := by omega
    have hin : (t + 1) % 60 = t % 60 + 1 := by omega
    have hplace : 60 * (t / 60) + (t % 60 + 1) = t + 1 := by omega
    have hlen := speeds_length_le inp (t / 60) (t % 60)
    have hsum := speeds_sum_le inp (t / 60) (t % 60)
    have hspeed := (inp.second (t + 1)).gpsSpeed.toNat_lt
    rw [if_neg hsec, hminute, hin, speeds_succ, hplace]
    split
    · rw [List.length_append, List.sum_append, List.length_singleton,
        List.sum_singleton]
      dsimp only
      rw [hcount, htotal]
      omega
    · rw [List.append_nil]
      exact ⟨hcount, htotal⟩

theorem saves_counters (s : DriveState) (cs : List (SaveCall × SpdExp)) :
    (cs.foldl saveTurn s).avrg.aspdCounter = s.avrg.aspdCounter ∧
      (cs.foldl saveTurn s).avrg.perMinSpdTotal = s.avrg.perMinSpdTotal := by
  by_cases hflag : s.avrg.saveFlag = 1
  · rcases saves_requested hflag cs with ⟨hleft, -⟩ | ⟨havrg, -⟩
    · rw [hleft.avrg]
      exact ⟨rfl, rfl⟩
    · rw [havrg]
      exact ⟨rfl, rfl⟩
  · rw [(saves_idle hflag cs).avrg]
    exact ⟨rfl, rfl⟩

/-- Nothing is summed up yet, as the call of the full minute leaves it. -/
def AtFullMinute (s : DriveState) : Prop :=
  s.avrg.aspdCounter = 0 ∧ s.avrg.perMinSpdTotal = 0

theorem atFullMinute_of_sec_zero (s : DriveState) (flag : UInt8)
    (time1 min : ℕ) : AtFullMinute (avrgSpdMintProcess s flag time1 min 0) :=
  ⟨rfl, rfl⟩

theorem sums_hourRun (h : AtFullMinute s) (t : ℕ) :
    Sums inp (hourRun inp s t).avrg t := by
  induction t with
  | zero => exact h
  | succ t ih =>
      obtain ⟨hcount, htotal⟩ := saves_counters
        (secondTurn inp (hourRun inp s t) (t + 1)) (inp.saves (t + 1))
      have hdate := mintDate_counters (hourRun inp s t).avrg
        (inp.second (t + 1)).timeNow ((t + 1) / 60 % 60) ((t + 1) / 60 % 60)
        ((t + 1) % 60)
      have hsums : Sums inp (secondTurn inp (hourRun inp s t) (t + 1)).avrg
          (t + 1) := by
        rw [secondTurn_avrg]
        exact Sums.next ⟨hdate.1.trans ih.1, hdate.2.1.trans ih.2⟩
      rw [hourRun]
      exact ⟨hcount.trans hsums.1, htotal.trans hsums.2⟩

/-- Storing a full minute. -/
theorem mintSum_full {a : AvrgMintSpeed} {t : ℕ} (h : Sums inp a t)
    (hsec : (t + 1) % 60 = 0) (flag : UInt8) (gpsSpeed time1 : ℕ) :
    (mintSum a flag gpsSpeed time1 ((t + 1) % 60)).avrgspd =
      Function.update a.avrgspd a.avgspdMintWr
        (UInt8.ofNat (average inp (t / 60))) := by
  have hin : t % 60 = 59 := by omega
  obtain ⟨hcount, htotal⟩ := h
  rw [hin] at hcount htotal
  rw [mintSum, if_pos hsec]
  dsimp only
  congr 1
  rw [average, ← hcount, ← htotal]
  split
  · rfl
  · rename_i hzero
    rw [not_not.mp hzero, Nat.div_zero]
    rfl

end Hour

/-! ## The request and the save -/

section Request

variable {inp : HourInput} {s : DriveState} {t : ℕ}

/-- A record holds the slots. -/
def ShowsSlots (r : List UInt8) (f : ℕ → UInt8) : Prop :=
  ∀ m < 60, r.getD (5 + m) 0 = f m

theorem avrgSpdContent_showsSlots (a : AvrgMintSpeed) :
    ShowsSlots (avrgSpdContent a) a.avrgspd := by
  intro m hm
  have hdate : (a.datetimeBak.bytes.take 5).length = 5 := rfl
  have hread : (readBytes a.avrgspd 0 60)[m]? = some (a.avrgspd m) := by
    rw [getElem?_readBytes, if_pos hm, Nat.zero_add]
  have hlen : m < (readBytes a.avrgspd 0 60).length := by
    rwa [readBytes_length]
  rw [avrgSpdContent, List.getD_eq_getElem?_getD]
  simp only [List.append_assoc]
  rw [List.getElem?_append_right (by omega), hdate, Nat.add_sub_cancel_left,
    List.getElem?_append_left hlen, hread, Option.getD_some]

/-- The save is requested and the slots are there. -/
def Pending (f : ℕ → UInt8) (s : DriveState) : Prop :=
  s.avrg.saveFlag = 1 ∧ s.avrg.avrgspd = f

/-- No slot is filled and no save is requested; the last record holds the
slots, if any are given. -/
def Settled (g : Option (ℕ → UInt8)) (s : DriveState) : Prop :=
  s.avrg.saveFlag = 0 ∧ s.avrg.avrgspd = (fun _ => 0) ∧
    ∀ f ∈ g, ∃ r, (s.records .spdpermin).getLast? = some r ∧ ShowsSlots r f

theorem Settled.of_leaves {g : Option (ℕ → UInt8)} {s s' : DriveState}
    (h : Settled g s) (hs : LeavesAvrg s s') : Settled g s' := by
  rw [Settled, hs.avrg, hs.records]
  exact h

theorem Settled.saves {g : Option (ℕ → UInt8)} (h : Settled g s)
    (cs : List (SaveCall × SpdExp)) : Settled g (cs.foldl saveTurn s) :=
  h.of_leaves (saves_idle (by rw [h.1]; decide) cs)

theorem Pending.saves {f : ℕ → UInt8} {g : Option (ℕ → UInt8)}
    (h : Pending f s) (hg : ∀ f' ∈ g, f' = f) (cs : List (SaveCall × SpdExp)) :
    (Pending f (cs.foldl saveTurn s) ∧ ∀ c ∈ cs, ¬ c.1.gates.Free) ∨
      Settled g (cs.foldl saveTurn s) := by
  rcases saves_requested h.1 cs with ⟨hleft, hnone⟩ | ⟨havrg, hrecords⟩
  · refine Or.inl ⟨?_, hnone⟩
    rw [Pending, hleft.avrg]
    exact h
  · refine Or.inr ⟨by rw [havrg]; rfl, by rw [havrg]; rfl, ?_⟩
    intro f' hf'
    refine ⟨avrgSpdContent s.avrg, by rw [hrecords, List.getLast?_concat], ?_⟩
    rw [hg f' hf', ← h.2]
    exact avrgSpdContent_showsSlots s.avrg

theorem mintDate_saveFlag {a : AvrgMintSpeed} {timeNow : TDateTime}
    {time1 min sec : ℕ} (h : ¬ (min = 0 ∧ sec = 5)) :
    (mintDate a timeNow time1 min sec).saveFlag = a.saveFlag := by
  rw [mintDate]
  split
  · rfl
  · split
    · rename_i hmin
      rw [if_neg fun hsec => h ⟨hmin, hsec⟩]
      split <;> rfl
    · rfl

/-- Apart from the full minutes and the fifth second of the hour a call changes
neither the request nor the slots. -/
theorem secondTurn_keeps (inp : HourInput) (s : DriveState)
    (hfull : (t + 1) % 60 ≠ 0) (hfive : ¬ ((t + 1) / 60 % 60 = 0 ∧
      (t + 1) % 60 = 5)) :
    (secondTurn inp s (t + 1)).avrg.saveFlag = s.avrg.saveFlag ∧
      (secondTurn inp s (t + 1)).avrg.avrgspd = s.avrg.avrgspd ∧
      (secondTurn inp s (t + 1)).records .spdpermin =
        s.records .spdpermin := by
  obtain ⟨hflag, -, hslots⟩ := secondTurn_of_sec inp s hfull
  exact ⟨hflag.trans (mintDate_saveFlag hfive), hslots, rfl⟩

/-- In the three seconds after a request the save meets it. -/
theorem settled_of_savedWithin {f : ℕ → UInt8} {g : Option (ℕ → UInt8)}
    (hg : ∀ f' ∈ g, f' = f) (ht : (t + 1) % 3600 = 5)
    (hsaved : SavedWithin inp (t + 1) (t + 4))
    (hcall : Pending f (secondTurn inp (hourRun inp s t) (t + 1)) ∨
      Settled g (secondTurn inp (hourRun inp s t) (t + 1))) :
    Settled g (hourRun inp s (t + 3)) := by
  have hsaves (u : ℕ) (h : Pending f (secondTurn inp (hourRun inp s u) (u + 1)) ∨
      Settled g (secondTurn inp (hourRun inp s u) (u + 1))) :
      (Pending f (hourRun inp s (u + 1)) ∧
        ∀ c ∈ inp.saves (u + 1), ¬ c.1.gates.Free) ∨
      Settled g (hourRun inp s (u + 1)) := by
    rcases h with h | h
    · exact h.saves hg _
    · exact Or.inr (h.saves _)
  have hwindow (k : ℕ) (hk : k < 3) :
      (Pending f (hourRun inp s (t + 1 + k)) ∧
        ∀ u, t + 1 ≤ u → u ≤ t + 1 + k → ∀ c ∈ inp.saves u,
          ¬ c.1.gates.Free) ∨
      Settled g (hourRun inp s (t + 1 + k)) := by
    induction k with
    | zero =>
        refine (hsaves t hcall).imp (fun h => ⟨h.1, ?_⟩) id
        intro u hlo hhi
        obtain rfl : u = t + 1 := by omega
        exact h.2
    | succ k ih =>
        obtain ⟨hflag, hslots, hrecords⟩ := secondTurn_keeps inp
          (hourRun inp s (t + 1 + k)) (t := t + 1 + k) (by omega) (by omega)
        rcases ih (by omega) with ⟨hpending, hnone⟩ | hsettled
        · have hnext : Pending f (secondTurn inp (hourRun inp s (t + 1 + k))
              (t + 1 + k + 1)) := by
            rw [Pending, hflag, hslots]
            exact hpending
          refine (hsaves _ (Or.inl hnext)).imp (fun h => ⟨h.1, ?_⟩) id
          intro u hlo hhi
          rcases Nat.lt_or_ge u (t + 1 + k + 1) with hlt | hge
          · exact hnone u hlo (by omega)
          · obtain rfl : u = t + 1 + k + 1 := by omega
            exact h.2
        · have hnext : Settled g (secondTurn inp (hourRun inp s (t + 1 + k))
              (t + 1 + k + 1)) := by
            rw [Settled, hflag, hslots, hrecords]
            exact hsettled
          exact Or.inr (hnext.saves _)
  rcases hwindow 2 (by decide) with ⟨-, hnone⟩ | hsettled
  · obtain ⟨u, hlo, hhi, c, hc, hfree⟩ := hsaved
    exact absurd hfree (hnone u hlo (by omega) c hc)
  · exact hsettled

end Request

/-! ## The hour -/

section Whole

variable {inp : HourInput} {s : DriveState} {t : ℕ}

theorem mintDate_dated (a : AvrgMintSpeed) (timeNow : TDateTime) (time1 : ℕ)
    {min sec : ℕ} (h : ¬ (min = 0 ∧ sec = 5)) :
    ¬ ((mintDate a timeNow time1 min sec).saveFlag = 0 ∧
      (mintDate a timeNow time1 min sec).NoDate) := by
  by_cases hdate : a.saveFlag = 0 ∧ a.NoDate
  · rw [mintDate, if_pos hdate]
    exact fun hno => bcd_noDate rfl hno.2
  · have hbak : (mintDate a timeNow time1 min sec).datetimeBak =
        a.datetimeBak := by
      rw [mintDate, if_neg hdate]
      split
      · rename_i hmin
        rw [if_neg fun hsec => h ⟨hmin, hsec⟩]
        split <;> rfl
      · rfl
    rw [mintDate_saveFlag h, AvrgMintSpeed.NoDate, hbak]
    exact hdate

/-- After a second within a minute there is a date or a request. -/
theorem dated_secondTurn (inp : HourInput) (s : DriveState)
    (hfull : (t + 1) % 60 ≠ 0)
    (hfive : ¬ ((t + 1) / 60 % 60 = 0 ∧ (t + 1) % 60 = 5)) :
    ¬ ((secondTurn inp s (t + 1)).avrg.saveFlag = 0 ∧
      (secondTurn inp s (t + 1)).avrg.NoDate) := by
  obtain ⟨hflag, hbak, -⟩ := secondTurn_of_sec inp s hfull
  have hdated := mintDate_dated s.avrg (inp.second (t + 1)).timeNow
    ((t + 1) / 60 % 60) hfive
  rw [AvrgMintSpeed.NoDate, hflag, hbak]
  exact hdated

/-- There is a date, a request, or no slot is filled. -/
def Unspoiled (s : DriveState) : Prop :=
  ¬ (s.avrg.saveFlag = 0 ∧ s.avrg.NoDate) ∨ Settled none s

theorem unspoiled_saves (h : ¬ (s.avrg.saveFlag = 0 ∧ s.avrg.NoDate))
    (cs : List (SaveCall × SpdExp)) : Unspoiled (cs.foldl saveTurn s) := by
  by_cases hflag : s.avrg.saveFlag = 1
  · rcases saves_requested hflag cs with ⟨hleft, -⟩ | ⟨havrg, -⟩
    · rw [Unspoiled, hleft.avrg]
      exact Or.inl h
    · exact Or.inr ⟨by rw [havrg]; rfl, by rw [havrg]; rfl, nofun⟩
  · rw [Unspoiled, (saves_idle hflag cs).avrg]
    exact Or.inl h

/-- The fifth second of the hour requests the save. -/
theorem pending_secondTurn (inp : HourInput) (s : DriveState)
    (hdate : ¬ (s.avrg.saveFlag = 0 ∧ s.avrg.NoDate))
    (hmin : (t + 1) / 60 % 60 = 0) (hsec : (t + 1) % 60 = 5) :
    Pending s.avrg.avrgspd (secondTurn inp s (t + 1)) := by
  have hfull : (t + 1) % 60 ≠ 0 := by omega
  obtain ⟨hflag, -, hslots⟩ := secondTurn_of_sec inp s hfull
  have hrequest : (afterDate inp s t).saveFlag = 1 := by
    rw [afterDate, mintDate, if_neg hdate, if_pos hmin, if_pos hsec,
      if_neg (by omega)]
  exact ⟨hflag.trans hrequest, hslots⟩

/-- The call that notes the first date leaves the slots. -/
theorem Settled.noDate (h : Settled none s) (inp : HourInput)
    (hdate : s.avrg.saveFlag = 0 ∧ s.avrg.NoDate) (hfull : (t + 1) % 60 ≠ 0) :
    Settled none (secondTurn inp s (t + 1)) := by
  obtain ⟨hflag, -, hslots⟩ := secondTurn_of_sec inp s hfull
  have hkept : (afterDate inp s t).saveFlag = 0 := by
    rw [afterDate, mintDate, if_pos hdate]
    exact hdate.1
  exact ⟨hflag.trans hkept, hslots.trans h.2.1, nofun⟩

/-- After the first save of the hour no slot is filled. -/
theorem settled_seven (inp : HourInput) (s : DriveState)
    (hsaved : SavedWithin inp 5 8) : Settled none (hourRun inp s 7) := by
  have hfour : Unspoiled (hourRun inp s 4) :=
    unspoiled_saves (dated_secondTurn inp (hourRun inp s 3) (t := 3) (by decide)
      (by decide)) (inp.saves 4)
  refine settled_of_savedWithin (t := 4) (f := (hourRun inp s 4).avrg.avrgspd)
    nofun (by decide) hsaved ?_
  by_cases hdate : (hourRun inp s 4).avrg.saveFlag = 0 ∧
      (hourRun inp s 4).avrg.NoDate
  · rcases hfour with hfour | hfour
    · exact absurd hdate hfour
    · exact Or.inr (hfour.noDate inp hdate (by decide))
  · exact Or.inl (pending_secondTurn inp _ hdate (by decide) (by decide))

/-- The hour is running: the slots are those of the full minutes, and the index
is the last minute with a fix. -/
structure Running (inp : HourInput) (a : AvrgMintSpeed) (t : ℕ) : Prop where
  saveFlag : a.saveFlag = 0
  dated : ¬ a.NoDate
  slots : a.avrgspd = slot inp (t / 60)
  index : t < 3600 → a.avgspdMintWr =
    if speeds inp (t / 60) (t % 60) ≠ [] then t / 60 else lastFix inp (t / 60)

theorem Running.saves (h : Running inp s.avrg t)
    (cs : List (SaveCall × SpdExp)) :
    Running inp (cs.foldl saveTurn s).avrg t := by
  rw [(saves_idle (by rw [h.saveFlag]; decide) cs).avrg]
  exact h

/-- The eighth second sets the index back, and the hour is running. -/
theorem running_eight (inp : HourInput) (s : DriveState)
    (hsettled : Settled none (hourRun inp s 7)) :
    Running inp (hourRun inp s 8).avrg 8 := by
  obtain ⟨hflag, hslots, -⟩ := secondTurn_keeps inp (hourRun inp s 7) (t := 7)
    (by decide) (by decide)
  have hdated := dated_secondTurn inp (hourRun inp s 7) (t := 7) (by decide)
    (by decide)
  have hzero := hflag.trans hsettled.1
  have hindex : (secondTurn inp (hourRun inp s 7) 8).avrg.avgspdMintWr = 0 := by
    change (mintSum (mintDate (hourRun inp s 7).avrg (inp.second 8).timeNow 0 0 8)
      _ _ 0 8).avgspdMintWr = 0
    rw [mintSum, if_neg (by decide)]
    split
    · rfl
    · rw [mintDate]
      split <;> rfl
  refine Running.saves (s := secondTurn inp (hourRun inp s 7) 8)
    ⟨hzero, fun hno => hdated ⟨hzero, hno⟩, ?_, ?_⟩ (inp.saves 8)
  · rw [hslots, hsettled.2.1]
    funext i
    exact (if_neg (by omega)).symm
  · intro _
    rw [hindex]
    split <;> rfl

/-- One second of the hour. -/
theorem Running.next (h : Running inp (hourRun inp s t).avrg t)
    (hsums : Sums inp (hourRun inp s t).avrg t) (hlo : 8 ≤ t)
    (hhi : t + 1 < 3605) : Running inp (hourRun inp s (t + 1)).avrg (t + 1) := by
  refine Running.saves (s := secondTurn inp (hourRun inp s t) (t + 1)) ?_
    (inp.saves (t + 1))
  have hdate : afterDate inp (hourRun inp s t) t = (hourRun inp s t).avrg :=
    mintDate_of_date (fun hno => h.dated hno.2) (by omega)
  rw [secondTurn_avrg, hdate]
  generalize (hourRun inp s t).avrg = a at h hsums
  by_cases hfull : (t + 1) % 60 = 0
  · have hminute : (t + 1) / 60 = t / 60 + 1 := by omega
    have hlast : t % 60 = 59 := by omega
    have hindex := h.index (by omega)
    rw [hlast] at hindex
    have hslots := mintSum_full hsums hfull
      (inp.second (t + 1)).udpDataPacketFlag
      (inp.second (t + 1)).gpsSpeed.toNat ((t + 1) / 60 % 60)
    have hstored := update_slot inp (t / 60)
    rw [h.slots, hindex] at hslots
    refine ⟨?_, ?_, ?_, fun _ => ?_⟩
    · rw [mintSum, if_pos hfull]
      exact h.saveFlag
    · rw [mintSum, if_pos hfull]
      exact h.dated
    · rw [hslots, hminute]
      exact hstored
    · rw [mintSum, if_pos hfull, hfull, hminute]
      exact hindex
  · have hminute : (t + 1) / 60 = t / 60 := by omega
    have hin : (t + 1) % 60 = t % 60 + 1 := by omega
    have hplace : 60 * (t / 60) + (t % 60 + 1) = t + 1 := by omega
    obtain ⟨hflag, hbak, hslots⟩ := mintSum_of_sec a
      (inp.second (t + 1)).udpDataPacketFlag
      (inp.second (t + 1)).gpsSpeed.toNat ((t + 1) / 60 % 60) hfull
    refine ⟨hflag.trans h.saveFlag, ?_, ?_, fun hlt => ?_⟩
    · rw [AvrgMintSpeed.NoDate, hbak]
      exact h.dated
    · rw [hslots, hminute]
      exact h.slots
    · rw [mintSum, if_neg hfull, hminute, hin, speeds_succ, hplace]
      split
      · rw [if_pos (by simp)]
        exact Nat.mod_eq_of_lt (by omega)
      · rw [List.append_nil]
        exact h.index (by omega)

theorem running_hourRun (hstart : AtFullMinute s) (hsaved : SavedWithin inp 5 8)
    (hlo : 8 ≤ t) (hhi : t < 3605) : Running inp (hourRun inp s t).avrg t := by
  induction t, hlo using Nat.le_induction with
  | base => exact running_eight inp s (settled_seven inp s hsaved)
  | succ t hlo ih =>
      exact (ih (by omega)).next (sums_hourRun hstart t) hlo hhi

/-- The record of the hour holds the slots after its last minute. -/
theorem settled_hourRun (hstart : AtFullMinute s) (hfirst : SavedWithin inp 5 8)
    (hsaved : SavedWithin inp 3605 3608) :
    Settled (some (slot inp 60)) (hourRun inp s 3608) := by
  have hrun := running_hourRun hstart hfirst (t := 3604) (by decide) (by decide)
  have hpending := pending_secondTurn inp (hourRun inp s 3604) (t := 3604)
    (fun hno => hrun.dated hno.2) (by decide) (by decide)
  rw [hrun.slots] at hpending
  have hseven : Settled (some (slot inp 60)) (hourRun inp s 3607) :=
    settled_of_savedWithin (t := 3604) (f := slot inp 60)
      (fun f' hf' => (Option.some.inj hf').symm) (by decide) hsaved
      (Or.inl hpending)
  obtain ⟨hflag, hslots, hrecords⟩ := secondTurn_keeps inp
    (hourRun inp s 3607) (t := 3607) (by decide) (by decide)
  have height : Settled (some (slot inp 60))
      (secondTurn inp (hourRun inp s 3607) 3608) := by
    rw [Settled, hflag, hslots, hrecords]
    exact hseven
  exact height.saves (inp.saves 3608)

/-- The last slots hold the averages exactly when every minute with an average
above 0 km/h has one below 256 and is followed by a minute with a fix, unless it
is the last. -/
theorem slot_sixty_iff (inp : HourInput) :
    (∀ m < 60, (slot inp 60 m).toNat = average inp m) ↔
      ∀ m < 60, average inp m = 0 ∨
        (average inp m < 256 ∧ (m = 59 ∨ HasFix inp (m + 1))) := by
  refine forall₂_congr fun m hm => ?_
  rw [slot]
  by_cases hkept : m = 59 ∨ HasFix inp (m + 1)
  · have hcond : m < 60 ∧ (m + 1 = 60 ∨ HasFix inp (m + 1)) :=
      ⟨hm, hkept.imp (by omega) id⟩
    rw [if_pos hcond, UInt8.toNat_ofNat']
    simp only [hkept, and_true]
    omega
  · have hcond : ¬ (m < 60 ∧ (m + 1 = 60 ∨ HasFix inp (m + 1))) :=
      fun h => hkept (h.2.imp (by omega) id)
    rw [if_neg hcond]
    constructor
    · intro h
      exact Or.inl h.symm
    · rintro (h | h)
      · exact h.symm
      · exact absurd h.2 hkept

end Whole

/-- The record of an hour holds the averages of its minutes exactly when every
minute with an average above 0 km/h has one below 256 and is followed by a
minute with a fix, unless it is the last. -/
theorem recordsAverages_iff (inp : HourInput) (s : DriveState)
    (hstart : AtFullMinute s) (hfirst : SavedWithin inp 5 8)
    (hsaved : SavedWithin inp 3605 3608) :
    RecordsAverages inp (hourRun inp s 3608) ↔
      ∀ m < 60, average inp m = 0 ∨
        (average inp m < 256 ∧ (m = 59 ∨ HasFix inp (m + 1))) := by
  obtain ⟨-, -, hrecord⟩ := settled_hourRun hstart hfirst hsaved
  obtain ⟨r, hlast, hshows⟩ := hrecord _ rfl
  rw [← slot_sixty_iff]
  constructor
  · rintro ⟨r', hlast', hr'⟩
    rw [hlast] at hlast'
    obtain rfl := Option.some.inj hlast'
    intro m hm
    rw [← hshows m hm]
    exact hr' m hm
  · intro hslots
    refine ⟨r, hlast, fun m hm => ?_⟩
    rw [hshows m hm]
    exact hslots m hm

/-- An hour with a fix of 30 km/h up to second `n` and none after it, saved as
soon as requested. -/
def hourWithFix (n : ℕ) : HourInput where
  second t :=
    ⟨⟨24, 5, 1, 8, 0, 0, by decide, by decide, by decide⟩,
      if t ≤ n then 2 else 0, 300⟩
  saves t :=
    if t % 3600 = 5 then
      [(⟨{}, {}, fun _ => {}, 0,
        ⟨24, 5, 1, 8, 0, 0, by decide, by decide, by decide⟩⟩, {})]
    else []

theorem hourWithFix_savedWithin (n h : ℕ) :
    SavedWithin (hourWithFix n) (3600 * h + 5) (3600 * h + 8) := by
  have hcall : (3600 * h + 5) % 3600 = 5 := by omega
  refine ⟨3600 * h + 5, by omega, by omega, ?_⟩
  simp only [hourWithFix, if_pos hcall]
  exact ⟨_, List.mem_singleton.mpr rfl, by decide⟩

theorem recordsAverages_iff_hour :
    RecordsAverages (hourWithFix 3600)
      (hourRun (hourWithFix 3600) {} 3608) :=
  (recordsAverages_iff (hourWithFix 3600) {} ⟨rfl, rfl⟩
    (hourWithFix_savedWithin 3600 0) (hourWithFix_savedWithin 3600 1)).mpr
    (by decide +kernel)

/-- With a fix in the first minute only its average is lost. -/
theorem not_recordsAverages_minute :
    ¬ RecordsAverages (hourWithFix 59)
      (hourRun (hourWithFix 59) {} 3608) := by
  have hsettled : Settled (some (slot (hourWithFix 59) 60))
      (hourRun (hourWithFix 59) {} 3608) :=
    settled_hourRun ⟨rfl, rfl⟩ (hourWithFix_savedWithin 59 0)
      (hourWithFix_savedWithin 59 1)
  obtain ⟨-, -, hrecord⟩ := hsettled
  obtain ⟨r, hlast, hshows⟩ := hrecord _ rfl
  rintro ⟨r', hlast', hr'⟩
  rw [hlast] at hlast'
  obtain rfl := Option.some.inj hlast'
  have hzero := hr' 0 (by decide)
  rw [hshows 0 (by decide)] at hzero
  exact absurd hzero (by decide)

end VehicleRecorder.Driving
