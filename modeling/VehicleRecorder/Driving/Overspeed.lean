import VehicleRecorder.Driving.SaveProcess
import VehicleRecorder.Lib.MaximalRuns
import VehicleRecorder.Lib.Runs

/-!
# Over-speed episodes

`SpeedWarnJudge` counts the seconds above the limit, notes when an episode
begins and ends, and leaves its record to `JT808_Related_Save_Process`.  The
counter is set back when the episode begins and then counts twice a second, and
an episode that waits to be saved stands in the way of the next one.  The module
shows for which seconds and saves the counter follows the run all the same.
-/

namespace VehicleRecorder.Driving

open Bytes Dataflash MaximalRuns Runs

/-- A value kept in a `u32`. -/
abbrev u32 (n : ℕ) : ℕ := n % 4294967296

/-! ## The judgement -/

/-- `if(speed_Exd.current_maxSpd<GPS_speed) speed_Exd.current_maxSpd=GPS_speed`. -/
def SpdExp.raise (e : SpdExp) (gpsSpeed : ℕ) : SpdExp :=
  if e.currentMaxSpd < gpsSpeed then { e with currentMaxSpd := gpsSpeed } else e

/-- The limit duration is exceeded. -/
def speedExceeded (s : DriveState) : DriveState :=
  let s := { s with speedExd.durSeconds := 0 }
  let s : DriveState :=
    if s.speedExd.speedFlag ≠ 1 then
      { s with
        speedExd.speedFlag := 1
        warnStatus3 := s.warnStatus3 ||| 0x02 }
    else s
  let s := { s with speedExd.exStartTime := time2BCD s.timeNow }
  let s := { s with speedExd := s.speedExd.raise s.gpsSpeed }
  { s with
    speedExd.excdStatus := 1
    speedExd.durSeconds := u32 (s.speedExd.durSeconds + 1) }

/-- A second above the limit. -/
def speedAbove (s : DriveState) : DriveState :=
  let s := { s with speedExd.durSeconds := u32 (s.speedExd.durSeconds + 1) }
  let s : DriveState :=
    if s.speedExd.durSeconds > s.spdExdLimitSeconds then speedExceeded s else s
  if s.speedExd.excdStatus = 1 then
    let s := { s with speedExd.durSeconds := u32 (s.speedExd.durSeconds + 1) }
    { s with speedExd := s.speedExd.raise s.gpsSpeed }
  else s

/-- A second at or below the limit. -/
def speedBelow (s : DriveState) : DriveState :=
  let s := { s with warnStatus3 := s.warnStatus3 &&& ~~~ 0x02 }
  let s : DriveState :=
    if s.speedExd.excdStatus ≠ 2 then
      { s with
        speedExd.durSeconds := 0
        speedExd.speedFlag := 0 }
    else s
  if s.speedExd.excdStatus = 1 then
    { s with
      speedExd.exEndTime := time2BCD s.timeNow
      speedExd.excdStatus := 2 }
  else if s.speedExd.excdStatus = 0 then
    { s with speedExd := spdExpInit s.speedExd }
  else s

/-- `SpeedWarnJudge`. -/
def speedWarnJudge (s : DriveState) : DriveState :=
  if s.speedWarnMax > 0 then
    if s.gpsSpeed > u32 (s.speedWarnMax * 10) then speedAbove s
    else speedBelow s
  else s

/-! ## Events -/

/-- A second: the clock and `GPS_speed`. -/
structure Second where
  timeNow : TDateTime
  gpsSpeed : UInt16
  deriving DecidableEq, Repr

/-- The two functions are called in any order. -/
inductive DriveEvent
  | second (x : Second)
  | save (c : SaveCall) (avrg : AvrgMintSpeed)

/-- One call. -/
def driveStep (s : DriveState) : DriveEvent → DriveState
  | .second x =>
      speedWarnJudge { s with
        timeNow := x.timeNow
        gpsSpeed := x.gpsSpeed.toNat }
  | .save c avrg =>
      jt808RelatedSaveProcess { c.prepare s with avrg := avrg } c.rtc

/-! ## Episodes -/

/-- The speed is above `limit` km/h. -/
def Above (limit : ℕ) (x : Second) : Prop := limit * 10 < x.gpsSpeed.toNat

instance (limit : ℕ) : DecidablePred (Above limit) :=
  fun _ => inferInstanceAs (Decidable (_ < _))

/-- The highest speed of some seconds. -/
def topSpeed (xs : List Second) : ℕ :=
  xs.foldl (fun m x => max m x.gpsSpeed.toNat) 0

/-- What is to be reported of a run. -/
structure Episode where
  startTime : TDateTime
  endTime : TDateTime
  maxSpeed : ℕ
  deriving DecidableEq, Repr

/-- The episode of a run and the second that ended it, if the run was longer
than `dur` seconds. -/
def episode (dur : ℕ) (r : List Second × Second) : Option Episode :=
  r.1[dur]?.map fun x => ⟨x.timeNow, r.2.timeNow, topSpeed (r.1.drop dur)⟩

/-- The episodes of a sequence of seconds, one for each maximal run above the
limit. -/
def episodes (limit dur : ℕ) (xs : List Second) : List Episode :=
  (scan (Above limit) xs).closed.filterMap (episode dur)

/-- There is one way to cut the seconds into maximal runs above the limit, and
the episodes are read off it. -/
theorem episodes_maximal (limit dur : ℕ) (xs : List Second) :
    ∃ r : Scan Second, r.text = xs ∧ r.Valid (Above limit) ∧
      (∀ r' : Scan Second, r'.text = xs → r'.Valid (Above limit) → r' = r) ∧
      episodes limit dur xs = r.closed.filterMap (episode dur) := by
  refine ⟨scan (Above limit) xs, scan_text xs, scan_valid xs, ?_, rfl⟩
  rintro r' rfl hvalid
  exact (scan_unique hvalid).symm

/-- The record of an episode. -/
def Episode.record (card : Vector UInt8 18) (e : Episode) : List UInt8 :=
  spdWarnContent card (time2BCD e.startTime) (time2BCD e.endTime) e.maxSpeed

/-- The record that waits to be saved. -/
def pending (s : DriveState) : List (List UInt8) :=
  if s.speedExd.excdStatus = 2 then
    [spdWarnContent s.driverCardId s.speedExd.exStartTime s.speedExd.exEndTime
      s.speedExd.currentMaxSpd]
  else []

/-- The records written, and the one that waits, are those of the episodes, and
the byte for the speed holds it. -/
structure ReportsEpisodes (limit dur : ℕ) (card : Vector UInt8 18)
    (s : DriveState) (xs : List Second) : Prop where
  records : s.records .spdWarn ++ pending s =
    (episodes limit dur xs).map (Episode.record card)
  speed : ∀ e ∈ episodes limit dur xs, e.maxSpeed / 10 < 256

/-! ## What the calls must meet -/

/-- Nothing holds the save of an episode back. -/
def SaveCall.Reaches (c : SaveCall) (avrg : AvrgMintSpeed) : Prop :=
  c.gates.Free ∧ avrg.saveFlag ≠ 1 ∧ c.tired.tireddrvStatus ≠ 2

instance (c : SaveCall) (avrg : AvrgMintSpeed) : Decidable (c.Reaches avrg) :=
  inferInstanceAs (Decidable (_ ∧ _))

/-- What the calls so far come to: the seconds of the open run, whether a long
run has ended that has not been saved, the seconds above the limit since it
ended, and whether such a save came in the open run. -/
structure Watch where
  run : ℕ := 0
  waits : Bool := false
  waited : ℕ := 0
  mixed : Bool := false
  deriving DecidableEq, Repr

namespace Watch

variable (limit dur : ℕ)

/-- One more call. -/
def next (w : Watch) : DriveEvent → Watch
  | .second x =>
      if Above limit x then
        { w with
          run := w.run + 1
          waited := if w.waits then w.waited + 1 else w.waited }
      else if w.run ≤ dur then { w with run := 0, mixed := false }
      else { waits := true }
  | .save c avrg =>
      if c.Reaches avrg ∧ w.waits then
        { run := w.run, mixed := decide (0 < w.run) }
      else w

/-- What a second above the limit must meet: a long run ends before the counter,
which counts two a second in it, has passed the limit duration again; and while
a record waits, and in a run in which it was saved, the limit duration is not
exceeded.  The limit in 0.1 km/h and the speed must fit their types. -/
def Right (w : Watch) : DriveEvent → Prop
  | .second x =>
      (u32 (limit * 10) < x.gpsSpeed.toNat → Above limit x) ∧
        (Above limit x →
          (dur ≤ w.run → x.gpsSpeed.toNat < 2560 ∧ dur + 1 < 4294967296) ∧
            (if w.waits then w.waited < dur
            else if w.mixed then w.run < dur
            else w.run ≤ dur ∨ 2 * w.run < 3 * dur))
  | .save _ _ => True

instance (w : Watch) : (e : DriveEvent) → Decidable (w.Right limit dur e)
  | .second _ => inferInstanceAs (Decidable (_ ∧ _))
  | .save _ _ => isTrue trivial

end Watch

/-! ## What one call does -/

section Calls

variable (s : DriveState)

@[simp] theorem raise_currentMaxSpd (e : SpdExp) (v : ℕ) :
    (e.raise v).currentMaxSpd = max e.currentMaxSpd v := by
  rw [SpdExp.raise]
  split
  · rename_i h
    have hmax : max e.currentMaxSpd v = v := max_eq_right h.le
    exact hmax.symm
  · rename_i h
    exact (max_eq_left (Nat.not_lt.mp h)).symm

@[simp] theorem raise_excdStatus (e : SpdExp) (v : ℕ) :
    (e.raise v).excdStatus = e.excdStatus := by
  rw [SpdExp.raise]
  split <;> rfl

@[simp] theorem raise_exStartTime (e : SpdExp) (v : ℕ) :
    (e.raise v).exStartTime = e.exStartTime := by
  rw [SpdExp.raise]
  split <;> rfl

@[simp] theorem raise_exEndTime (e : SpdExp) (v : ℕ) :
    (e.raise v).exEndTime = e.exEndTime := by
  rw [SpdExp.raise]
  split <;> rfl

@[simp] theorem raise_durSeconds (e : SpdExp) (v : ℕ) :
    (e.raise v).durSeconds = e.durSeconds := by
  rw [SpdExp.raise]
  split <;> rfl

/-- The judgement works on `speed_Exd` and the warning bits only. -/
structure OnlySpeed (s s' : DriveState) : Prop where
  speedWarnMax : s'.speedWarnMax = s.speedWarnMax
  limitSeconds : s'.spdExdLimitSeconds = s.spdExdLimitSeconds
  card : s'.driverCardId = s.driverCardId
  written : s'.written = s.written

/-- The counter passes the limit duration: the episode begins, whatever was
noted before. -/
theorem speedAbove_exceeds
    (h : s.spdExdLimitSeconds < u32 (s.speedExd.durSeconds + 1)) :
    OnlySpeed s (speedAbove s) ∧
      (speedAbove s).speedExd.excdStatus = 1 ∧
      (speedAbove s).speedExd.exStartTime = time2BCD s.timeNow ∧
      (speedAbove s).speedExd.currentMaxSpd =
        max s.speedExd.currentMaxSpd s.gpsSpeed := by
  simp only [speedAbove, speedExceeded, if_pos h, if_true]
  refine ⟨⟨?_, ?_, ?_, ?_⟩, ?_, ?_, ?_⟩ <;> split <;> simp

/-- It is set back, and counts twice in the same second. -/
theorem durSeconds_exceeds
    (h : s.spdExdLimitSeconds < u32 (s.speedExd.durSeconds + 1)) :
    (speedAbove s).speedExd.durSeconds = 2 := by
  simp only [speedAbove, speedExceeded, if_pos h, if_true]
  split <;> simp

/-- Within an episode the highest speed is kept. -/
theorem speedAbove_running
    (h : u32 (s.speedExd.durSeconds + 1) ≤ s.spdExdLimitSeconds)
    (hstatus : s.speedExd.excdStatus = 1) :
    OnlySpeed s (speedAbove s) ∧
      (speedAbove s).speedExd.excdStatus = 1 ∧
      (speedAbove s).speedExd.exStartTime = s.speedExd.exStartTime ∧
      (speedAbove s).speedExd.currentMaxSpd =
        max s.speedExd.currentMaxSpd s.gpsSpeed := by
  simp only [speedAbove, if_neg (Nat.not_lt.mpr h), if_pos hstatus]
  exact ⟨⟨rfl, rfl, rfl, rfl⟩, by simp [hstatus], by simp, by simp⟩

theorem durSeconds_running
    (h : u32 (s.speedExd.durSeconds + 1) ≤ s.spdExdLimitSeconds)
    (hstatus : s.speedExd.excdStatus = 1) :
    (speedAbove s).speedExd.durSeconds =
      u32 (u32 (s.speedExd.durSeconds + 1) + 1) := by
  simp only [speedAbove, if_neg (Nat.not_lt.mpr h), if_pos hstatus,
    raise_durSeconds]

/-- Before the limit duration the counter alone changes. -/
theorem speedAbove_counting
    (h : u32 (s.speedExd.durSeconds + 1) ≤ s.spdExdLimitSeconds)
    (hstatus : s.speedExd.excdStatus ≠ 1) :
    speedAbove s =
      { s with speedExd.durSeconds := u32 (s.speedExd.durSeconds + 1) } := by
  simp only [speedAbove, if_neg (Nat.not_lt.mpr h), if_neg hstatus]

theorem speedBelow_idle (hstatus : s.speedExd.excdStatus = 0) :
    OnlySpeed s (speedBelow s) ∧ (speedBelow s).speedExd.excdStatus = 0 ∧
      (speedBelow s).speedExd.currentMaxSpd = 0 := by
  simp [speedBelow, spdExpInit, hstatus]
  exact ⟨rfl, rfl, rfl, rfl⟩

/-- The episode ends and its record waits. -/
theorem speedBelow_running (hstatus : s.speedExd.excdStatus = 1) :
    OnlySpeed s (speedBelow s) ∧ (speedBelow s).speedExd.excdStatus = 2 ∧
      (speedBelow s).speedExd.exStartTime = s.speedExd.exStartTime ∧
      (speedBelow s).speedExd.exEndTime = time2BCD s.timeNow ∧
      (speedBelow s).speedExd.currentMaxSpd = s.speedExd.currentMaxSpd := by
  simp [speedBelow, hstatus]
  exact ⟨rfl, rfl, rfl, rfl⟩

theorem speedBelow_waiting (hstatus : s.speedExd.excdStatus = 2) :
    OnlySpeed s (speedBelow s) ∧
      (speedBelow s).speedExd = s.speedExd := by
  simp [speedBelow, hstatus]
  exact ⟨rfl, rfl, rfl, rfl⟩

/-- Unless a record waits, the counter is set back when a run ends. -/
theorem durSeconds_below (hstatus : s.speedExd.excdStatus ≠ 2) :
    (speedBelow s).speedExd.durSeconds = 0 := by
  simp only [speedBelow, if_pos hstatus]
  split
  · rfl
  · split <;> rfl

theorem records_spdExpWr :
    (spdExpWr s).records .spdWarn = s.records .spdWarn ++
      [spdWarnContent s.driverCardId s.speedExd.exStartTime
        s.speedExd.exEndTime s.speedExd.currentMaxSpd] :=
  records_of_written (spdExpWr_written s) .spdWarn

/-- The settings are left by `Spd_Exp_Wr`. -/
theorem spdExpWr_settings :
    (spdExpWr s).speedWarnMax = s.speedWarnMax ∧
      (spdExpWr s).spdExdLimitSeconds = s.spdExdLimitSeconds ∧
      (spdExpWr s).driverCardId = s.driverCardId := by
  simp only [spdExpWr, DriveState.directoryWrite, and_self]

theorem spdExpWr_excdStatus : (spdExpWr s).speedExd.excdStatus = 0 := rfl

theorem spdExpWr_currentMaxSpd : (spdExpWr s).speedExd.currentMaxSpd = 0 := rfl

theorem spdExpWr_durSeconds : (spdExpWr s).speedExd.durSeconds = 0 := rfl

/-- The settings and the over-speed data are left. -/
structure LeavesSpeed (s s' : DriveState) : Prop where
  speedWarnMax : s'.speedWarnMax = s.speedWarnMax
  limitSeconds : s'.spdExdLimitSeconds = s.spdExdLimitSeconds
  card : s'.driverCardId = s.driverCardId
  speedExd : s'.speedExd = s.speedExd
  records : s'.records .spdWarn = s.records .spdWarn

theorem LeavesSpeed.trans {s s' s'' : DriveState} (h : LeavesSpeed s s')
    (h' : LeavesSpeed s' s'') : LeavesSpeed s s'' :=
  ⟨h'.speedWarnMax.trans h.speedWarnMax, h'.limitSeconds.trans h.limitSeconds,
    h'.card.trans h.card, h'.speedExd.trans h.speedExd,
    h'.records.trans h.records⟩

theorem saveMileage_leaves : LeavesSpeed s (saveMileage s) := by
  rw [saveMileage]
  split <;> exact ⟨rfl, rfl, rfl, rfl, rfl⟩

theorem saveStatus_leaves : LeavesSpeed s (saveStatus s) := by
  obtain ⟨content, hwritten⟩ := saveStatus_written s
  have hrecords := records_of_written_of_ne hwritten
    (show DirectoryName.doubtData ≠ .spdWarn from nofun)
  refine ⟨?_, ?_, ?_, ?_, hrecords⟩ <;>
    simp only [saveStatus, DriveState.directoryWrite]

theorem saveAvrgSpdPerMin_leaves : LeavesSpeed s (saveAvrgSpdPerMin s) := by
  have hrecords := records_of_written_of_ne (saveAvrgSpdPerMin_written s)
    (show DirectoryName.spdpermin ≠ .spdWarn from nofun)
  refine ⟨?_, ?_, ?_, ?_, hrecords⟩ <;>
    simp only [saveAvrgSpdPerMin, DriveState.directoryWrite]

theorem saveTiredDriveRecord_leaves :
    LeavesSpeed s (saveTiredDriveRecord s) := by
  obtain ⟨content, hwritten⟩ := saveTiredDriveRecord_written s
  have hrecords := records_of_written_of_ne hwritten
    (show DirectoryName.tiredWarn ≠ .spdWarn from nofun)
  refine ⟨?_, ?_, ?_, ?_, hrecords⟩ <;>
    simp only [saveTiredDriveRecord, DriveState.directoryWrite]

/-- A save writes the record that waits when nothing holds it back, and does not
touch it otherwise. -/
theorem driveStep_save_cases (c : SaveCall) (avrg : AvrgMintSpeed) :
    (LeavesSpeed s (driveStep s (.save c avrg)) ∧
        ¬ (c.Reaches avrg ∧ s.speedExd.excdStatus = 2)) ∨
      ((c.Reaches avrg ∧ s.speedExd.excdStatus = 2) ∧
        driveStep s (.save c avrg) =
          spdExpWr { c.prepare s with avrg := avrg }) := by
  have hleft : LeavesSpeed s { c.prepare s with avrg := avrg } :=
    ⟨rfl, rfl, rfl, rfl, rfl⟩
  rw [driveStep, jt808RelatedSaveProcess]
  split_ifs with hlock hcmd hdoubt havrg htired hstatus
  · exact Or.inl ⟨hleft, fun hsave => hlock hsave.1.1.1⟩
  · exact Or.inl ⟨hleft.trans (saveMileage_leaves _),
      fun hsave => hsave.1.1.2.1 hcmd⟩
  · have h := saveStatus_leaves
      { c.prepare s with avrg := avrg, timeNow := c.rtc }
    refine Or.inl ⟨?_, fun hsave => hsave.1.1.2.2 hdoubt⟩
    exact ⟨h.speedWarnMax, h.limitSeconds, h.card, h.speedExd, h.records⟩
  · have h := saveAvrgSpdPerMin_leaves { c.prepare s with avrg := avrg }
    refine Or.inl ⟨?_, fun hsave => hsave.1.2.1 havrg⟩
    exact ⟨h.speedWarnMax, h.limitSeconds, h.card, h.speedExd, h.records⟩
  · exact Or.inl ⟨hleft.trans (saveTiredDriveRecord_leaves _),
      fun hsave => hsave.1.2.2 htired⟩
  · exact Or.inr ⟨⟨⟨⟨not_not.mp hlock, hcmd, hdoubt⟩, havrg, htired⟩,
      hstatus⟩, rfl⟩
  · exact Or.inl ⟨hleft.trans (saveMileage_leaves _),
      fun hsave => hstatus hsave.2⟩

end Calls

/-! ## The episodes so far -/

section Tracks

variable (limit dur : ℕ) (card : Vector UInt8 18)

/-- The run that is still open. -/
def openRun (xs : List Second) : List Second := (scan (Above limit) xs).opened

variable {limit dur card}

theorem topSpeed_concat (xs : List Second) (x : Second) :
    topSpeed (xs ++ [x]) = max (topSpeed xs) x.gpsSpeed.toNat := by
  rw [topSpeed, List.foldl_append]
  rfl

theorem openRun_above {xs : List Second} {x : Second} (h : Above limit x) :
    openRun limit (xs ++ [x]) = openRun limit xs ++ [x] := by
  rw [openRun, scan_concat, Scan.push_of_pos h, openRun]

theorem episodes_above {xs : List Second} {x : Second} (h : Above limit x) :
    episodes limit dur (xs ++ [x]) = episodes limit dur xs := by
  rw [episodes, scan_concat, Scan.push_of_pos h, episodes]

theorem openRun_below {xs : List Second} {x : Second} (h : ¬ Above limit x) :
    openRun limit (xs ++ [x]) = [] := by
  rw [openRun, scan_concat, Scan.push_of_neg h]

/-- The second that ends a run reports it if it was long enough. -/
theorem episodes_below {xs : List Second} {x : Second} (h : ¬ Above limit x) :
    episodes limit dur (xs ++ [x]) =
      episodes limit dur xs ++ (episode dur (openRun limit xs, x)).toList := by
  rw [episodes, scan_concat, Scan.push_of_neg h, List.filterMap_append]
  rw [← openRun, ← episodes]
  cases h : episode dur (openRun limit xs, x) <;> simp [h]

theorem episode_short {run : List Second} {x : Second}
    (h : run.length ≤ dur) : episode dur (run, x) = none := by
  rw [episode, List.getElem?_eq_none h]
  rfl

variable (limit dur card)

/-- The code has kept up with the seconds: no episode while the open run is
short, its start and its highest speed while it is long, and no long run while
a record waits. -/
structure Tracks (s : DriveState) (xs : List Second) : Prop where
  speedWarnMax : s.speedWarnMax = limit
  limitSeconds : s.spdExdLimitSeconds = dur
  driverCardId : s.driverCardId = card
  reports : ReportsEpisodes limit dur card s xs
  status : s.speedExd.excdStatus ≤ 2
  idle : s.speedExd.excdStatus = 0 →
    (openRun limit xs).length ≤ dur ∧ s.speedExd.currentMaxSpd = 0
  running : s.speedExd.excdStatus = 1 →
    ∃ x, (openRun limit xs)[dur]? = some x ∧
      s.speedExd.exStartTime = time2BCD x.timeNow ∧
      s.speedExd.currentMaxSpd = topSpeed ((openRun limit xs).drop dur) ∧
      s.speedExd.currentMaxSpd / 10 < 256
  waiting : s.speedExd.excdStatus = 2 → (openRun limit xs).length ≤ dur

/-- The counter follows the run: it has counted the seconds of a short run,
unless a record was saved in it, two for each of a long one, and those above the
limit since a record waits. -/
structure Counted (w : Watch) (s : DriveState) (xs : List Second) : Prop where
  run : w.run = (openRun limit xs).length
  idle : s.speedExd.excdStatus = 0 → w.waits = false ∧
    s.speedExd.durSeconds ≤ w.run ∧
      (w.mixed = false → s.speedExd.durSeconds = w.run)
  running : s.speedExd.excdStatus = 1 → w.waits = false ∧ w.mixed = false ∧
    s.speedExd.durSeconds = 2 * (w.run - dur)
  waiting : s.speedExd.excdStatus = 2 → w.waits = true ∧
    s.speedExd.durSeconds = w.waited ∧ w.run ≤ w.waited

end Tracks

section Keeps

variable {limit dur : ℕ} {card : Vector UInt8 18} {s s' : DriveState}
  {xs : List Second} {x : Second}

theorem pending_of_ne (h : s.speedExd.excdStatus ≠ 2) : pending s = [] :=
  if_neg h

theorem pending_of_eq (h : s.speedExd.excdStatus = 2) :
    pending s = [spdWarnContent s.driverCardId s.speedExd.exStartTime
      s.speedExd.exEndTime s.speedExd.currentMaxSpd] := if_pos h

theorem OnlySpeed.records (h : OnlySpeed s s') (name : DirectoryName) :
    s'.records name = s.records name := by
  rw [DriveState.records, DriveState.records, h.written]

/-- No record comes in and none goes. -/
theorem ReportsEpisodes.of_eq (h : ReportsEpisodes limit dur card s xs)
    {ys : List Second} (hrecords : s'.records .spdWarn = s.records .spdWarn)
    (hpending : pending s' = pending s)
    (hepisodes : episodes limit dur ys = episodes limit dur xs) :
    ReportsEpisodes limit dur card s' ys := by
  constructor
  · rw [hrecords, hpending, hepisodes]
    exact h.records
  · rw [hepisodes]
    exact h.speed

theorem pending_congr_of_ne (h : s.speedExd.excdStatus ≠ 2)
    (h' : s'.speedExd.excdStatus ≠ 2) : pending s' = pending s := by
  rw [pending_of_ne h, pending_of_ne h']

theorem Tracks.status_cases (h : Tracks limit dur card s xs) :
    s.speedExd.excdStatus = 0 ∨ s.speedExd.excdStatus = 1 ∨
      s.speedExd.excdStatus = 2 := by
  have hle := h.status
  omega

/-- The second at which a run exceeds the limit duration. -/
theorem Tracks.begin (h : Tracks limit dur card s xs) (hx : Above limit x)
    (htime : s.timeNow = x.timeNow) (hspeed : s.gpsSpeed = x.gpsSpeed.toNat)
    (hstatus : s.speedExd.excdStatus = 0)
    (hlong : dur < (openRun limit xs).length + 1)
    (hcounter : dur < u32 (s.speedExd.durSeconds + 1))
    (hfits : x.gpsSpeed.toNat < 2560) :
    Tracks limit dur card (speedAbove s) (xs ++ [x]) := by
  obtain ⟨hframe, hone, hstart, hmax⟩ :=
    speedAbove_exceeds s (by rw [h.limitSeconds]; exact hcounter)
  obtain ⟨hshort, hzero⟩ := h.idle hstatus
  have hlen : (openRun limit xs).length = dur := by omega
  refine ⟨hframe.speedWarnMax.trans h.speedWarnMax,
    hframe.limitSeconds.trans h.limitSeconds, hframe.card.trans h.driverCardId,
    ?_, by omega, by omega, fun _ => ?_, by omega⟩
  · exact h.reports.of_eq (hframe.records _)
      (pending_congr_of_ne (by omega) (by omega)) (episodes_above hx)
  · have hmax' : (speedAbove s).speedExd.currentMaxSpd = x.gpsSpeed.toNat := by
      rw [hmax, hzero, hspeed, Nat.zero_max]
    have hdrop : (openRun limit xs ++ [x]).drop dur = [x] := by
      rw [List.drop_append_of_le_length hlen.ge, List.drop_of_length_le hlen.le,
        List.nil_append]
    refine ⟨x, ?_, by rw [hstart, htime], ?_, by omega⟩
    · rw [openRun_above hx, List.getElem?_append_right hlen.le, hlen,
        Nat.sub_self]
      rfl
    · rw [openRun_above hx, hdrop, hmax']
      exact (Nat.zero_max _).symm

/-- A later second of the episode. -/
theorem Tracks.goOn (h : Tracks limit dur card s xs) (hx : Above limit x)
    (hspeed : s.gpsSpeed = x.gpsSpeed.toNat)
    (hstatus : s.speedExd.excdStatus = 1)
    (hcounter : u32 (s.speedExd.durSeconds + 1) ≤ dur)
    (hfits : x.gpsSpeed.toNat < 2560) :
    Tracks limit dur card (speedAbove s) (xs ++ [x]) := by
  obtain ⟨hframe, hone, hstart, hmax⟩ :=
    speedAbove_running s (by rw [h.limitSeconds]; exact hcounter) hstatus
  obtain ⟨first, hfirst, htime, htop, hbyte⟩ := h.running hstatus
  have hlen : dur < (openRun limit xs).length :=
    (List.getElem?_eq_some_iff.mp hfirst).1
  refine ⟨hframe.speedWarnMax.trans h.speedWarnMax,
    hframe.limitSeconds.trans h.limitSeconds, hframe.card.trans h.driverCardId,
    ?_, by omega, by omega, fun _ => ⟨first, ?_, ?_, ?_, ?_⟩, by omega⟩
  · exact h.reports.of_eq (hframe.records _)
      (pending_congr_of_ne (by omega) (by omega)) (episodes_above hx)
  · rw [openRun_above hx, List.getElem?_append_left hlen, hfirst]
  · rw [hstart, htime]
  · rw [openRun_above hx, List.drop_append_of_le_length hlen.le,
      topSpeed_concat, hmax, htop, hspeed]
  · rw [hmax, hspeed]
    omega

/-- A second that only counts. -/
theorem Tracks.count (h : Tracks limit dur card s xs) (hx : Above limit x)
    (hstatus : s.speedExd.excdStatus ≠ 1)
    (hcounter : u32 (s.speedExd.durSeconds + 1) ≤ dur)
    (hshort : (openRun limit xs).length + 1 ≤ dur) :
    Tracks limit dur card (speedAbove s) (xs ++ [x]) := by
  have hlen : (openRun limit (xs ++ [x])).length ≤ dur := by
    rw [openRun_above hx, List.length_append]
    exact hshort
  rw [speedAbove_counting s (by rw [h.limitSeconds]; exact hcounter) hstatus]
  exact ⟨h.speedWarnMax, h.limitSeconds, h.driverCardId,
    h.reports.of_eq rfl rfl (episodes_above hx), h.status,
    fun hzero => ⟨hlen, (h.idle hzero).2⟩,
    fun hone => absurd hone hstatus, fun _ => hlen⟩

theorem length_openRun_above (hx : Above limit x) :
    (openRun limit (xs ++ [x])).length = (openRun limit xs).length + 1 := by
  rw [openRun_above hx, List.length_append, List.length_singleton]

variable {w : Watch}

theorem Watch.next_above (w : Watch) (hx : Above limit x) :
    w.next limit dur (.second x) =
      { w with
        run := w.run + 1
        waited := if w.waits then w.waited + 1 else w.waited } := if_pos hx

/-- Without an episode the counter passes the limit duration exactly when the run
does. -/
theorem Tracks.above_idle (h : Tracks limit dur card s xs)
    (hcounted : Counted limit dur w s xs) (hdur : dur < 4294967296)
    (hx : Above limit x) (htime : s.timeNow = x.timeNow)
    (hspeed : s.gpsSpeed = x.gpsSpeed.toNat)
    (hright : w.Right limit dur (.second x))
    (hzero : s.speedExd.excdStatus = 0) :
    Tracks limit dur card (speedAbove s) (xs ++ [x]) ∧
      Counted limit dur (w.next limit dur (.second x)) (speedAbove s)
        (xs ++ [x]) := by
  obtain ⟨hfits, hroom⟩ := hright.2 hx
  have hrun := hcounted.run
  have hlen : (openRun limit (xs ++ [x])).length =
      (openRun limit xs).length + 1 := length_openRun_above hx
  obtain ⟨hwaits, hle, hsame⟩ := hcounted.idle hzero
  rw [if_neg (by rw [hwaits]; decide)] at hroom
  rw [w.next_above hx]
  by_cases hlong : dur < (openRun limit xs).length + 1
  · have hplain : w.mixed = false := by
      by_contra hmixed
      rw [if_pos (by simpa using hmixed)] at hroom
      omega
    have hcount := hsame hplain
    have hshort := (h.idle hzero).1
    obtain ⟨hbyte, hwide⟩ := hfits (by omega)
    have hcounter : dur < u32 (s.speedExd.durSeconds + 1) := by
      rw [u32, Nat.mod_eq_of_lt (by omega)]
      omega
    have hexceeds : s.spdExdLimitSeconds <
        u32 (s.speedExd.durSeconds + 1) := by
      rw [h.limitSeconds]
      exact hcounter
    have hone := (speedAbove_exceeds s hexceeds).2.1
    have htwo := durSeconds_exceeds s hexceeds
    refine ⟨h.begin hx htime hspeed hzero hlong hcounter hbyte, ?_⟩
    refine ⟨?_, by omega, fun _ => ⟨hwaits, hplain, ?_⟩, by omega⟩
    · rw [hlen, hrun]
    · dsimp only
      omega
  · have hcounter : u32 (s.speedExd.durSeconds + 1) =
        s.speedExd.durSeconds + 1 := Nat.mod_eq_of_lt (by omega)
    refine ⟨h.count hx (by omega) (by omega) (by omega), ?_⟩
    rw [speedAbove_counting s (by rw [h.limitSeconds]; omega) (by omega),
      hcounter]
    refine ⟨?_, fun _ => ⟨hwaits, ?_, fun hplain => ?_⟩, ?_, ?_⟩
    · rw [hlen, hrun]
    · exact Nat.succ_le_succ hle
    · exact congrArg (· + 1) (hsame hplain)
    · exact fun hone => absurd (hzero.symm.trans hone) (by decide)
    · exact fun htwo => absurd (hzero.symm.trans htwo) (by decide)

/-- In an episode the counter does not pass the limit duration again. -/
theorem Tracks.above_running (h : Tracks limit dur card s xs)
    (hcounted : Counted limit dur w s xs) (hx : Above limit x)
    (hspeed : s.gpsSpeed = x.gpsSpeed.toNat)
    (hright : w.Right limit dur (.second x))
    (hone : s.speedExd.excdStatus = 1) :
    Tracks limit dur card (speedAbove s) (xs ++ [x]) ∧
      Counted limit dur (w.next limit dur (.second x)) (speedAbove s)
        (xs ++ [x]) := by
  obtain ⟨hfits, hroom⟩ := hright.2 hx
  have hrun := hcounted.run
  have hlen : (openRun limit (xs ++ [x])).length =
      (openRun limit xs).length + 1 := length_openRun_above hx
  obtain ⟨hwaits, hplain, hcount⟩ := hcounted.running hone
  rw [if_neg (by rw [hwaits]; decide), if_neg (by rw [hplain]; decide)] at hroom
  rw [w.next_above hx]
  obtain ⟨first, hfirst, -⟩ := h.running hone
  have hlong := (List.getElem?_eq_some_iff.mp hfirst).1
  obtain ⟨hbyte, hwide⟩ := hfits (by omega)
  have heq : u32 (s.speedExd.durSeconds + 1) = s.speedExd.durSeconds + 1 :=
    Nat.mod_eq_of_lt (by omega)
  have hcounter : u32 (s.speedExd.durSeconds + 1) ≤ dur := by omega
  have hlimit : u32 (s.speedExd.durSeconds + 1) ≤ s.spdExdLimitSeconds := by
    rw [h.limitSeconds]
    exact hcounter
  have hstill := (speedAbove_running s hlimit hone).2.1
  have htwice := durSeconds_running s hlimit hone
  rw [heq, u32, Nat.mod_eq_of_lt (by omega)] at htwice
  refine ⟨h.goOn hx hspeed hone hcounter hbyte, ?_⟩
  refine ⟨?_, by omega, fun _ => ⟨hwaits, hplain, ?_⟩, by omega⟩
  · rw [hlen, hrun]
  · dsimp only
    omega

/-- While a record waits the counter does not pass the limit duration. -/
theorem Tracks.above_waiting (h : Tracks limit dur card s xs)
    (hcounted : Counted limit dur w s xs) (hdur : dur < 4294967296)
    (hx : Above limit x) (hright : w.Right limit dur (.second x))
    (htwo : s.speedExd.excdStatus = 2) :
    Tracks limit dur card (speedAbove s) (xs ++ [x]) ∧
      Counted limit dur (w.next limit dur (.second x)) (speedAbove s)
        (xs ++ [x]) := by
  obtain ⟨-, hroom⟩ := hright.2 hx
  have hrun := hcounted.run
  have hlen : (openRun limit (xs ++ [x])).length =
      (openRun limit xs).length + 1 := length_openRun_above hx
  obtain ⟨hwaits, hcount, hle⟩ := hcounted.waiting htwo
  rw [if_pos hwaits] at hroom
  have hcounter : u32 (s.speedExd.durSeconds + 1) =
      s.speedExd.durSeconds + 1 := Nat.mod_eq_of_lt (by omega)
  refine ⟨h.count hx (by omega) (by omega) (by omega), ?_⟩
  rw [w.next_above hx,
    speedAbove_counting s (by rw [h.limitSeconds]; omega) (by omega),
    hcounter, if_pos hwaits]
  refine ⟨?_, ?_, ?_, fun _ => ⟨hwaits, ?_, Nat.succ_le_succ hle⟩⟩
  · rw [hlen, hrun]
  · exact fun hzero => absurd (htwo.symm.trans hzero) (by decide)
  · exact fun hone => absurd (htwo.symm.trans hone) (by decide)
  · exact congrArg (· + 1) hcount

/-- A second above the limit. -/
theorem Tracks.above (h : Tracks limit dur card s xs)
    (hcounted : Counted limit dur w s xs) (hdur : dur < 4294967296)
    (hx : Above limit x) (htime : s.timeNow = x.timeNow)
    (hspeed : s.gpsSpeed = x.gpsSpeed.toNat)
    (hright : w.Right limit dur (.second x)) :
    Tracks limit dur card (speedAbove s) (xs ++ [x]) ∧
      Counted limit dur (w.next limit dur (.second x)) (speedAbove s)
        (xs ++ [x]) := by
  rcases h.status_cases with hzero | hone | htwo
  · exact h.above_idle hcounted hdur hx htime hspeed hright hzero
  · exact h.above_running hcounted hx hspeed hright hone
  · exact h.above_waiting hcounted hdur hx hright htwo

theorem openRun_below_le (hx : ¬ Above limit x) (dur : ℕ) :
    (openRun limit (xs ++ [x])).length ≤ dur := by
  rw [openRun_below hx]
  exact Nat.zero_le _

/-- A run that is too short ends without an episode. -/
theorem episodes_below_short (hx : ¬ Above limit x)
    (hshort : (openRun limit xs).length ≤ dur) :
    episodes limit dur (xs ++ [x]) = episodes limit dur xs := by
  rw [episodes_below hx, episode_short hshort]
  exact List.append_nil _

/-- The end of a run that was no episode. -/
theorem Tracks.stay (h : Tracks limit dur card s xs) (hx : ¬ Above limit x)
    (hstatus : s.speedExd.excdStatus = 0) :
    Tracks limit dur card (speedBelow s) (xs ++ [x]) := by
  obtain ⟨hframe, hstill, hmax⟩ := speedBelow_idle s hstatus
  refine ⟨hframe.speedWarnMax.trans h.speedWarnMax,
    hframe.limitSeconds.trans h.limitSeconds, hframe.card.trans h.driverCardId,
    ?_, by omega, fun _ => ⟨openRun_below_le hx dur, hmax⟩, by omega, by omega⟩
  exact h.reports.of_eq (hframe.records _)
    (pending_congr_of_ne (by omega) (by omega))
    (episodes_below_short hx (h.idle hstatus).1)

/-- The end of an episode: its record waits to be written. -/
theorem Tracks.finish (h : Tracks limit dur card s xs) (hx : ¬ Above limit x)
    (htime : s.timeNow = x.timeNow) (hstatus : s.speedExd.excdStatus = 1) :
    Tracks limit dur card (speedBelow s) (xs ++ [x]) := by
  obtain ⟨hframe, htwo, hstart, hend, hmax⟩ := speedBelow_running s hstatus
  obtain ⟨first, hfirst, hbegan, htop, hbyte⟩ := h.running hstatus
  have hepisode : episode dur (openRun limit xs, x) = some ⟨first.timeNow,
      x.timeNow, topSpeed ((openRun limit xs).drop dur)⟩ := by
    rw [episode, hfirst]
    rfl
  refine ⟨hframe.speedWarnMax.trans h.speedWarnMax,
    hframe.limitSeconds.trans h.limitSeconds, hframe.card.trans h.driverCardId,
    ⟨?_, ?_⟩, by omega, by omega, by omega, fun _ => openRun_below_le hx dur⟩
  · have hprev := h.reports.records
    rw [pending_of_ne (by omega), List.append_nil] at hprev
    rw [hframe.records, hprev, pending_of_eq htwo, episodes_below hx, hepisode,
      List.map_append, hframe.card, h.driverCardId, hstart, hbegan, hend,
      htime, hmax, htop]
    rfl
  · intro e he
    rw [episodes_below hx, hepisode] at he
    rcases List.mem_append.mp he with he | he
    · exact h.reports.speed e he
    · rw [Option.toList_some, List.mem_singleton] at he
      rw [he, ← htop]
      exact hbyte

/-- The end of a run while a record waits. -/
theorem Tracks.wait (h : Tracks limit dur card s xs) (hx : ¬ Above limit x)
    (hstatus : s.speedExd.excdStatus = 2) :
    Tracks limit dur card (speedBelow s) (xs ++ [x]) := by
  obtain ⟨hframe, hstill⟩ := speedBelow_waiting s hstatus
  refine ⟨hframe.speedWarnMax.trans h.speedWarnMax,
    hframe.limitSeconds.trans h.limitSeconds, hframe.card.trans h.driverCardId,
    ?_, ?_, ?_, ?_, fun _ => openRun_below_le hx dur⟩
  · refine h.reports.of_eq (hframe.records _) ?_
      (episodes_below_short hx (h.waiting hstatus))
    rw [pending, pending, hstill, hframe.card]
  · rw [hstill]
    exact h.status
  · rw [hstill]
    omega
  · rw [hstill]
    omega

/-- The second that ends a run. -/
theorem Tracks.below (h : Tracks limit dur card s xs) (hx : ¬ Above limit x)
    (htime : s.timeNow = x.timeNow) :
    Tracks limit dur card (speedBelow s) (xs ++ [x]) := by
  rcases h.status_cases with hzero | hone | htwo
  · exact h.stay hx hzero
  · exact h.finish hx htime hone
  · exact h.wait hx htwo

theorem Counted.below (hcounted : Counted limit dur w s xs)
    (h : Tracks limit dur card s xs) (hx : ¬ Above limit x) :
    Counted limit dur (w.next limit dur (.second x)) (speedBelow s)
      (xs ++ [x]) := by
  have hrun := hcounted.run
  have hnone : (openRun limit (xs ++ [x])).length = 0 := by
    rw [openRun_below hx, List.length_nil]
  rw [Watch.next, if_neg hx]
  rcases h.status_cases with hzero | hone | htwo
  · have hidle := (speedBelow_idle s hzero).2.1
    have hback := durSeconds_below s (by omega)
    rw [if_pos (by rw [hrun]; exact (h.idle hzero).1)]
    refine ⟨hnone.symm, fun _ => ⟨(hcounted.idle hzero).1, hback.le,
      fun _ => hback⟩, by omega, by omega⟩
  · have hwait := (speedBelow_running s hone).2.1
    have hback := durSeconds_below s (by omega)
    obtain ⟨first, hfirst, -⟩ := h.running hone
    have hlong := (List.getElem?_eq_some_iff.mp hfirst).1
    rw [if_neg (by omega)]
    refine ⟨hnone.symm, by omega, by omega, fun _ => ⟨rfl, hback,
      Nat.zero_le _⟩⟩
  · obtain ⟨hwaits, hcount, -⟩ := hcounted.waiting htwo
    have hstill := (speedBelow_waiting s htwo).2
    rw [if_pos (by rw [hrun]; exact h.waiting htwo)]
    refine ⟨hnone.symm, ?_, ?_, fun _ => ⟨hwaits, ?_, Nat.zero_le _⟩⟩
    · rw [hstill]
      omega
    · rw [hstill]
      omega
    · rw [hstill]
      exact hcount

theorem Tracks.of_leaves (h : Tracks limit dur card s xs)
    (hs : LeavesSpeed s s') : Tracks limit dur card s' xs := by
  refine ⟨hs.speedWarnMax.trans h.speedWarnMax,
    hs.limitSeconds.trans h.limitSeconds, hs.card.trans h.driverCardId,
    h.reports.of_eq hs.records ?_ rfl, ?_, ?_, ?_, ?_⟩
  · rw [pending, pending, hs.speedExd, hs.card]
  · rw [hs.speedExd]
    exact h.status
  · rw [hs.speedExd]
    exact h.idle
  · rw [hs.speedExd]
    exact h.running
  · rw [hs.speedExd]
    exact h.waiting

/-- The record that waits is written. -/
theorem Tracks.write (h : Tracks limit dur card s xs)
    (hstatus : s.speedExd.excdStatus = 2) :
    Tracks limit dur card (spdExpWr s) xs := by
  have hrecords := h.reports.records
  have hidle := spdExpWr_excdStatus s
  obtain ⟨hlimit, hdur, hcard⟩ := spdExpWr_settings s
  rw [pending_of_eq hstatus] at hrecords
  refine ⟨hlimit.trans h.speedWarnMax, hdur.trans h.limitSeconds,
    hcard.trans h.driverCardId, ⟨?_, h.reports.speed⟩, by omega,
    fun _ => ⟨h.waiting hstatus, spdExpWr_currentMaxSpd s⟩, by omega, by omega⟩
  rw [records_spdExpWr, pending_of_ne (by omega), List.append_nil]
  exact hrecords

theorem Counted.of_leaves (hcounted : Counted limit dur w s xs)
    (hs : LeavesSpeed s s') : Counted limit dur w s' xs := by
  refine ⟨hcounted.run, ?_, ?_, ?_⟩
  · rw [hs.speedExd]
    exact hcounted.idle
  · rw [hs.speedExd]
    exact hcounted.running
  · rw [hs.speedExd]
    exact hcounted.waiting

/-- A save keeps up with the calls. -/
theorem Tracks.save (h : Tracks limit dur card s xs)
    (hcounted : Counted limit dur w s xs) (c : SaveCall)
    (avrg : AvrgMintSpeed) :
    Tracks limit dur card (driveStep s (.save c avrg)) xs ∧
      Counted limit dur (w.next limit dur (.save c avrg))
        (driveStep s (.save c avrg)) xs := by
  rcases driveStep_save_cases s c avrg with ⟨hleaves, hheld⟩ | ⟨hsaves, hwrite⟩
  · have hstays : ¬ (c.Reaches avrg ∧ w.waits) := by
      rintro ⟨hreaches, hwaits⟩
      rcases h.status_cases with hzero | hone | htwo
      · rw [(hcounted.idle hzero).1] at hwaits
        exact absurd hwaits (by decide)
      · rw [(hcounted.running hone).1] at hwaits
        exact absurd hwaits (by decide)
      · exact hheld ⟨hreaches, htwo⟩
    rw [Watch.next, if_neg hstays]
    exact ⟨h.of_leaves hleaves, hcounted.of_leaves hleaves⟩
  · obtain ⟨hwaits, -⟩ := hcounted.waiting hsaves.2
    have hprepared : LeavesSpeed s { c.prepare s with avrg := avrg } :=
      ⟨rfl, rfl, rfl, rfl, rfl⟩
    have hidle := spdExpWr_excdStatus { c.prepare s with avrg := avrg }
    have hback := spdExpWr_durSeconds { c.prepare s with avrg := avrg }
    rw [hwrite, Watch.next, if_pos ⟨hsaves.1, hwaits⟩]
    refine ⟨(h.of_leaves hprepared).write hsaves.2, hcounted.run,
      fun _ => ⟨rfl, ?_, fun hplain => ?_⟩, by omega, by omega⟩
    · rw [hback]
      exact Nat.zero_le _
    · have hnone : ¬ 0 < w.run := by simpa using hplain
      rw [hback]
      dsimp only
      omega

/-- A second keeps up with the calls. -/
theorem Tracks.second (h : Tracks limit dur card s xs)
    (hcounted : Counted limit dur w s xs) (hlimit : 0 < limit)
    (hdur : dur < 4294967296) (hright : w.Right limit dur (.second x)) :
    Tracks limit dur card (driveStep s (.second x)) (xs ++ [x]) ∧
      Counted limit dur (w.next limit dur (.second x))
        (driveStep s (.second x)) (xs ++ [x]) := by
  have hleaves : LeavesSpeed s { s with
      timeNow := x.timeNow
      gpsSpeed := x.gpsSpeed.toNat } := ⟨rfl, rfl, rfl, rfl, rfl⟩
  have h' := h.of_leaves hleaves
  have hcounted' := hcounted.of_leaves hleaves
  have hfits := hright.1
  rw [← h.speedWarnMax] at hlimit
  simp only [driveStep, speedWarnJudge, if_pos hlimit]
  by_cases hx : Above limit x
  · have hover : x.gpsSpeed.toNat > u32 (s.speedWarnMax * 10) := by
      rw [h.speedWarnMax]
      exact Nat.lt_of_le_of_lt (Nat.mod_le _ _) hx
    rw [if_pos hover]
    exact h'.above hcounted' hdur hx rfl rfl hright
  · have hunder : ¬ x.gpsSpeed.toNat > u32 (s.speedWarnMax * 10) := by
      rw [h.speedWarnMax]
      exact mt hfits hx
    rw [if_neg hunder]
    exact ⟨h'.below hx rfl, hcounted'.below h' hx⟩

end Keeps

/-! ## Runs -/

/-- The seconds among the calls. -/
def seconds (es : List DriveEvent) : List Second :=
  es.filterMap fun
    | .second x => some x
    | .save _ _ => none

/-- No episode and no record of one, and nothing counted. -/
structure NoEpisode (s : DriveState) : Prop where
  status : s.speedExd.excdStatus = 0
  durSeconds : s.speedExd.durSeconds = 0
  maxSpd : s.speedExd.currentMaxSpd = 0
  records : s.records .spdWarn = []

theorem NoEpisode.tracks {s : DriveState} (h : NoEpisode s) :
    Tracks s.speedWarnMax s.spdExdLimitSeconds s.driverCardId s [] := by
  refine ⟨rfl, rfl, rfl, ⟨?_, nofun⟩, by rw [h.status]; decide,
    fun _ => ⟨Nat.zero_le _, h.maxSpd⟩, ?_, fun _ => Nat.zero_le _⟩
  · have hstatus := h.status
    rw [pending_of_ne (by omega), h.records]
    rfl
  · intro hone
    rw [h.status] at hone
    exact absurd hone (by decide)

theorem NoEpisode.counted {s : DriveState} (h : NoEpisode s) :
    Counted s.speedWarnMax s.spdExdLimitSeconds {} s [] where
  run := rfl
  idle := fun _ => ⟨rfl, h.durSeconds.le, fun _ => h.durSeconds⟩
  running := fun hone => absurd (h.status.symm.trans hone) (by decide)
  waiting := fun htwo => absurd (h.status.symm.trans htwo) (by decide)

/-- The code keeps up with a run whose calls meet the condition. -/
theorem Tracks.run {limit dur : ℕ} {card : Vector UInt8 18} (hlimit : 0 < limit)
    (hdur : dur < 4294967296) {es : List DriveEvent} {w : Watch}
    {s : DriveState} {xs : List Second} (h : Tracks limit dur card s xs)
    (hcounted : Counted limit dur w s xs)
    (hmeets : Meeting (Watch.next limit dur) (Watch.Right limit dur) w es) :
    Tracks limit dur card (es.foldl driveStep s) (xs ++ seconds es) := by
  induction es generalizing w s xs with
  | nil =>
      rw [seconds, List.filterMap_nil, List.append_nil]
      exact h
  | cons e es ih =>
      rw [List.foldl_cons]
      cases e with
      | second x =>
          have hseconds : seconds (.second x :: es) = [x] ++ seconds es := rfl
          obtain ⟨hnext, hcounts⟩ := h.second hcounted hlimit hdur hmeets.1
          rw [hseconds, ← List.append_assoc]
          exact ih hnext hcounts hmeets.2
      | save c avrg =>
          have hseconds : seconds (.save c avrg :: es) = seconds es := rfl
          obtain ⟨hnext, hcounts⟩ := h.save hcounted c avrg
          rw [hseconds]
          exact ih hnext hcounts hmeets.2

/-- In a run whose seconds meet the condition, saves coming at any time and
meeting anything the other functions leave, the records are those of the
episodes wherever the run has got to. -/
theorem reportsEpisodes_of_meeting (s : DriveState) (hs : NoEpisode s)
    (hlimit : 0 < s.speedWarnMax) (hdur : s.spdExdLimitSeconds < 4294967296)
    (es : List DriveEvent)
    (h : Meeting (Watch.next s.speedWarnMax s.spdExdLimitSeconds)
      (Watch.Right s.speedWarnMax s.spdExdLimitSeconds) {} es) :
    ∀ es₁, es₁ <+: es →
      ReportsEpisodes s.speedWarnMax s.spdExdLimitSeconds s.driverCardId
        (es₁.foldl driveStep s) (seconds es₁) := by
  intro es₁ hpre
  have htracks :=
    hs.tracks.run hlimit hdur hs.counted (h.of_prefix hpre)
  rw [List.nil_append] at htracks
  exact htracks.reports

/-- A second of a minute. -/
def secondAt (sec : ℕ) (speed : UInt16) : DriveEvent :=
  .second ⟨⟨23, 11, 1, 8, 30, sec, by decide, by decide, by decide⟩, speed⟩

/-- A save with nothing else to save. -/
def plainSave : DriveEvent :=
  .save ⟨{}, {}, fun _ => {}, 0,
    ⟨23, 11, 1, 8, 31, 0, by decide, by decide, by decide⟩⟩ {}

/-- A run that is short, an episode of three seconds, a run while its record
waits, the save in the middle of it, and another episode. -/
def twoEpisodes : List DriveEvent :=
  [secondAt 0 700, secondAt 1 500, secondAt 2 700, secondAt 3 720,
    secondAt 4 690, secondAt 5 500, secondAt 6 650, plainSave, secondAt 7 660,
    secondAt 8 500, secondAt 9 610, secondAt 10 620, secondAt 11 630,
    secondAt 12 600, plainSave]

theorem reportsEpisodes_of_meeting_two :
    ReportsEpisodes 60 2 (Vector.replicate 18 0)
      (twoEpisodes.foldl driveStep
        { speedWarnMax := 60, spdExdLimitSeconds := 2 })
      (seconds twoEpisodes) :=
  reportsEpisodes_of_meeting { speedWarnMax := 60, spdExdLimitSeconds := 2 }
    ⟨rfl, rfl, rfl, rfl⟩ (by decide) (by decide) twoEpisodes (by decide)
    twoEpisodes (List.prefix_refl _)

/-- An episode of 20 seconds and its save. -/
def longEpisode : List DriveEvent :=
  (List.range 20).map (secondAt · 700) ++ [secondAt 20 500, plainSave]

/-- With a limit duration of 10 seconds its start is noted a second time. -/
theorem not_reportsEpisodes_long :
    ¬ ReportsEpisodes 60 10 (Vector.replicate 18 0)
      (longEpisode.foldl driveStep
        { speedWarnMax := 60, spdExdLimitSeconds := 10 })
      (seconds longEpisode) := by
  rintro ⟨hrecords, -⟩
  exact absurd hrecords (by decide)

end VehicleRecorder.Driving
