import VehicleRecorder.Driving.DriveState
import VehicleRecorder.Lib.Gregorian

/-!
# The time windows of areas

`CurrentTime_Judge` compares the clock with the start and the end of a window.
It counts the days of a month as 30 and the minutes of an hour as one, and
compares the times of the day on days that lie outside of the window too.
-/

namespace VehicleRecorder.Protocol

open Driving Gregorian

/-! ## The test -/

/-- `(b>>4)*10+(b&0x0f)`. -/
def bcdValue (b : UInt8) : ℕ := (b >>> 4).toNat * 10 + (b &&& 0x0F).toNat

/-- `daycaculate` of a year, a month and a day. -/
def daycaculate (year month day : ℕ) : ℕ := year * 365 + month * 30 + day

/-- `secondcaculate` of an hour, a minute and a second. -/
def secondcaculate (hour min sec : ℕ) : ℕ := hour * 60 + min * 60 + sec

/-- `CurrentTime_Judge`. -/
def currentTimeJudge (startTime endTime : BcdTime) (timeNow : TDateTime) :
    Bool :=
  let daycaculateStart := daycaculate (bcdValue startTime.year)
    (bcdValue startTime.month) (bcdValue startTime.day)
  let secondcaculateStart := secondcaculate (bcdValue startTime.hour)
    (bcdValue startTime.min) (bcdValue startTime.sec)
  let daycaculateEnd := daycaculate (bcdValue endTime.year)
    (bcdValue endTime.month) (bcdValue endTime.day)
  let secondcaculateEnd := secondcaculate (bcdValue endTime.hour)
    (bcdValue endTime.min) (bcdValue endTime.sec)
  let daycaculateCurrent := daycaculate timeNow.year timeNow.month timeNow.day
  let secondcaculateCurrent :=
    secondcaculate timeNow.hour timeNow.min timeNow.sec
  if daycaculateCurrent > daycaculateStart ∧
      daycaculateCurrent < daycaculateEnd then true
  else if secondcaculateCurrent ≥ secondcaculateStart ∧
      secondcaculateCurrent ≤ secondcaculateEnd then true
  else false

theorem bcdValue_eq (b : UInt8) :
    bcdValue b = b.toNat / 16 * 10 + b.toNat % 16 := by
  have hhigh : (b >>> 4).toNat = b.toNat / 16 := by
    rw [UInt8.toNat_shiftRight]
    exact Nat.shiftRight_eq_div_pow b.toNat 4
  have hlow : (b &&& 0x0F).toNat = b.toNat % 16 := by
    rw [UInt8.toNat_and]
    exact Nat.and_two_pow_sub_one_eq_mod b.toNat 4
  rw [bcdValue, hhigh, hlow]

theorem bcdValue_bcd {n : ℕ} (h : n < 100) : bcdValue (bcd n) = n := by
  rw [bcdValue_eq, bcd, UInt8.toNat_ofNat']
  omega

/-! ## The order of times -/

/-- The digits of a time, year to second. -/
def bcdValues (t : BcdTime) : List ℕ := t.bytes.map bcdValue

/-- The clock, year to second. -/
def clockValues (t : TDateTime) : List ℕ :=
  [t.year, t.month, t.day, t.hour, t.min, t.sec]

/-- The clock is neither before the start nor behind the end. -/
def InWindow (startTime endTime : BcdTime) (timeNow : TDateTime) : Prop :=
  bcdValues startTime ≤ clockValues timeNow ∧
    clockValues timeNow ≤ bcdValues endTime

instance (startTime endTime : BcdTime) (timeNow : TDateTime) :
    Decidable (InWindow startTime endTime timeNow) :=
  inferInstanceAs (Decidable (_ ∧ _))

/-! ## Moments -/

/-- A time of the calendar in one of the years that two digits can tell. -/
structure Moment extends DateTime where
  year_ge : 2000 ≤ date.year := by decide
  year_lt : date.year < 2100 := by decide

namespace Moment

/-- The clock at the time. -/
def rtc (t : Moment) : TDateTime where
  year := t.date.year - 2000
  month := t.date.month
  day := t.date.day
  hour := t.hour
  min := t.min
  sec := t.sec
  year_lt := by
    have hlt := t.year_lt
    omega
  month_pos := t.date.month_pos
  month_le := t.date.month_le

/-- The number the test gives the day. -/
def dayCount (t : Moment) : ℕ :=
  daycaculate (t.date.year - 2000) t.date.month t.date.day

/-- The number the test gives the time of the day: seconds in which an hour is a
minute. -/
def shortSecond (t : Moment) : ℕ := secondcaculate t.hour t.min t.sec

/-- The day is the 31st, and the other one the first of the next month. -/
def Abuts (t t' : Moment) : Prop :=
  t'.date.year = t.date.year ∧ t'.date.month = t.date.month + 1 ∧
    t.date.day = 31 ∧ t'.date.day = 1

/-- The test tells an earlier day from a later one, but for the 31st and the first
of the next month. -/
theorem dayCount_lt_iff (t t' : Moment) :
    t.dayCount < t'.dayCount ↔
      t.date.dayNumber < t'.date.dayNumber ∧ ¬ t.Abuts t' := by
  have hge := t.year_ge
  have hge' := t'.year_ge
  have hmonth := t.date.month_le
  have hmonth' := t'.date.month_le
  have hmpos := t.date.month_pos
  have hmpos' := t'.date.month_pos
  have hday := t.date.day_le.trans (monthLength_le _ _)
  have hday' := t'.date.day_le.trans (monthLength_le _ _)
  have hdpos := t.date.day_pos
  have hdpos' := t'.date.day_pos
  rw [Date.dayNumber_lt_iff, Abuts, dayCount, dayCount, daycaculate,
    daycaculate]
  omega

theorem clockValues_rtc (t : Moment) :
    clockValues t.rtc =
      [t.date.year - 2000, t.date.month, t.date.day, t.hour, t.min, t.sec] :=
  rfl

/-- The digits of the time are those of the clock. -/
theorem bcdValues_rtc (t : Moment) :
    bcdValues (time2BCD t.rtc) = clockValues t.rtc := by
  have hdays := t.date.day_le.trans (monthLength_le _ _)
  have hyear := bcdValue_bcd t.rtc.year_lt
  have hmonth := bcdValue_bcd (Nat.lt_of_le_of_lt t.date.month_le (by decide))
  have hday := bcdValue_bcd (Nat.lt_of_le_of_lt hdays (by decide))
  have hhour := bcdValue_bcd (t.hour_lt.trans (by decide))
  have hmin := bcdValue_bcd (t.min_lt.trans (by decide))
  have hsec := bcdValue_bcd (t.sec_lt.trans (by decide))
  simp only [bcdValues, BcdTime.bytes, time2BCD, List.map_cons, List.map_nil]
  dsimp only [rtc] at hyear ⊢
  rw [hyear, hmonth, hday, hhour, hmin, hsec, clockValues]

/-- Times are in the order of their digits. -/
theorem clockValues_le_iff (t t' : Moment) :
    clockValues t.rtc ≤ clockValues t'.rtc ↔ t.instant ≤ t'.instant := by
  have hge := t.year_ge
  have hge' := t'.year_ge
  have hmin := t.min_lt
  have hmin' := t'.min_lt
  have hsec := t.sec_lt
  have hsec' := t'.sec_lt
  have hday : t.date.dayNumber < t'.date.dayNumber ↔ _ := Date.dayNumber_lt_iff
  have hback : t'.date.dayNumber < t.date.dayNumber ↔ _ := Date.dayNumber_lt_iff
  have hsecond : t.secondOfDay ≤ t'.secondOfDay ↔
      t.hour < t'.hour ∨ t.hour = t'.hour ∧
        (t.min < t'.min ∨ t.min = t'.min ∧
          (t.sec < t'.sec ∨ t.sec = t'.sec)) := by
    rw [DateTime.secondOfDay, DateTime.secondOfDay]
    omega
  have hequal : t.date.dayNumber = t'.date.dayNumber ↔
      t.date.year = t'.date.year ∧ t.date.month = t'.date.month ∧
        t.date.day = t'.date.day := by omega
  rw [DateTime.instant_le_iff, hday, hequal, hsecond]
  rw [clockValues_rtc, clockValues_rtc]
  rw [← not_lt]
  simp only [List.cons_lt_cons_iff, List.lt_irrefl, and_false, or_false]
  omega

end Moment

/-- A start and an end that is not earlier. -/
structure TimeWindow where
  start : Moment
  stop : Moment
  start_le : start.instant ≤ stop.instant

namespace TimeWindow

variable (w : TimeWindow) (now : Moment)

/-- The time lies in the window. -/
def Contains : Prop :=
  w.start.instant ≤ now.instant ∧ now.instant ≤ w.stop.instant

/-- The digits tell whether the time lies in the window. -/
theorem inWindow_iff :
    InWindow (time2BCD w.start.rtc) (time2BCD w.stop.rtc) now.rtc ↔
      w.Contains now := by
  rw [InWindow, Moment.bcdValues_rtc, Moment.bcdValues_rtc,
    Moment.clockValues_le_iff, Moment.clockValues_le_iff, Contains]

/-- `CurrentTime_Judge` for the window at the time. -/
def judge : Bool :=
  currentTimeJudge (time2BCD w.start.rtc) (time2BCD w.stop.rtc) now.rtc

/-- The times of the day are in order, with hours as long as minutes. -/
def ShortOrdered : Prop :=
  w.start.shortSecond ≤ now.shortSecond ∧
    now.shortSecond ≤ w.stop.shortSecond

theorem judge_iff :
    w.judge now = true ↔
      w.start.dayCount < now.dayCount ∧ now.dayCount < w.stop.dayCount ∨
        w.ShortOrdered now := by
  have hbcd (t : Moment) :
      daycaculate (bcdValue (time2BCD t.rtc).year)
          (bcdValue (time2BCD t.rtc).month) (bcdValue (time2BCD t.rtc).day) =
        t.dayCount ∧
      secondcaculate (bcdValue (time2BCD t.rtc).hour)
          (bcdValue (time2BCD t.rtc).min) (bcdValue (time2BCD t.rtc).sec) =
        t.shortSecond := by
    have hdays := t.date.day_le.trans (monthLength_le _ _)
    have hyear := bcdValue_bcd t.rtc.year_lt
    have hmonth := bcdValue_bcd (Nat.lt_of_le_of_lt t.date.month_le (by decide))
    have hday := bcdValue_bcd (Nat.lt_of_le_of_lt hdays (by decide))
    have hhour := bcdValue_bcd (t.hour_lt.trans (by decide))
    have hmin := bcdValue_bcd (t.min_lt.trans (by decide))
    have hsec := bcdValue_bcd (t.sec_lt.trans (by decide))
    rw [time2BCD]
    dsimp only [Moment.rtc] at hyear ⊢
    rw [hyear, hmonth, hday, hhour, hmin, hsec]
    exact ⟨rfl, rfl⟩
  have hstart := hbcd w.start
  have hstop := hbcd w.stop
  rw [judge, currentTimeJudge, hstart.1, hstart.2, hstop.1, hstop.2]
  split
  · rename_i hdays
    exact iff_of_true rfl (.inl hdays)
  · rename_i hdays
    split
    · rename_i htimes
      exact iff_of_true rfl (.inr htimes)
    · rename_i htimes
      exact iff_of_false Bool.false_ne_true (not_or.mpr ⟨hdays, htimes⟩)

/-- The test is right about the time.  On a day outside of the window it looks at
the times of the day, and so it does on a day between those of the start and of
the end if that is the first of a month behind a 31st. -/
structure Spared : Prop where
  outside : now.date.dayNumber < w.start.date.dayNumber ∨
    w.stop.date.dayNumber < now.date.dayNumber → ¬ w.ShortOrdered now
  between : w.start.date.dayNumber < now.date.dayNumber →
    now.date.dayNumber < w.stop.date.dayNumber →
    w.start.Abuts now ∨ now.Abuts w.stop → w.ShortOrdered now
  edge : now.date.dayNumber = w.start.date.dayNumber ∨
    now.date.dayNumber = w.stop.date.dayNumber →
    (w.ShortOrdered now ↔
      (now.date.dayNumber = w.start.date.dayNumber →
        w.start.secondOfDay ≤ now.secondOfDay) ∧
      (now.date.dayNumber = w.stop.date.dayNumber →
        now.secondOfDay ≤ w.stop.secondOfDay))

/-- The test tells whether the time lies in the window exactly if it is
spared. -/
theorem judge_contains_iff :
    (w.judge now = true ↔ w.Contains now) ↔ w.Spared now := by
  have hle := w.start_le
  rw [judge_iff, Contains, Moment.dayCount_lt_iff, Moment.dayCount_lt_iff]
  rw [DateTime.instant_le_iff] at hle ⊢
  rw [DateTime.instant_le_iff]
  constructor
  · intro h
    constructor
    · intro hout hshort
      have := h.mp (.inr hshort)
      omega
    · intro hlo hhi habut
      rcases h.mpr ⟨.inl hlo, .inl hhi⟩ with hdays | hshort
      · exact absurd habut (not_or.mpr ⟨hdays.1.2, hdays.2.2⟩)
      · exact hshort
    · intro hedge
      constructor
      · intro hshort
        have hin := h.mp (.inr hshort)
        constructor <;> omega
      · rintro ⟨hlo, hhi⟩
        have hin := h.mpr (by omega)
        rcases hin with hdays | hshort
        · omega
        · exact hshort
  · intro h
    constructor
    · rintro (hdays | hshort)
      · exact ⟨.inl hdays.1.1, .inl hdays.2.1⟩
      · have hout := mt h.outside (not_not.mpr hshort)
        have hedge := fun hday => (h.edge hday).mp hshort
        by_cases hday : now.date.dayNumber = w.start.date.dayNumber ∨
          now.date.dayNumber = w.stop.date.dayNumber
        · have := hedge hday
          omega
        · omega
    · intro hin
      by_cases hday : now.date.dayNumber = w.start.date.dayNumber ∨
        now.date.dayNumber = w.stop.date.dayNumber
      · right
        rw [h.edge hday]
        constructor <;> omega
      · by_cases habut : w.start.Abuts now ∨ now.Abuts w.stop
        · right
          exact h.between (by omega) (by omega) habut
        · left
          rw [not_or] at habut
          exact ⟨⟨by omega, habut.1⟩, by omega, habut.2⟩

/-- A time on the tenth of August 2014. -/
def tenthOfAugust (hour min : ℕ) (hhour : hour < 24) (hmin : min < 60) :
    Moment where
  date := { year := 2014, month := 8, day := 10 }
  hour := hour
  min := min
  sec := 0
  hour_lt := hhour
  min_lt := hmin

/-- From a minute to nine to a minute past nine. -/
def aroundNine : TimeWindow where
  start := tenthOfAugust 8 59 (by decide) (by decide)
  stop := tenthOfAugust 9 1 (by decide) (by decide)
  start_le := DateTime.instant_le_iff.mpr (.inr ⟨rfl, by decide⟩)

/-- Nine o'clock is not found between a minute to nine and a minute past. -/
theorem aroundNine_missed :
    ¬ (aroundNine.judge (tenthOfAugust 9 0 (by decide) (by decide)) = true ↔
      aroundNine.Contains (tenthOfAugust 9 0 (by decide) (by decide))) := by
  intro h
  have hin : aroundNine.Contains (tenthOfAugust 9 0 (by decide) (by decide)) :=
    ⟨DateTime.instant_le_iff.mpr (.inr ⟨rfl, by decide⟩),
      DateTime.instant_le_iff.mpr (.inr ⟨rfl, by decide⟩)⟩
  exact absurd (h.mpr hin) (by decide)

end TimeWindow

end VehicleRecorder.Protocol
