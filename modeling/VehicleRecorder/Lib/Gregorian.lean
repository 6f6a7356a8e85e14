import Mathlib.Algebra.Order.BigOperators.Group.Finset

/-!
# The Gregorian calendar

Dates, the number of a day since the beginning of year 0, and the seconds since
then.  The next day has the next number, and some hours later it is so many
seconds later.
-/

namespace VehicleRecorder.Gregorian

open Finset

/-- The years with 366 days. -/
def IsLeap (year : ℕ) : Prop := year % 4 = 0 ∧ (year % 100 ≠ 0 ∨ year % 400 = 0)

instance (year : ℕ) : Decidable (IsLeap year) :=
  inferInstanceAs (Decidable (_ ∧ _))

/-- The days of a month. -/
def monthLength (year month : ℕ) : ℕ :=
  if month = 2 then if IsLeap year then 29 else 28
  else if month = 4 ∨ month = 6 ∨ month = 9 ∨ month = 11 then 30
  else 31

theorem monthLength_pos (year month : ℕ) : 0 < monthLength year month := by
  unfold monthLength
  split
  · split <;> decide
  · split <;> decide

theorem monthLength_le (year month : ℕ) : monthLength year month ≤ 31 := by
  unfold monthLength
  split
  · split <;> decide
  · split <;> decide

/-- The days of a year. -/
def yearLength (year : ℕ) : ℕ := ∑ m ∈ range 12, monthLength year (m + 1)

/-- A date. -/
structure Date where
  year : ℕ
  month : ℕ
  day : ℕ
  month_pos : 0 < month := by decide
  month_le : month ≤ 12 := by decide
  day_pos : 0 < day := by decide
  day_le : day ≤ monthLength year month := by decide

/-- The days up to one given by its year, month and day. -/
def daysUpTo (year month day : ℕ) : ℕ :=
  ∑ y ∈ range year, yearLength y +
    ∑ m ∈ range (month - 1), monthLength year (m + 1) + day

/-- The first of a month comes behind the last of the month before. -/
theorem daysUpTo_succ_month (year month : ℕ) (hpos : 0 < month) :
    daysUpTo year (month + 1) 1 =
      daysUpTo year month (monthLength year month) + 1 := by
  obtain ⟨m, rfl⟩ : ∃ m, month = m + 1 :=
    ⟨month - 1, (Nat.succ_pred_eq_of_pos hpos).symm⟩
  rw [daysUpTo, daysUpTo, Nat.add_sub_cancel, Nat.add_sub_cancel,
    sum_range_succ, ← Nat.add_assoc]

/-- New Year's Day comes behind the last of December. -/
theorem daysUpTo_succ_year (year : ℕ) :
    daysUpTo (year + 1) 1 1 = daysUpTo year 12 (monthLength year 12) + 1 := by
  have hlast : ∑ m ∈ range 11, monthLength year (m + 1) + monthLength year 12 =
      yearLength year := (sum_range_succ (fun m => monthLength year (m + 1)) 11).symm
  rw [daysUpTo, daysUpTo, Nat.add_assoc (∑ y ∈ range year, yearLength y), hlast,
    sum_range_succ, Nat.sub_self, sum_range_zero, add_zero]

/-- The number of a day. -/
def Date.dayNumber (d : Date) : ℕ := daysUpTo d.year d.month d.day

/-- The day after. -/
def Date.nextDay (d : Date) : Date :=
  if hday : d.day < monthLength d.year d.month then
    { d with
      day := d.day + 1
      day_pos := Nat.succ_pos d.day
      day_le := hday }
  else if hmonth : d.month < 12 then
    { year := d.year
      month := d.month + 1
      day := 1
      month_pos := Nat.succ_pos d.month
      month_le := hmonth
      day_le := monthLength_pos d.year (d.month + 1) }
  else
    { year := d.year + 1
      month := 1
      day := 1
      day_le := monthLength_pos (d.year + 1) 1 }

theorem Date.dayNumber_nextDay (d : Date) :
    d.nextDay.dayNumber = d.dayNumber + 1 := by
  unfold nextDay
  split
  · rfl
  · rename_i hday
    have hlast : d.day = monthLength d.year d.month :=
      Nat.le_antisymm d.day_le (Nat.not_lt.mp hday)
    split
    · rw [dayNumber, dayNumber, hlast]
      exact daysUpTo_succ_month d.year d.month d.month_pos
    · rename_i hmonth
      have hdec : d.month = 12 :=
        Nat.le_antisymm d.month_le (Nat.not_lt.mp hmonth)
      rw [dayNumber, dayNumber, hlast, hdec]
      exact daysUpTo_succ_year d.year

theorem Date.year_nextDay (d : Date) :
    d.nextDay.year = d.year ∨ d.nextDay.year = d.year + 1 := by
  unfold nextDay
  split
  · exact .inl rfl
  · split
    · exact .inl rfl
    · exact .inr rfl

/-- A date lies in front of the end of its month. -/
theorem Date.dayNumber_le_month (d : Date) {month : ℕ} (h : d.month ≤ month) :
    d.dayNumber ≤ ∑ y ∈ range d.year, yearLength y +
      ∑ m ∈ range month, monthLength d.year (m + 1) := by
  have hlast : ∑ m ∈ range (d.month - 1), monthLength d.year (m + 1) + d.day ≤
      ∑ m ∈ range d.month, monthLength d.year (m + 1) := by
    conv_rhs => rw [← Nat.sub_add_cancel d.month_pos, sum_range_succ,
      Nat.sub_add_cancel d.month_pos]
    exact Nat.add_le_add_left d.day_le _
  rw [dayNumber, daysUpTo, Nat.add_assoc]
  exact Nat.add_le_add_left
    (hlast.trans (sum_le_sum_of_subset (range_mono h))) _

/-- A date in a later year, month or on a later day has a larger number. -/
theorem Date.dayNumber_lt_of_lex {d d' : Date}
    (h : d.year < d'.year ∨ d.year = d'.year ∧
      (d.month < d'.month ∨ d.month = d'.month ∧ d.day < d'.day)) :
    d.dayNumber < d'.dayNumber := by
  have hpos := d'.day_pos
  have hnumber : d'.dayNumber = daysUpTo d'.year d'.month d'.day := rfl
  rcases h with hyear | ⟨hyear, hmonth | ⟨hmonth, hday⟩⟩
  · have hend := d.dayNumber_le_month d.month_le
    have hyears : ∑ y ∈ range (d.year + 1), yearLength y ≤
        ∑ y ∈ range d'.year, yearLength y :=
      sum_le_sum_of_subset (range_mono hyear)
    rw [sum_range_succ, yearLength] at hyears
    rw [hnumber, daysUpTo]
    omega
  · have hend := d.dayNumber_le_month (Nat.le_sub_one_of_lt hmonth)
    rw [hnumber, daysUpTo, ← hyear]
    omega
  · rw [dayNumber, dayNumber, daysUpTo, daysUpTo, hyear, hmonth]
    exact Nat.add_lt_add_left hday _

/-- The number of a day is larger exactly if the day is later. -/
theorem Date.dayNumber_lt_iff {d d' : Date} :
    d.dayNumber < d'.dayNumber ↔ d.year < d'.year ∨ d.year = d'.year ∧
      (d.month < d'.month ∨ d.month = d'.month ∧ d.day < d'.day) := by
  refine ⟨fun h => ?_, dayNumber_lt_of_lex⟩
  by_contra hlex
  have hnot : ¬ d'.dayNumber < d.dayNumber := Nat.lt_asymm h
  have hback := mt dayNumber_lt_of_lex hnot
  have heq : d.year = d'.year ∧ d.month = d'.month ∧ d.day = d'.day := by omega
  rw [dayNumber, dayNumber, heq.1, heq.2.1, heq.2.2] at h
  exact Nat.lt_irrefl _ h

/-- A date and a time of the day. -/
structure DateTime where
  date : Date
  hour : ℕ
  min : ℕ
  sec : ℕ
  hour_lt : hour < 24 := by decide
  min_lt : min < 60 := by decide
  sec_lt : sec < 60 := by decide

namespace DateTime

/-- The seconds since the beginning of year 0. -/
def instant (t : DateTime) : ℕ :=
  t.date.dayNumber * 86400 + t.hour * 3600 + t.min * 60 + t.sec

/-- The seconds since midnight. -/
def secondOfDay (t : DateTime) : ℕ := t.hour * 3600 + t.min * 60 + t.sec

theorem secondOfDay_lt (t : DateTime) : t.secondOfDay < 86400 := by
  have hhour := t.hour_lt
  have hmin := t.min_lt
  have hsec := t.sec_lt
  rw [secondOfDay]
  omega

/-- A time is not behind another if its day is earlier, or the time on the same
day is not later. -/
theorem instant_le_iff {t t' : DateTime} :
    t.instant ≤ t'.instant ↔
      t.date.dayNumber < t'.date.dayNumber ∨
        t.date.dayNumber = t'.date.dayNumber ∧
          t.secondOfDay ≤ t'.secondOfDay := by
  have hlt := t.secondOfDay_lt
  have hlt' := t'.secondOfDay_lt
  rw [secondOfDay] at hlt hlt' ⊢
  rw [instant, instant, secondOfDay]
  omega

/-- Some hours later, at most a day. -/
def addHours (t : DateTime) (n : ℕ) (hn : n ≤ 24) : DateTime :=
  if h : t.hour + n < 24 then { t with hour := t.hour + n, hour_lt := h }
  else
    { t with
      date := t.date.nextDay
      hour := t.hour + n - 24
      hour_lt := by
        have hlt := t.hour_lt
        omega }

theorem instant_addHours (t : DateTime) (n : ℕ) (hn : n ≤ 24) :
    (t.addHours n hn).instant = t.instant + n * 3600 := by
  unfold addHours instant
  split
  · dsimp only
    omega
  · rename_i hge
    dsimp only
    rw [t.date.dayNumber_nextDay]
    omega

theorem year_addHours (t : DateTime) (n : ℕ) (hn : n ≤ 24) :
    (t.addHours n hn).date.year = t.date.year ∨
      (t.addHours n hn).date.year = t.date.year + 1 := by
  unfold addHours
  split
  · exact .inl rfl
  · exact t.date.year_nextDay

end DateTime

end VehicleRecorder.Gregorian
