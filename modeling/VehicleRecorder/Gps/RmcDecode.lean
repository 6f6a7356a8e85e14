import Mathlib.Algebra.Order.Floor.Semifield
import Mathlib.Data.Rat.Floor
import Mathlib.Tactic.FieldSimp
import Mathlib.Tactic.Ring
import VehicleRecorder.Gps.FieldBuffers
import VehicleRecorder.Lib.Gregorian

/-!
# What an RMC sentence decodes to

The date and the time are carried over to the local ones in two handlers, the
hour in `Process_RMC` and the rest in `Date_pro`.  A coordinate is computed from
the digits at their places and kept back when it comes out as 0.
-/

namespace VehicleRecorder.Gps

open Bytes Driving FieldScanner GpsState Gregorian

/-! ## Well-formed sentences -/

/-- The character of the last decimal digit. -/
def digitChar (n : ℕ) : UInt8 := UInt8.ofNat (0x30 + n % 10)

/-- A number in decimal digits. -/
def decimal : ℕ → ℕ → List UInt8
  | 0, _ => []
  | k + 1, n => decimal k (n / 10) ++ [digitChar n]

/-- Degrees, minutes and four decimals of them, and further decimals. -/
structure Coordinate (bound : ℕ) where
  degrees : ℕ
  minutes : ℕ
  decimals : ℕ
  further : List UInt8 := []
  degrees_lt : degrees < bound := by decide
  minutes_lt : minutes < 100 := by decide
  decimals_lt : decimals < 10000 := by decide
  further_digits : further.all isDigit = true := by decide

namespace Coordinate

variable {bound : ℕ} (x : Coordinate bound)

/-- The field, with the degrees in so many digits. -/
def text (k : ℕ) : List UInt8 :=
  decimal k x.degrees ++ decimal 2 x.minutes ++ [0x2E] ++
    decimal 4 x.decimals ++ x.further

/-- Not 0 in the degrees, the minutes or a decimal of them. -/
def NonZero : Prop :=
  x.degrees ≠ 0 ∨ x.minutes ≠ 0 ∨ x.decimals ≠ 0 ∨ ∃ c ∈ x.further, c ≠ 0x30

/-- Not 0 in the degrees, the minutes or the first four decimals. -/
def NonZeroToFour : Prop :=
  x.degrees ≠ 0 ∨ x.minutes ≠ 0 ∨ x.decimals ≠ 0

/-- The degrees times `10^6`, from the first four decimals of the minutes. -/
def micro : ℕ :=
  ⌊((x.degrees : ℚ) + (x.minutes + (x.decimals : ℚ) / 10 ^ 4) / 60) * 10 ^ 6⌋₊

end Coordinate

/-- An RMC sentence with status A. -/
structure RmcSentence where
  talker : List UInt8
  utc : DateTime
  secondDecimals : List UInt8 := []
  latitude : Coordinate 100
  northSouth : List UInt8
  longitude : Coordinate 1000
  eastWest : List UInt8
  speed : List UInt8
  course : List UInt8
  /-- The fields between the date and the last one. -/
  between : List (List UInt8)
  last : List UInt8

namespace RmcSentence

variable (x : RmcSentence)

/-- `hhmmss` and the decimals. -/
def timeText : List UInt8 :=
  decimal 2 x.utc.hour ++ decimal 2 x.utc.min ++ decimal 2 x.utc.sec ++
    x.secondDecimals

/-- `ddmmyy`. -/
def dateText : List UInt8 :=
  decimal 2 x.utc.date.day ++ decimal 2 x.utc.date.month ++
    decimal 2 (x.utc.date.year - 2000)

/-- The fields up to the date. -/
def leading : List (List UInt8) :=
  [x.talker, x.timeText, [0x41], x.latitude.text 2, x.northSouth,
    x.longitude.text 3, x.eastWest, x.speed, x.course, x.dateText]

/-- The sentence, with a comma behind each field but the last. -/
def text : List UInt8 :=
  ((x.leading ++ x.between).flatMap fun f => f ++ [0x2C]) ++ x.last

/-- The fields are short and do not hold a comma or a zero, the year is one of
the century, and the commas can be counted in a byte. -/
structure WellFormed : Prop where
  year_ge : 2000 ≤ x.utc.date.year
  year_lt : x.utc.date.year < 2100
  short : ∀ f ∈ x.leading ++ x.between ++ [x.last], f.length ≤ 14
  plain : ∀ f ∈ x.leading ++ x.between ++ [x.last], 0 ∉ f ∧ 0x2C ∉ f
  between_lt : x.between.length < 240

end RmcSentence

/-- The position holds the local date and time of a sentence, eight hours
later, and its coordinates. -/
structure Decodes (info : GpsInfo) (x : RmcSentence) : Prop where
  localTime : ∃ z : DateTime, z.instant = x.utc.instant + 8 * 3600 ∧
    2000 + info.date.year.toNat = z.date.year ∧
    info.date.mon.toNat = z.date.month ∧ info.date.day.toNat = z.date.day ∧
    info.time.hour.toNat = z.hour ∧ info.time.min.toNat = z.min ∧
    info.time.sec.toNat = z.sec
  latitude : info.latitude = beBytes4 x.latitude.micro
  longitude : info.longitude = beBytes4 x.longitude.micro

/-! ## Digits -/

theorem isDigit_digitChar (n : ℕ) : isDigit (digitChar n) = true := by
  have hlt : n % 10 < 10 := Nat.mod_lt n (by decide)
  unfold digitChar
  generalize n % 10 = d at hlt
  revert d
  decide

theorem digitChar_sub (n : ℕ) : digitChar n - 0x30 = UInt8.ofNat (n % 10) := by
  have hlt : n % 10 < 10 := Nat.mod_lt n (by decide)
  unfold digitChar
  generalize n % 10 = d at hlt
  revert d
  decide

theorem digitChar_toNat (n : ℕ) : (digitChar n).toNat = 0x30 + n % 10 := by
  rw [digitChar, UInt8.toNat_ofNat']
  omega

theorem digit_of_eq {tmpinfo : ℕ → UInt8} {i n : ℕ}
    (h : tmpinfo i = digitChar n) : digit tmpinfo i = n % 10 := by
  rw [digit, h, digitChar_toNat, Nat.add_sub_cancel_left]

theorem isDigit_of_eq {tmpinfo : ℕ → UInt8} {i n : ℕ}
    (h : tmpinfo i = digitChar n) : isDigit (tmpinfo i) = true := by
  rw [h]
  exact isDigit_digitChar n

theorem twoDigits_of_eq {tmpinfo : ℕ → UInt8} {i n : ℕ}
    (htens : tmpinfo i = digitChar (n / 10))
    (hones : tmpinfo (i + 1) = digitChar n) (hn : n < 100) :
    twoDigits tmpinfo i = UInt8.ofNat n := by
  have hsum : n / 10 % 10 * 10 + n % 10 = n := by omega
  rw [twoDigits, htens, hones, digitChar_sub, digitChar_sub,
    show (10 : UInt8) = UInt8.ofNat 10 from rfl, ← UInt8.ofNat_mul,
    ← UInt8.ofNat_add, hsum]

theorem ofNat_eq_iff {m k : ℕ} (hm : m < 256) (hk : k < 256) :
    UInt8.ofNat m = UInt8.ofNat k ↔ m = k := by
  rw [UInt8.ofNat_eq_iff_mod_eq_toNat, UInt8.toNat_ofNat', Nat.mod_eq_of_lt hm,
    Nat.mod_eq_of_lt hk]

/-- The coordinate as it is computed in whole numbers. -/
theorem Coordinate.micro_eq {bound : ℕ} (x : Coordinate bound) :
    x.micro = x.degrees * 1000000 +
      (x.minutes * 10000 + x.decimals) * 5 / 3 := by
  have hquotient : ((x.degrees : ℚ) +
      (x.minutes + (x.decimals : ℚ) / 10 ^ 4) / 60) * 10 ^ 6 =
        ((x.degrees * 3000000 + (x.minutes * 10000 + x.decimals) * 5 : ℕ) : ℚ) /
          (3 : ℕ) := by
    push_cast
    field_simp
    ring
  rw [micro, hquotient, Nat.floor_div_eq_div]
  omega

/-! ## The fields of a sentence -/

section Buffer

variable {t : ScanState UInt8 RmcVars} {xs : List UInt8}

theorem buf_eq (h : rmcScanner.Holding t xs) {i : ℕ} {c : UInt8}
    (hi : xs[i]? = some c) : t.buf i = c := by
  have hlt : i < xs.length := by
    by_contra hge
    rw [List.getElem?_eq_none (Nat.not_lt.mp hge)] at hi
    exact Option.some_ne_none c hi.symm
  rw [h.chars i hlt] at hi
  exact Option.some_inj.mp hi

/-- Three numbers of two digits at the beginning of a field. -/
theorem threePairs_eq {a b c : ℕ} {rest : List UInt8}
    (h : rmcScanner.Holding t
      (decimal 2 a ++ decimal 2 b ++ decimal 2 c ++ rest))
    (ha : a < 100) (hb : b < 100) (hc : c < 100) :
    digitsAt t.buf [0, 1, 2, 3, 4, 5] = true ∧
      twoDigits t.buf 0 = UInt8.ofNat a ∧
      twoDigits t.buf 2 = UInt8.ofNat b ∧
      twoDigits t.buf 4 = UInt8.ofNat c := by
  have h0 : t.buf 0 = digitChar (a / 10) := buf_eq h rfl
  have h1 : t.buf 1 = digitChar a := buf_eq h rfl
  have h2 : t.buf 2 = digitChar (b / 10) := buf_eq h rfl
  have h3 : t.buf 3 = digitChar b := buf_eq h rfl
  have h4 : t.buf 4 = digitChar (c / 10) := buf_eq h rfl
  have h5 : t.buf 5 = digitChar c := buf_eq h rfl
  refine ⟨?_, twoDigits_of_eq h0 h1 ha, twoDigits_of_eq h2 h3 hb,
    twoDigits_of_eq h4 h5 hc⟩
  simp only [digitsAt, List.all_cons, List.all_nil, isDigit_of_eq h0,
    isDigit_of_eq h1, isDigit_of_eq h2, isDigit_of_eq h3, isDigit_of_eq h4,
    isDigit_of_eq h5, Bool.and_true]

/-- The digits of a latitude lie where they are looked for. -/
theorem latitudeValue_eq {x : Coordinate 100}
    (h : rmcScanner.Holding t (x.text 2)) :
    digitsAt t.buf [0, 1, 2, 3, 5, 6, 7, 8] = true ∧
      latitudeValue t.buf = x.micro := by
  have h0 : t.buf 0 = digitChar (x.degrees / 10) := buf_eq h rfl
  have h1 : t.buf 1 = digitChar x.degrees := buf_eq h rfl
  have h2 : t.buf 2 = digitChar (x.minutes / 10) := buf_eq h rfl
  have h3 : t.buf 3 = digitChar x.minutes := buf_eq h rfl
  have h5 : t.buf 5 = digitChar (x.decimals / 10 / 10 / 10) := buf_eq h rfl
  have h6 : t.buf 6 = digitChar (x.decimals / 10 / 10) := buf_eq h rfl
  have h7 : t.buf 7 = digitChar (x.decimals / 10) := buf_eq h rfl
  have h8 : t.buf 8 = digitChar x.decimals := buf_eq h rfl
  have hdegrees := x.degrees_lt
  have hminutes := x.minutes_lt
  have hdecimals := x.decimals_lt
  constructor
  · simp only [digitsAt, List.all_cons, List.all_nil, isDigit_of_eq h0,
      isDigit_of_eq h1, isDigit_of_eq h2, isDigit_of_eq h3, isDigit_of_eq h5,
      isDigit_of_eq h6, isDigit_of_eq h7, isDigit_of_eq h8, Bool.and_true]
  · rw [latitudeValue, x.micro_eq, digit_of_eq h0, digit_of_eq h1,
      digit_of_eq h2, digit_of_eq h3, digit_of_eq h5, digit_of_eq h6,
      digit_of_eq h7, digit_of_eq h8]
    omega

/-- The digits of a longitude lie where they are looked for. -/
theorem longitudeValue_eq {x : Coordinate 1000}
    (h : rmcScanner.Holding t (x.text 3)) :
    digitsAt t.buf [0, 1, 2, 3, 4, 6, 7, 8, 9] = true ∧
      longitudeValue t.buf = x.micro := by
  have h0 : t.buf 0 = digitChar (x.degrees / 10 / 10) := buf_eq h rfl
  have h1 : t.buf 1 = digitChar (x.degrees / 10) := buf_eq h rfl
  have h2 : t.buf 2 = digitChar x.degrees := buf_eq h rfl
  have h3 : t.buf 3 = digitChar (x.minutes / 10) := buf_eq h rfl
  have h4 : t.buf 4 = digitChar x.minutes := buf_eq h rfl
  have h6 : t.buf 6 = digitChar (x.decimals / 10 / 10 / 10) := buf_eq h rfl
  have h7 : t.buf 7 = digitChar (x.decimals / 10 / 10) := buf_eq h rfl
  have h8 : t.buf 8 = digitChar (x.decimals / 10) := buf_eq h rfl
  have h9 : t.buf 9 = digitChar x.decimals := buf_eq h rfl
  have hdegrees := x.degrees_lt
  have hminutes := x.minutes_lt
  have hdecimals := x.decimals_lt
  constructor
  · simp only [digitsAt, List.all_cons, List.all_nil, isDigit_of_eq h0,
      isDigit_of_eq h1, isDigit_of_eq h2, isDigit_of_eq h3, isDigit_of_eq h4,
      isDigit_of_eq h6, isDigit_of_eq h7, isDigit_of_eq h8, isDigit_of_eq h9,
      Bool.and_true]
  · rw [longitudeValue, x.micro_eq, digit_of_eq h0, digit_of_eq h1,
      digit_of_eq h2, digit_of_eq h3, digit_of_eq h4, digit_of_eq h6,
      digit_of_eq h7, digit_of_eq h8, digit_of_eq h9]
    omega

end Buffer

/-! ## The scan of a sentence -/

/-- What of the variables of `Process_RMC` the decoded position depends on. -/
structure Seen where
  info : GpsInfo
  udpDataPacketFlag : UInt8
  time : Hms
  fDateModify : UInt8

/-- The part of the variables in a `Seen`. -/
def RmcVars.seen (v : RmcVars) : Seen :=
  ⟨v.gps.tempGpsGprs, v.gps.udpDataPacketFlag, v.time, v.fDateModify⟩

/-- In front of a field, behind `n` commas. -/
structure Behind (n : ℕ) (w : Seen) (s : ScanState UInt8 RmcVars) : Prop where
  len : s.len = 0
  count : s.count = UInt8.ofNat n
  seen : s.user.seen = w

/-- What a handler does with a field that is in the buffer. -/
def Handled (n : ℕ) (xs : List UInt8) (w w' : Seen) : Prop :=
  ∀ t : ScanState UInt8 RmcVars, rmcScanner.Holding t xs → t.user.seen = w →
    (RmcVars.field (UInt8.ofNat n) t.len t.user t.buf).accepted = true ∧
      (RmcVars.field (UInt8.ofNat n) t.len t.user t.buf).user.seen = w'

theorem Behind.field {n : ℕ} {w w' : Seen} {s : ScanState UInt8 RmcVars}
    (h : Behind n w s) {xs : List UInt8} (hplain : ∀ c ∈ xs, c ≠ 0x2C)
    (hshort : xs.length ≤ 15) (hfield : xs ≠ [] → Handled (n + 1) xs w w')
    (hempty : xs = [] → w' = w) (rest : List UInt8) :
    ∃ s', rmcScanner.run s (xs ++ 0x2C :: rest) = rmcScanner.run s' rest ∧
      Behind (n + 1) w' s' := by
  have hsep : ∀ c ∈ xs, rmcScanner.isSep c = false :=
    fun c hc => decide_eq_false (hplain c hc)
  rw [run_field rmc_fits h.len hsep hshort rfl rest]
  have hstored := stored_foldl rmc_fits h.len xs hshort
  generalize xs.foldl rmcScanner.store s = t at hstored
  have hcount : t.count + 1 = UInt8.ofNat (n + 1) := by
    rw [hstored.count, h.count, UInt8.ofNat_add]
    rfl
  have hseen : t.user.seen = w := by rw [hstored.user, h.seen]
  by_cases hxs : xs = []
  · have hlen : t.len = 0 := by rw [hstored.holding.len, hxs, List.length_nil]
    refine ⟨rmcScanner.close t, ?_, close_len, close_count.trans hcount, ?_⟩
    · rw [accepts, decide_eq_true hlen, Bool.true_or, if_pos rfl]
    · rw [close, if_pos hlen, hempty hxs]
      exact hseen
  · have hlen : t.len ≠ 0 := by
      rw [hstored.holding.len]
      exact mt List.length_eq_zero_iff.mp hxs
    obtain ⟨haccepted, hnext⟩ := hfield hxs t hstored.holding hseen
    rw [← hcount] at haccepted hnext
    refine ⟨rmcScanner.close t, ?_, close_len, close_count.trans hcount, ?_⟩
    · rw [accepts, decide_eq_false hlen, Bool.false_or]
      exact if_pos haccepted
    · rw [close, if_neg hlen]
      exact hnext

/-! ## The handlers on their fields -/

section Handlers

variable {w : Seen}

theorem field_of_other {n : UInt8} (htime : n ≠ 2) (hdate : n ≠ 10) (k : ℕ)
    (v : RmcVars) (tmpinfo : ℕ → UInt8) :
    RmcVars.field n k v tmpinfo =
      { user := { v with gps := v.otherField n k tmpinfo }, buf := tmpinfo } := by
  rw [RmcVars.field, if_neg htime, if_neg hdate]

theorem otherField_keeps {n : UInt8} (h3 : n ≠ 3) (h4 : n ≠ 4) (h6 : n ≠ 6)
    (v : RmcVars) (k : ℕ) (tmpinfo : ℕ → UInt8) :
    KeepsPosition v.gps (v.otherField n k tmpinfo) := by
  unfold RmcVars.otherField
  split
  · exact absurd rfl h3
  · exact absurd rfl h4
  · exact ⟨rfl, rfl⟩
  · exact absurd rfl h6
  · exact ⟨rfl, rfl⟩
  · exact speedPro_keeps _ _ _
  · dsimp only
    split
    · exact ⟨rfl, rfl⟩
    · exact directionPro_keeps _ _ _
  · exact ⟨rfl, rfl⟩

/-- The fields that do not matter for the position. -/
theorem handled_other {n : ℕ} (hn : n < 256)
    (hother : n ∉ [2, 3, 4, 6, 10]) (xs : List UInt8) : Handled n xs w w := by
  intro t _ hseen
  have hne : ∀ m : ℕ, m < 256 → n ≠ m → UInt8.ofNat n ≠ UInt8.ofNat m :=
    fun m hm hnm heq => hnm ((ofNat_eq_iff hn hm).mp heq)
  simp only [List.mem_cons, List.not_mem_nil, or_false, not_or] at hother
  obtain ⟨h2, h3, h4, h6, h10⟩ := hother
  have hkeeps := otherField_keeps (hne 3 (by decide) h3) (hne 4 (by decide) h4)
    (hne 6 (by decide) h6) t.user t.len t.buf
  rw [field_of_other (hne 2 (by decide) h2) (hne 10 (by decide) h10)]
  refine ⟨rfl, ?_⟩
  rw [← hseen, RmcVars.seen, RmcVars.seen]
  dsimp only
  rw [hkeeps.info, hkeeps.flag]

/-- The status. -/
theorem handled_status :
    Handled 3 [0x41] w { w with udpDataPacketFlag := 0x02 } := by
  intro t h hseen
  have hstatus : t.buf 0 = 0x41 := buf_eq h rfl
  rw [field_of_other (by decide) (by decide)]
  refine ⟨rfl, ?_⟩
  have hother : t.user.otherField (UInt8.ofNat 3) t.len t.buf =
      t.user.gps.statusPro t.buf := rfl
  rw [← hseen, hother, GpsState.statusPro]
  dsimp only
  rw [hstatus, if_neg (by decide), if_pos (by decide)]
  rfl

theorem Coordinate.micro_ne_zero {bound : ℕ} {x : Coordinate bound}
    (h : x.NonZeroToFour) : x.micro ≠ 0 := by
  rw [x.micro_eq]
  rcases h with hdegrees | hminutes | hdecimals
  · omega
  · omega
  · omega

/-- A latitude with a fix. -/
theorem handled_latitude (hflag : w.udpDataPacketFlag = 0x02)
    {x : Coordinate 100} (hx : x.NonZeroToFour) :
    Handled 4 (x.text 2) w { w with info.latitude := beBytes4 x.micro } := by
  intro t h hseen
  obtain ⟨hdigits, hvalue⟩ := latitudeValue_eq h
  rw [field_of_other (by decide) (by decide)]
  refine ⟨rfl, ?_⟩
  have hother : t.user.otherField (UInt8.ofNat 4) t.len t.buf =
      if digitsAt t.buf [0, 1, 2, 3, 5, 6, 7, 8] then
        t.user.gps.latitudePro t.buf
      else t.user.gps := rfl
  have hfix : t.user.gps.udpDataPacketFlag = 0x02 := by
    rw [← hflag, ← hseen]
    rfl
  rw [hother, if_pos hdigits, latitudePro, if_pos hfix, hvalue,
    if_neg (Coordinate.micro_ne_zero hx), ← hseen]
  rfl

/-- A longitude with a fix. -/
theorem handled_longitude (hflag : w.udpDataPacketFlag = 0x02)
    {x : Coordinate 1000} (hx : x.NonZeroToFour) :
    Handled 6 (x.text 3) w { w with info.longitude := beBytes4 x.micro } := by
  intro t h hseen
  obtain ⟨hdigits, hvalue⟩ := longitudeValue_eq h
  rw [field_of_other (by decide) (by decide)]
  refine ⟨rfl, ?_⟩
  have hother : t.user.otherField (UInt8.ofNat 6) t.len t.buf =
      if digitsAt t.buf [0, 1, 2, 3, 4, 6, 7, 8, 9] then
        t.user.gps.longitudePro t.buf
      else t.user.gps := rfl
  have hfix : t.user.gps.udpDataPacketFlag = 0x02 := by
    rw [← hflag, ← hseen]
    rfl
  rw [hother, if_pos hdigits, longitudePro, if_pos hfix, hvalue,
    if_neg (Coordinate.micro_ne_zero hx), ← hseen]
  rfl

/-- A time in bytes. -/
def hms (t : DateTime) : Hms :=
  ⟨UInt8.ofNat t.hour, UInt8.ofNat t.min, UInt8.ofNat t.sec⟩

/-- A date in bytes, with the year of the century. -/
def ymd (d : Date) : Ymd :=
  ⟨UInt8.ofNat (d.year - 2000), UInt8.ofNat d.month, UInt8.ofNat d.day⟩

/-- The hour is eight hours later, and the date is moved on when that is on the
next day. -/
theorem localHour : ∀ h : ℕ, h < 24 →
    (h + 8 < 24 → ¬ 23 < UInt8.ofNat h + 8 ∧
      UInt8.ofNat h + 8 = UInt8.ofNat (h + 8)) ∧
    (¬ h + 8 < 24 → 23 < UInt8.ofNat h + 8 ∧
      UInt8.ofNat h + 8 - 24 = UInt8.ofNat (h + 8 - 24)) := by
  decide

theorem ymd_nextDay (d : Date) (hge : 2000 ≤ d.year) :
    ymd d.nextDay =
      if d.day = monthLength d.year d.month then
        if d.month = 12 then ⟨UInt8.ofNat (d.year - 2000) + 1, 1, 1⟩
        else ⟨UInt8.ofNat (d.year - 2000), UInt8.ofNat d.month + 1, 1⟩
      else
        ⟨UInt8.ofNat (d.year - 2000), UInt8.ofNat d.month,
          UInt8.ofNat d.day + 1⟩ := by
  have hday := d.day_le
  have hmonth := d.month_le
  have hsucc : ∀ n : ℕ, UInt8.ofNat n + 1 = UInt8.ofNat (n + 1) :=
    fun n => (UInt8.ofNat_add n 1).symm
  rw [hsucc, hsucc, hsucc, ← Nat.sub_add_comm hge]
  unfold Date.nextDay
  by_cases hlast : d.day = monthLength d.year d.month
  · rw [if_pos hlast, dif_neg (by omega)]
    by_cases hdec : d.month = 12
    · rw [if_pos hdec, dif_neg (by omega)]
      rfl
    · rw [if_neg hdec, dif_pos (by omega)]
      rfl
  · rw [if_neg hlast, dif_pos (by omega)]
    rfl

theorem leap_of_century : ∀ y : ℕ, y < 100 →
    (UInt8.ofNat y % 4 = 0 ↔ IsLeap (2000 + y)) := by
  decide

/-- Within the century the leap years are those divisible by 4. -/
theorem nextDate_ymd (d : Date) (hge : 2000 ≤ d.year) (hlt : d.year < 2100) :
    nextDate (ymd d) = ymd d.nextDay := by
  have hleap := leap_of_century (d.year - 2000) (by omega)
  rw [Nat.add_sub_cancel' hge] at hleap
  have hmonthLe := d.month_le
  have hdayLe := d.day_le.trans (monthLength_le d.year d.month)
  have hday : ∀ k, k < 255 → (UInt8.ofNat d.day + 1 = UInt8.ofNat (k + 1) ↔
      d.day = k) := by
    intro k hk
    rw [show UInt8.ofNat d.day + 1 = UInt8.ofNat (d.day + 1) from
      (UInt8.ofNat_add d.day 1).symm, ofNat_eq_iff (by omega) (by omega),
      Nat.add_right_cancel_iff]
  have hmonth : ∀ k, k < 256 → (UInt8.ofNat d.month = UInt8.ofNat k ↔
      d.month = k) := fun k hk => ofNat_eq_iff (by omega) hk
  have hdec : UInt8.ofNat d.month + 1 = 13 ↔ d.month = 12 := by
    rw [show UInt8.ofNat d.month + 1 = UInt8.ofNat (d.month + 1) from
      (UInt8.ofNat_add d.month 1).symm]
    exact (ofNat_eq_iff (by omega) (by decide)).trans Nat.add_right_cancel_iff
  have h2 : UInt8.ofNat d.month = 2 ↔ d.month = 2 := hmonth 2 (by decide)
  have h4 : UInt8.ofNat d.month = 4 ↔ d.month = 4 := hmonth 4 (by decide)
  have h6 : UInt8.ofNat d.month = 6 ↔ d.month = 6 := hmonth 6 (by decide)
  have h9 : UInt8.ofNat d.month = 9 ↔ d.month = 9 := hmonth 9 (by decide)
  have h11 : UInt8.ofNat d.month = 11 ↔ d.month = 11 := hmonth 11 (by decide)
  have h13 : UInt8.ofNat d.month = 13 ↔ d.month = 13 := hmonth 13 (by decide)
  have h28 : UInt8.ofNat d.day + 1 = 29 ↔ d.day = 28 := hday 28 (by decide)
  have h29 : UInt8.ofNat d.day + 1 = 30 ↔ d.day = 29 := hday 29 (by decide)
  have h30 : UInt8.ofNat d.day + 1 = 31 ↔ d.day = 30 := hday 30 (by decide)
  have h31 : UInt8.ofNat d.day + 1 = 32 ↔ d.day = 31 := hday 31 (by decide)
  rw [ymd_nextDay d hge]
  unfold nextDate ymd monthLength
  simp only [h2, h4, h6, h9, h11, h28, h29, h30, h31, hleap]
  by_cases hfeb : d.month = 2
  · rw [if_pos hfeb, if_pos hfeb, if_neg (by omega : ¬ d.month = 12)]
    split <;> rfl
  · rw [if_neg hfeb, if_neg hfeb]
    split
    · rw [if_neg (by omega : ¬ d.month = 12)]
    · by_cases hlast : d.day = 31
      · rw [if_pos hlast, if_pos hlast]
        simp only [hdec]
      · rw [if_neg hlast, if_neg hlast]
        simp only [h13]
        rw [if_neg (by omega)]

/-- The UTC time; the local one goes to the position. -/
theorem handled_time (x : RmcSentence) :
    Handled 2 x.timeText w
      { w with
        info.time := hms (x.utc.addHours 8 (by decide))
        time := hms (x.utc.addHours 8 (by decide))
        fDateModify := if x.utc.hour + 8 < 24 then w.fDateModify else 1 } := by
  intro t h hseen
  obtain ⟨hdigits, hhour, hmin, hsec⟩ := threePairs_eq h
    (x.utc.hour_lt.trans (by decide)) (x.utc.min_lt.trans (by decide))
    (x.utc.sec_lt.trans (by decide))
  have hlen : ¬ t.len < 6 := by
    rw [h.len]
    simp only [RmcSentence.timeText, decimal, List.length_append,
      List.length_nil, List.length_singleton]
    omega
  have hfield : RmcVars.field (UInt8.ofNat 2) t.len t.user t.buf =
      t.user.timeField t.buf := by
    rw [RmcVars.field, if_pos (by decide), if_neg hlen, if_pos hdigits]
  rw [hfield]
  refine ⟨timeField_accepted t.user t.buf, ?_⟩
  obtain ⟨hsame, hnext⟩ := localHour x.utc.hour x.utc.hour_lt
  unfold RmcVars.timeField DateTime.addHours
  dsimp only
  rw [hhour, hmin, hsec]
  by_cases hday : x.utc.hour + 8 < 24
  · rw [if_neg (hsame hday).1, dif_pos hday, if_pos hday, (hsame hday).2,
      ← hseen]
    dsimp only [RmcVars.seen, timePro, hms]
    rw [hmin, hsec]
  · rw [if_pos (hnext hday).1, dif_neg hday, if_neg hday, (hnext hday).2,
      ← hseen]
    -- the new hour is written in front of the minutes
    have hfront : ∀ a b i, 1 < i → Function.update (Function.update t.buf 0 a)
        1 b i = t.buf i := by
      intro a b i hi
      rw [Function.update_of_ne hi.ne', Function.update_of_ne (by omega)]
    dsimp only [RmcVars.seen, timePro, hms]
    unfold twoDigits at hmin hsec ⊢
    rw [hfront _ _ 2 (by decide), hfront _ _ (2 + 1) (by decide),
      hfront _ _ 4 (by decide), hfront _ _ (4 + 1) (by decide), hmin, hsec]

/-- The UTC date; the local one goes to the position. -/
theorem handled_date (x : RmcSentence) (hge : 2000 ≤ x.utc.date.year)
    (hlt : x.utc.date.year < 2100)
    (hmodify : w.fDateModify = if x.utc.hour + 8 < 24 then 0 else 1) :
    Handled 10 x.dateText w
      { w with info.date := ymd (x.utc.addHours 8 (by decide)).date } := by
  intro t h hseen
  have hdayLe := x.utc.date.day_le.trans (monthLength_le _ _)
  have hmonthLe := x.utc.date.month_le
  have hpairs : rmcScanner.Holding t (x.dateText ++ []) := by
    rw [List.append_nil]
    exact h
  obtain ⟨hdigits, hday, hmonth, hyear⟩ := threePairs_eq hpairs (by omega)
    (by omega) (by omega)
  have hread : fieldDate t.buf w.fDateModify =
      ymd (x.utc.addHours 8 (by decide)).date := by
    unfold fieldDate DateTime.addHours
    dsimp only
    rw [hday, hmonth, hyear, hmodify]
    by_cases hsame : x.utc.hour + 8 < 24
    · rw [if_pos hsame, dif_pos hsame]
      rfl
    · rw [if_neg hsame, dif_neg hsame]
      exact nextDate_ymd x.utc.date hge hlt
  have hfield : RmcVars.field (UInt8.ofNat 10) t.len t.user t.buf =
      { user :=
          { t.user with
            gps := t.user.gps.datePro t.buf t.user.fDateModify t.user.time }
        buf := t.buf } := by
    rw [RmcVars.field, if_neg (by decide), if_pos (by decide), if_pos hdigits]
  rw [hfield]
  refine ⟨rfl, ?_⟩
  have hkeeps := datePro_keeps t.user.gps t.buf t.user.fDateModify t.user.time
  rw [← hseen] at hread ⊢
  rw [RmcVars.seen, RmcVars.seen]
  dsimp only
  rw [hkeeps.info, hkeeps.flag]
  dsimp only
  rw [← hread]
  rfl

end Handlers

/-! ## Whole sentences -/

theorem cString_append {xs : List UInt8} (h : ∀ c ∈ xs, c ≠ 0)
    (rest : List UInt8) : cString (xs ++ 0 :: rest) = xs := by
  have hall : ∀ c ∈ xs, (decide (c ≠ 0)) = true :=
    fun c hc => decide_eq_true (h c hc)
  rw [cString, List.takeWhile_append_of_pos hall, List.takeWhile_cons_of_neg
    (by decide), List.append_nil]

/-- Complete fields, the first of them behind `n` commas, take the variables from
one state to another. -/
inductive Reads : ℕ → List (List UInt8) → Seen → Seen → Prop
  | nil {n : ℕ} {w : Seen} : Reads n [] w w
  | cons {n : ℕ} {xs : List UInt8} {fs : List (List UInt8)} {w w₁ w₂ : Seen} :
      Handled (n + 1) xs w w₁ → (xs = [] → w₁ = w) → Reads (n + 1) fs w₁ w₂ →
        Reads n (xs :: fs) w w₂

theorem Behind.reads {n : ℕ} {fs : List (List UInt8)} {w w' : Seen}
    (hreads : Reads n fs w w') {s : ScanState UInt8 RmcVars}
    (h : Behind n w s) (hplain : ∀ f ∈ fs, ∀ c ∈ f, c ≠ 0x2C)
    (hshort : ∀ f ∈ fs, f.length ≤ 15) (rest : List UInt8) :
    ∃ s', rmcScanner.run s (fs.flatMap (fun f => f ++ [0x2C]) ++ rest) =
        rmcScanner.run s' rest ∧ Behind (n + fs.length) w' s' := by
  induction hreads generalizing s with
  | nil => exact ⟨s, rfl, h⟩
  | cons hfield hempty _ ih =>
      rename_i n xs fs w w₁ w₂ _
      obtain ⟨s₁, hrun, h₁⟩ := h.field (hplain xs List.mem_cons_self)
        (hshort xs List.mem_cons_self) (fun _ => hfield) hempty
        (fs.flatMap (fun f => f ++ [0x2C]) ++ rest)
      obtain ⟨s₂, hrun₂, h₂⟩ := ih h₁
        (fun f hf => hplain f (List.mem_cons_of_mem xs hf))
        (fun f hf => hshort f (List.mem_cons_of_mem xs hf))
      refine ⟨s₂, ?_, ?_⟩
      · rw [List.flatMap_cons, List.append_assoc, List.append_assoc,
          List.singleton_append, hrun, hrun₂]
      · rw [List.length_cons, Nat.add_comm fs.length, ← Nat.add_assoc]
        exact h₂

theorem Reads.other {n : ℕ} {w : Seen} {xs : List UInt8}
    {fs : List (List UInt8)} {w' : Seen} (hother : n + 1 ∉ [2, 3, 4, 6, 10])
    (hn : n + 1 < 256) (h : Reads (n + 1) fs w w') : Reads n (xs :: fs) w w' :=
  .cons (handled_other hn hother xs) (fun _ => rfl) h

/-- The fields behind the date. -/
theorem reads_behind_date {w : Seen} (fs : List (List UInt8)) {n : ℕ}
    (hn : 10 ≤ n) (hlt : n + fs.length < 256) : Reads n fs w w := by
  induction fs generalizing n with
  | nil => exact .nil
  | cons f fs ih =>
      rw [List.length_cons] at hlt
      have hother : n + 1 ∉ [2, 3, 4, 6, 10] := by
        simp only [List.mem_cons, List.not_mem_nil, or_false]
        omega
      exact .other hother (by omega) (ih (by omega) (by omega))

/-- What a well-formed sentence leaves. -/
theorem reads_sentence {x : RmcSentence} (hx : x.WellFormed)
    (hlatitude : x.latitude.NonZeroToFour)
    (hlongitude : x.longitude.NonZeroToFour) {w : Seen}
    (hw : w.fDateModify = 0) :
    ∃ w', Reads 0 (x.leading ++ x.between) w w' ∧
      w'.info = ⟨ymd (x.utc.addHours 8 (by decide)).date,
        hms (x.utc.addHours 8 (by decide)),
        beBytes4 x.latitude.micro, beBytes4 x.longitude.micro⟩ := by
  refine ⟨_, .other (by decide) (by decide) <|
    .cons (handled_time x) (fun h => absurd h (by simp [RmcSentence.timeText, decimal])) <|
    .cons handled_status (fun h => absurd h (by simp)) <|
    .cons (handled_latitude rfl hlatitude)
      (fun h => absurd h (by simp [Coordinate.text])) <|
    .other (by decide) (by decide) <|
    .cons (handled_longitude rfl hlongitude)
      (fun h => absurd h (by simp [Coordinate.text])) <|
    .other (by decide) (by decide) <| .other (by decide) (by decide) <|
    .other (by decide) (by decide) <|
    .cons (handled_date x hx.year_ge hx.year_lt (by rw [hw]))
      (fun h => absurd h (by simp [RmcSentence.dateText, decimal])) <|
    reads_behind_date x.between (by decide) ?_, ?_⟩
  · have hlt := hx.between_lt
    omega
  · rfl

/-- The position after a well-formed sentence. -/
theorem processRmc_info (s : GpsState) (tmpinfo : ℕ → UInt8) {x : RmcSentence}
    (hx : x.WellFormed) (hlatitude : x.latitude.NonZeroToFour)
    (hlongitude : x.longitude.NonZeroToFour) (rest : List UInt8) :
    (processRmc s tmpinfo (x.text ++ 0 :: rest)).1.tempGpsGprs =
      ⟨ymd (x.utc.addHours 8 (by decide)).date,
        hms (x.utc.addHours 8 (by decide)),
        beBytes4 x.latitude.micro, beBytes4 x.longitude.micro⟩ := by
  have hfields : ∀ f ∈ x.leading ++ x.between,
      f ∈ x.leading ++ x.between ++ [x.last] :=
    fun f hf => List.mem_append_left _ hf
  have hlast : x.last ∈ x.leading ++ x.between ++ [x.last] :=
    List.mem_append_right _ List.mem_cons_self
  have htext : ∀ c ∈ x.text, c ≠ 0 := by
    intro c hc
    rcases List.mem_append.mp hc with hc | hc
    · obtain ⟨f, hf, hcf⟩ := List.mem_flatMap.mp hc
      rcases List.mem_append.mp hcf with hcf | hcf
      · exact fun hzero => (hx.plain f (hfields f hf)).1 (hzero ▸ hcf)
      · rw [List.mem_singleton.mp hcf]
        decide
    · exact fun hzero => (hx.plain x.last hlast).1 (hzero ▸ hc)
  obtain ⟨w, hreads, hw⟩ := reads_sentence hx hlatitude hlongitude
    (w := RmcVars.seen { gps := s }) rfl
  have hstart : Behind 0 (RmcVars.seen { gps := s })
      ⟨{ gps := s }, tmpinfo, 0, 0, [], []⟩ := ⟨rfl, rfl, rfl⟩
  obtain ⟨s₁, hrun, h₁⟩ := hstart.reads hreads
    (fun f hf c hc hcomma => (hx.plain f (hfields f hf)).2 (hcomma ▸ hc))
    (fun f hf => (hx.short f (hfields f hf)).trans (by decide)) x.last
  have hshort : x.last.length ≤ 15 := (hx.short x.last hlast).trans (by decide)
  have hsep : ∀ c ∈ x.last, rmcScanner.isSep c = false :=
    fun c hc => decide_eq_false
      fun hcomma => (hx.plain x.last hlast).2 (hcomma ▸ hc)
  have hend := run_foldl rmc_fits (s := s₁) [] hsep
    (by rw [h₁.len, Nat.zero_add]; exact hshort)
  have hstored := stored_foldl rmc_fits h₁.len x.last hshort
  rw [List.append_nil] at hend
  rw [processRmc, scanSentence, cString_append htext, RmcSentence.text, hrun,
    hend]
  change (GpsState.gpsDeltaDurPro _).tempGpsGprs = _
  rw [gpsDeltaDurPro_info, FieldScanner.run, hstored.user, ← hw, ← h₁.seen]
  rfl

/-- A well-formed sentence whose coordinates are not 0 in the first four
decimals leaves the local date and time and the coordinates. -/
theorem processRmc_decodes (s : GpsState) (tmpinfo : ℕ → UInt8)
    (x : RmcSentence) (hx : x.WellFormed)
    (hlatitude : x.latitude.NonZeroToFour)
    (hlongitude : x.longitude.NonZeroToFour) (rest : List UInt8) :
    Decodes (processRmc s tmpinfo (x.text ++ 0 :: rest)).1.tempGpsGprs x := by
  have hbyte : ∀ n : ℕ, n < 256 → (UInt8.ofNat n).toNat = n :=
    fun n hn => UInt8.toNat_ofNat_of_lt' hn
  rw [processRmc_info s tmpinfo hx hlatitude hlongitude rest]
  refine ⟨⟨x.utc.addHours 8 (by decide), x.utc.instant_addHours 8 (by decide),
    ?_, ?_, ?_, ?_, ?_, ?_⟩, rfl, rfl⟩
  · have hge := hx.year_ge
    have hlt := hx.year_lt
    have hyear := x.utc.year_addHours 8 (by decide)
    exact (congrArg (2000 + ·) (hbyte _ (by omega))).trans (by omega)
  · have hle := (x.utc.addHours 8 (by decide)).date.month_le
    exact hbyte _ (by omega)
  · have hle := (x.utc.addHours 8 (by decide)).date.day_le.trans
      (monthLength_le _ _)
    exact hbyte _ (by omega)
  · have hlt := (x.utc.addHours 8 (by decide)).hour_lt
    exact hbyte _ (by omega)
  · have hlt := (x.utc.addHours 8 (by decide)).min_lt
    exact hbyte _ (by omega)
  · have hlt := (x.utc.addHours 8 (by decide)).sec_lt
    exact hbyte _ (by omega)

/-- A sentence with the given latitude. -/
def sentenceAt (latitude : Coordinate 100) : RmcSentence where
  talker := ascii "$GPRMC"
  utc :=
    { date := { year := 2005, month := 3, day := 30 }
      hour := 16
      min := 38
      sec := 35 }
  secondDecimals := ascii ".00"
  latitude := latitude
  northSouth := ascii "N"
  longitude := { degrees := 117, minutes := 12, decimals := 5039 }
  eastWest := ascii "E"
  speed := ascii "0.192"
  course := ascii "150.85"
  between := [[], []]
  last := ascii "A*64"

theorem processRmc_decodes_sentence :
    Decodes (processRmc {} (fun _ => 0)
      ((sentenceAt { degrees := 39, minutes := 9, decimals := 1136 }).text ++
        [0])).1.tempGpsGprs
      (sentenceAt { degrees := 39, minutes := 9, decimals := 1136 }) :=
  processRmc_decodes {} (fun _ => 0)
    (sentenceAt { degrees := 39, minutes := 9, decimals := 1136 })
    ⟨by decide, by decide, by decide, by decide, by decide⟩ (.inl (by decide))
    (.inl (by decide)) []

/-- A latitude of `0000.00001` leaves that of the sentence before. -/
theorem nearEquator_not_decoded :
    let x := sentenceAt
      { degrees := 0, minutes := 0, decimals := 0, further := ascii "1" }
    x.WellFormed ∧ x.latitude.NonZero ∧ x.longitude.NonZero ∧
      ¬ Decodes (processRmc { tempGpsGprs.latitude := [1, 2, 3, 4] }
        (fun _ => 0) (x.text ++ [0])).1.tempGpsGprs x := by
  refine ⟨⟨by decide, by decide, by decide, by decide, by decide⟩,
    .inr (.inr (.inr ⟨0x31, by decide, by decide⟩)), .inl (by decide), ?_⟩
  intro h
  have hlatitude := h.latitude
  rw [Coordinate.micro_eq] at hlatitude
  exact absurd hlatitude (by decide)

end VehicleRecorder.Gps
