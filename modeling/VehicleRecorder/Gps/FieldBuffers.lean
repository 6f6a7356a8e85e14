import VehicleRecorder.Gps.Sentences

/-!
# The field buffers of the sentences

The length of a field is looked at behind the character just stored and the zero
put behind it, and with a bound of its own.  `tmpinfo[15]` takes the fields of
15 characters and `tmpinfo[12]` only those of 11, one less than the longest that
is let pass.
-/

namespace VehicleRecorder.Gps

open FieldScanner MaximalRuns

/-! ## The three scanners -/

theorem rmc_fits : rmcScanner.Fits 15 15 where
  le := Nat.le_refl 15
  terminator _ _ hterm := of_decide_eq_true hterm
  shorter _ hn := decide_eq_false (Nat.not_lt.mpr hn)
  overflow := .inl (Nat.le_refl 15)

theorem txt_fits : txtScanner.Fits 12 11 where
  le := by decide
  terminator _ hn _ := Nat.lt_succ_of_le hn
  shorter _ hn := decide_eq_false (by omega)
  overflow := .inr ⟨rfl, Nat.le_refl 12⟩

theorem gga_fits : ggaScanner.Fits 12 11 where
  le := by decide
  terminator _ hn _ := Nat.lt_succ_of_le hn
  shorter _ hn := decide_eq_false (by omega)
  overflow := .inr ⟨rfl, Nat.le_refl 12⟩

/-- The first six characters of a field are digits. -/
def sixDigits (xs : List UInt8) : Bool :=
  decide (6 ≤ xs.length) && (xs.take 6).all isDigit

/-- The times and dates that end `Process_RMC`. -/
def rmcRejects (commaCount : UInt8) (xs : List UInt8) : Bool :=
  (commaCount = 2 || commaCount = 10) && !sixDigits xs

/-- `Process_TXT` and `Process_GGA` go on behind every field. -/
def noneRejected (_ : UInt8) (_ : List UInt8) : Bool := false

theorem digitsAt_iff {tmpinfo : ℕ → UInt8} {places : List ℕ} :
    digitsAt tmpinfo places = true ↔ ∀ i ∈ places, isDigit (tmpinfo i) = true :=
  List.all_eq_true

section Rmc

variable {s : ScanState UInt8 RmcVars} {xs : List UInt8}

/-- The six digits are found in the buffer; a shorter field has a zero among the
six characters. -/
theorem digitsAt_six (h : rmcScanner.Holding s xs) (hne : xs ≠ []) :
    digitsAt s.buf [0, 1, 2, 3, 4, 5] = sixDigits xs := by
  have hplaces : [0, 1, 2, 3, 4, 5] = List.range 6 := rfl
  rw [Bool.eq_iff_iff, digitsAt_iff, hplaces, sixDigits, Bool.and_eq_true,
    decide_eq_true_iff, List.all_eq_true]
  constructor
  · intro hdigits
    have hsix : 6 ≤ xs.length := by
      by_contra hshort
      have hlt : xs.length < 6 := Nat.not_le.mp hshort
      have hzero : s.buf xs.length = 0 :=
        h.terminated hne (decide_eq_true (by omega))
      have hdigit := hdigits xs.length (List.mem_range.mpr hlt)
      rw [hzero] at hdigit
      exact absurd hdigit (by decide)
    refine ⟨hsix, fun c hc => ?_⟩
    obtain ⟨i, hi⟩ := List.getElem?_of_mem hc
    have hlt : i < 6 := by
      by_contra hge
      rw [List.getElem?_take_eq_none (Nat.not_lt.mp hge)] at hi
      exact Option.some_ne_none c hi.symm
    rw [List.getElem?_take_of_lt hlt, h.chars i (by omega)] at hi
    exact Option.some_inj.mp hi ▸ hdigits i (List.mem_range.mpr hlt)
  · rintro ⟨hsix, hall⟩ i hi
    have hlt : i < 6 := List.mem_range.mp hi
    have hchar := h.chars i (by omega)
    rw [← List.getElem?_take_of_lt hlt] at hchar
    exact hall _ (List.mem_of_getElem? hchar)

theorem timeField_accepted (v : RmcVars) (tmpinfo : ℕ → UInt8) :
    (v.timeField tmpinfo).accepted = true := by
  unfold RmcVars.timeField
  dsimp only
  split <;> rfl

theorem rmc_outcome_accepted (h : rmcScanner.Holding s xs) (hne : xs ≠ []) :
    (rmcScanner.outcome s).accepted = !rmcRejects (s.count + 1) xs := by
  have hsix := digitsAt_six h hne
  change (RmcVars.field (s.count + 1) s.len s.user s.buf).accepted = _
  unfold RmcVars.field rmcRejects
  rw [hsix]
  by_cases htime : s.count + 1 = 2
  · rw [if_pos htime, decide_eq_true htime, Bool.true_or, Bool.true_and,
      Bool.not_not]
    by_cases hshort : s.len < 6
    · have hfew : sixDigits xs = false := by
        rw [sixDigits, decide_eq_false (by rw [← h.len]; omega), Bool.false_and]
      rw [if_pos hshort, hfew]
    · rw [if_neg hshort]
      cases sixDigits xs with
      | true =>
          rw [if_pos rfl]
          exact timeField_accepted _ _
      | false => rfl
  · rw [if_neg htime, decide_eq_false htime, Bool.false_or]
    by_cases hdate : s.count + 1 = 10
    · rw [if_pos hdate, decide_eq_true hdate, Bool.true_and, Bool.not_not]
      cases sixDigits xs with
      | true => rfl
      | false => rfl
    · rw [if_neg hdate, decide_eq_false hdate]
      rfl

theorem rmc_outcome_writes (s : ScanState UInt8 RmcVars) :
    ∀ i ∈ (rmcScanner.outcome s).writes, i < 15 := by
  change ∀ i ∈ (RmcVars.field (s.count + 1) s.len s.user s.buf).writes, i < 15
  unfold RmcVars.field RmcVars.timeField
  dsimp only
  repeat' split
  all_goals simp

end Rmc

theorem rmc_handles : rmcScanner.Handles 15 15 rmcRejects where
  accepted _ _ h hne _ := rmc_outcome_accepted h hne
  inBounds := rmc_outcome_writes

theorem txt_handles : txtScanner.Handles 12 11 noneRejected where
  accepted _ _ _ _ _ := rfl
  inBounds _ i hi := absurd hi (List.not_mem_nil (a := i))

theorem gga_handles : ggaScanner.Handles 12 11 noneRejected where
  accepted _ _ _ _ _ := rfl
  inBounds _ i hi := absurd hi (List.not_mem_nil (a := i))

/-! ## Sentences -/

section Sentence

variable {σ : Type} (P : FieldScanner UInt8 σ)
variable (rejects : UInt8 → List UInt8 → Bool)

/-- A parser writes only to its `tmpinfo`, and its handlers are given the
complete fields as they stand in the sentence. -/
structure FieldsHeld (size : ℕ) (user : σ) (tmpinfo : ℕ → UInt8)
    (packet : List UInt8) : Prop where
  inBounds : InBounds size (scanSentence P user tmpinfo packet).1
  whole : (scanSentence P user tmpinfo packet).1.handed =
    passed rejects 0 (P.cut (cString packet)).closed

/-- The fields that a parser comes to have at most `limit` characters, the one
behind the last separator among them. -/
def FieldsShort (limit : ℕ) (packet : List UInt8) : Prop :=
  ∀ xs ∈ reached rejects 0 (P.cut (cString packet)).closed
    (P.cut (cString packet)).opened, xs.length ≤ limit

instance (limit : ℕ) (packet : List UInt8) :
    Decidable (FieldsShort P rejects limit packet) :=
  inferInstanceAs (Decidable (∀ xs ∈ _, List.length xs ≤ limit))

variable {P} {rejects} {size limit : ℕ}

theorem fieldsHeld_iff_short (hfits : P.Fits size limit)
    (hhandles : P.Handles size limit rejects) (user : σ) (tmpinfo : ℕ → UInt8)
    (packet : List UInt8) :
    FieldsHeld P rejects size user tmpinfo packet ↔
      FieldsShort P rejects limit packet := by
  have hrun := run_text_iff hfits hhandles
    (s := ⟨user, tmpinfo, 0, 0, [], []⟩) rfl
    (fun i hi => absurd hi List.not_mem_nil) (cString packet)
  exact Iff.trans ⟨fun h => ⟨h.inBounds, h.whole⟩, fun h => ⟨h.1, h.2⟩⟩ hrun

end Sentence

/-- The parsers hold the fields of a sentence exactly when those they come to
have at most 15 characters in `Process_RMC`, and at most 11 in `Process_TXT`
and `Process_GGA`. -/
theorem fieldsHeld_iff (s : GpsState) (tmpinfo : ℕ → UInt8)
    (packet : List UInt8) :
    (FieldsHeld rmcScanner rmcRejects 15 { gps := s } tmpinfo packet ↔
        FieldsShort rmcScanner rmcRejects 15 packet) ∧
      (FieldsHeld txtScanner noneRejected 12 s tmpinfo packet ↔
        FieldsShort txtScanner noneRejected 11 packet) ∧
      (FieldsHeld ggaScanner noneRejected 12 s tmpinfo packet ↔
        FieldsShort ggaScanner noneRejected 11 packet) :=
  ⟨fieldsHeld_iff_short rmc_fits rmc_handles _ tmpinfo packet,
    fieldsHeld_iff_short txt_fits txt_handles s tmpinfo packet,
    fieldsHeld_iff_short gga_fits gga_handles s tmpinfo packet⟩

example : FieldsShort txtScanner noneRejected 11
    (ascii "$GNTXT,01,01,01,ANTENNA OK*2B") := by decide

/-- The zero behind the twelfth character lies outside, and the thirteenth ends
the scan in front of the handler. -/
theorem antennaShort_not_held :
    ¬ FieldsHeld txtScanner noneRejected 12 {} (fun _ => 0)
        (ascii "$GNTXT,01,01,01,ANTENNA SHORT*7D") ∧
      (5, ascii "ANTENNA SHORT") ∉ (scanSentence txtScanner {} (fun _ => 0)
        (ascii "$GNTXT,01,01,01,ANTENNA SHORT*7D")).1.handed := by
  refine ⟨fun h => absurd (h.inBounds 12 (by decide)) (by decide), by decide⟩

/-! ## What the sentences change -/

/-- The text of a shorted antenna is longer than any field that is handed
over. -/
theorem not_beginsWith_short {s : ScanState UInt8 GpsState} {xs : List UInt8}
    (h : txtScanner.Holding s xs) (hne : xs ≠ [])
    (hshort : txtScanner.tooLong xs.length = false) :
    beginsWith s.buf (ascii "ANTENNA SHORT") = false := by
  refine decide_eq_false fun hbegins => ?_
  have hle : xs.length ≤ 12 := Nat.not_lt.mp (of_decide_eq_false hshort)
  have hzero : s.buf xs.length = 0 := h.terminated hne rfl
  have hlt : xs.length < (ascii "ANTENNA SHORT").length :=
    Nat.lt_of_le_of_lt hle (by decide)
  have hchar := congrArg (fun text => text[xs.length]?) hbegins
  simp only [List.getElem?_map, List.getElem?_range hlt, Option.map_some,
    hzero] at hchar
  have hnone : 0 ∉ ascii "ANTENNA SHORT" := by decide
  exact hnone (List.mem_of_getElem? hchar.symm)

/-- No sentence sets the warning of a shorted antenna. -/
theorem processTxt_short {s : GpsState} (h : s.drive.warnStatus3 &&& 0x40 = 0)
    (tmpinfo : ℕ → UInt8) (packet : List UInt8) :
    (processTxt s tmpinfo packet).1.drive.warnStatus3 &&& 0x40 = 0 := by
  have hcleared (w : UInt8) : w &&& ~~~0x40 &&& 0x40 = 0 := by
    rw [UInt8.and_assoc, UInt8.not_and_self, UInt8.and_zero]
  refine user_run (P := txtScanner) (fun u => u.drive.warnStatus3 &&& 0x40 = 0)
    (fun _ _ hu => hu) ?_ (holding_nil rfl) (fun hne => absurd rfl hne) h
    (cString packet)
  intro t ys hholding hne hshort hu
  have htext := not_beginsWith_short hholding hne hshort
  have hopen (u : GpsState) (hu : u.drive.warnStatus3 &&& 0x40 = 0) :
      u.antennaIsOpen.drive.warnStatus3 &&& 0x40 = 0 := by
    rw [GpsState.antennaIsOpen]
    split
    · exact hcleared _
    · exact hu
  change (if t.count + 1 = 5 then t.user.antennaField t.buf
    else t.user).drive.warnStatus3 &&& 0x40 = 0
  split
  · rw [GpsState.antennaField, htext]
    dsimp only
    rw [if_neg Bool.false_ne_true]
    split
    · exact hcleared _
    · split
      · exact hopen t.user hu
      · exact hu
  · exact hu

/-- `Process_GGA` counts the satellites and changes nothing else. -/
theorem processGga_frame (s : GpsState) (tmpinfo : ℕ → UInt8)
    (packet : List UInt8) :
    ∃ sateliteNum fjSignalValue, (processGga s tmpinfo packet).1 =
      { s with
        sateliteNum := sateliteNum
        fjSignalValue := fjSignalValue } := by
  refine user_run (P := ggaScanner)
    (fun u => ∃ n v, u = { s with sateliteNum := n, fjSignalValue := v }) ?_ ?_
    (holding_nil rfl) (fun hne => absurd rfl hne) ⟨_, _, rfl⟩ (cString packet)
  · rintro count u ⟨num, value, rfl⟩
    by_cases hcount : count = 8
    · exact ⟨0, value, if_pos hcount⟩
    · exact ⟨num, value, if_neg hcount⟩
  · rintro t ys - - - ⟨num, value, hu⟩
    by_cases hcount : t.count + 1 = 8
    · exact ⟨_, _, (if_pos hcount).trans (by rw [hu])⟩
    · exact ⟨num, value, (if_neg hcount).trans hu⟩

end VehicleRecorder.Gps
