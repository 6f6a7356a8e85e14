import VehicleRecorder.Camera.MediaIndex

/-!
# What the media index holds

The records of the index after any run of `Save_MediaIndex` since
`MediaIndex_Init`: the first eight pictures stand in the records 0 to 7, and
every picture behind the eighth takes the place of record 0.
-/

namespace VehicleRecorder.Camera

open NorFlash Bytes Dataflash Runs

/-- A record of the index, as the read for an answer sees it. -/
def indexRecord (d : Device) (t : IndexedType) (i : ℕ) : List UInt8 :=
  apiRecordNumRead d t.record i 52

/-- `MediaIndex` as a call fills it. -/
def MediaCall.bytes (c : MediaCall) : List UInt8 :=
  mediaIndexBytes c.stamp c.name c.type.code.toNat c.id c.evencode

theorem MediaCall.bytes_length (c : MediaCall) : c.bytes.length = 52 :=
  mediaIndexBytes_length _ _ _ _ _

/-- A call fills its record and no other. -/
theorem indexRecord_saveCall (d : Device) (c : MediaCall) (t : IndexedType)
    {i : ℕ} (hi : i < 8) :
    indexRecord (saveCall d c) t i =
      if t = c.type ∧ i = slotOf d c.type then c.bytes
      else indexRecord d t i := by
  have hslot : slotOf d c.type < 8 := freeIndex_lt d c.type.code
  have hshort : c.bytes.length ≤ dfBakSize :=
    c.bytes_length.trans_le (by decide)
  rw [indexRecord, saveCall_eq, ← MediaCall.bytes]
  split
  · rename_i hsame
    obtain ⟨rfl, rfl⟩ := hsame
    have hread := apiRecordNumRead_write d (record_page_lt (t := c.type) hslot)
      hshort
    rwa [c.bytes_length] at hread
  · rename_i hother
    exact apiRecordNumRead_write_of_ne d (record_page_lt hslot) hshort
      (record_page_lt hi) (by decide)
      fun hpage => hother (record_page_inj hi hslot hpage)

/-! ## The pictures in the records -/

/-- The pictures among some calls. -/
def pictures (cs : List MediaCall) : List MediaCall :=
  cs.filter (·.type = .picture)

/-- The pictures in the records: the first eight, and in place of the first one
the last of those behind them. -/
def recorded (ps : List MediaCall) : List MediaCall :=
  match (ps.drop 8).getLast? with
  | none => ps
  | some last => last :: (ps.drop 1).take 7

theorem recorded_of_le {ps : List MediaCall} (h : ps.length ≤ 8) :
    recorded ps = ps := by
  rw [recorded, List.drop_eq_nil_of_le h]
  rfl

theorem recorded_concat_of_lt {ps : List MediaCall} (h : ps.length < 8)
    (c : MediaCall) : recorded (ps ++ [c]) = recorded ps ++ [c] := by
  have hle : (ps ++ [c]).length ≤ 8 := by
    rw [List.length_append]
    exact h
  rw [recorded_of_le hle, recorded_of_le (Nat.le_of_lt h)]

theorem drop_recorded {ps : List MediaCall} (h : 8 ≤ ps.length) :
    (recorded ps).drop 1 = (ps.drop 1).take 7 := by
  rw [recorded]
  split
  · rename_i hnone
    have hlen := List.drop_eq_nil_iff.mp (List.getLast?_eq_none_iff.mp hnone)
    rw [List.take_of_length_le]
    rw [List.length_drop]
    omega
  · rfl

theorem recorded_concat_of_le {ps : List MediaCall} (h : 8 ≤ ps.length)
    (c : MediaCall) : recorded (ps ++ [c]) = c :: (recorded ps).drop 1 := by
  have hlast : ((ps ++ [c]).drop 8).getLast? = some c := by
    rw [List.drop_append_of_le_length h, List.getLast?_concat]
  have hone : 1 ≤ ps.length := by omega
  rw [drop_recorded h, recorded, hlast]
  dsimp only
  rw [List.drop_append_of_le_length hone, List.take_append_of_le_length]
  rw [List.length_drop]
  omega

theorem length_recorded (ps : List MediaCall) :
    (recorded ps).length = min 8 ps.length := by
  by_cases h : ps.length ≤ 8
  · rw [recorded_of_le h, Nat.min_eq_right h]
  · have hpos : 0 < (recorded ps).length := by
      rw [recorded]
      split
      · omega
      · exact Nat.succ_pos _
    have hdrop := congrArg List.length (drop_recorded (Nat.le_of_not_le h))
    rw [List.length_drop, List.length_take, List.length_drop] at hdrop
    omega

/-- A picture takes the record behind those in use, or record 0. -/
theorem getElem?_recorded_concat (ps : List MediaCall) (c : MediaCall) (i : ℕ) :
    (recorded (ps ++ [c]))[i]? =
      if i = (if min 8 ps.length < 8 then min 8 ps.length else 0) then some c
      else (recorded ps)[i]? := by
  by_cases hlt : ps.length < 8
  · rw [Nat.min_eq_right (Nat.le_of_lt hlt), if_pos hlt,
      recorded_concat_of_lt hlt, recorded_of_le (Nat.le_of_lt hlt)]
    rcases Nat.lt_trichotomy i ps.length with hold | rfl | hbehind
    · rw [if_neg (Nat.ne_of_lt hold), List.getElem?_append_left hold]
    · rw [if_pos rfl, List.getElem?_concat_length]
    · rw [if_neg (Nat.ne_of_gt hbehind), List.getElem?_eq_none_iff.mpr,
        List.getElem?_eq_none_iff.mpr (Nat.le_of_lt hbehind)]
      rw [List.length_append]
      exact hbehind
  · have hle := Nat.le_of_not_lt hlt
    rw [Nat.min_eq_left hle, if_neg (Nat.lt_irrefl 8), recorded_concat_of_le hle]
    cases i with
    | zero => rfl
    | succ i =>
        rw [if_neg (Nat.succ_ne_zero i), List.getElem?_cons_succ,
          List.getElem?_drop, Nat.add_comm]

/-! ## Runs -/

/-- A save of a picture or a sound, or another operation on the flash. -/
inductive IndexEvent
  | save (c : MediaCall)
  | other (f : Device → Device)

/-- One event. -/
def IndexEvent.step (d : Device) : IndexEvent → Device
  | .save c => saveCall d c
  | .other f => f d

/-- Another operation leaves the records of the index alone. -/
def IndexEvent.SparesIndex (d : Device) : IndexEvent → Prop
  | .save _ => True
  | .other f => ∀ t, ∀ i < 8, indexRecord (f d) t i = indexRecord d t i

/-- Records of the other classes lie outside the index. -/
theorem sparesIndex_write (d : Device) {name : RecordName} {n : ℕ}
    {buffer : List UInt8} (hpage : name.writePage + n < 8192)
    (hlen : buffer.length ≤ dfBakSize)
    (hne : name.writePage + n < 1480 ∨ 1496 ≤ name.writePage + n) :
    (IndexEvent.other fun d => apiRecordNumWrite d name n buffer).SparesIndex
      d := by
  intro t i hi
  have hlo : 1480 ≤ t.record.writePage := by cases t <;> decide
  have hhi : t.record.writePage ≤ 1488 := by cases t <;> decide
  exact apiRecordNumRead_write_of_ne d hpage hlen (record_page_lt hi)
    (by decide) (by omega)

/-- The saves among some events. -/
def saves (es : List IndexEvent) : List MediaCall :=
  es.filterMap fun
    | .save c => some c
    | .other _ => none

/-- The index holds the pictures saved last. -/
structure Indexes (d : Device) (cs : List MediaCall) : Prop where
  filled : ∃ s, Filled (min 8 (pictures cs).length) s d
  record : ∀ i c, (recorded (pictures cs))[i]? = some c →
    indexRecord d .picture i = c.bytes

theorem indexes_init (d : Device) : Indexes (mediaIndexInit d) [] where
  filled := ⟨false, filled_init d⟩
  record := nofun

theorem pictures_concat (cs : List MediaCall) (c : MediaCall) :
    pictures (cs ++ [c]) =
      if c.type = .picture then pictures cs ++ [c] else pictures cs := by
  rw [pictures, List.filter_append]
  cases hc : c.type with
  | picture => simp [pictures, hc]
  | sound => simp [pictures, hc]

theorem lt_of_recorded {cs : List MediaCall} {i : ℕ} {c : MediaCall}
    (h : (recorded (pictures cs))[i]? = some c) : i < 8 := by
  obtain ⟨hi, -⟩ := List.getElem?_eq_some_iff.mp h
  rw [length_recorded] at hi
  omega

theorem Indexes.picture {d : Device} {cs : List MediaCall} (h : Indexes d cs)
    {c : MediaCall} (hc : c.type = .picture) :
    Indexes (saveCall d c) (cs ++ [c]) := by
  obtain ⟨s, hfilled⟩ := h.filled
  have hpictures : pictures (cs ++ [c]) = pictures cs ++ [c] := by
    rw [pictures_concat, if_pos hc]
  refine ⟨⟨s, ?_⟩, fun i b hb => ?_⟩
  · have hnext := hfilled.picture_call hc
    rw [hpictures, List.length_append, List.length_singleton]
    convert hnext using 1
    omega
  · have hi := lt_of_recorded hb
    rw [hpictures, getElem?_recorded_concat, ← hfilled.slotOf_picture] at hb
    rw [indexRecord_saveCall d c .picture hi, hc]
    split at hb
    · rename_i hnew
      rw [if_pos ⟨rfl, hnew⟩, Option.some.inj hb]
    · rename_i hold
      rw [if_neg fun hsame => hold hsame.2]
      exact h.record i b hb

theorem Indexes.sound {d : Device} {cs : List MediaCall} (h : Indexes d cs)
    {c : MediaCall} (hc : c.type = .sound) :
    Indexes (saveCall d c) (cs ++ [c]) := by
  obtain ⟨s, hfilled⟩ := h.filled
  have hpictures : pictures (cs ++ [c]) = pictures cs := by
    rw [pictures_concat, if_neg (by rw [hc]; exact IndexedType.noConfusion)]
  refine ⟨⟨true, ?_⟩, fun i b hb => ?_⟩
  · rw [hpictures]
    exact hfilled.sound_call hc
  · have hi := lt_of_recorded hb
    rw [hpictures] at hb
    rw [indexRecord_saveCall d c .picture hi, hc,
      if_neg fun hsame => IndexedType.noConfusion hsame.1]
    exact h.record i b hb

theorem Indexes.other {d d' : Device} {cs : List MediaCall} (h : Indexes d cs)
    (hkeep : ∀ t, ∀ i < 8, indexRecord d' t i = indexRecord d t i) :
    Indexes d' cs := by
  obtain ⟨s, hfilled⟩ := h.filled
  have hflag (t : IndexedType) {i : ℕ} (hi : i < 8) :
      effectiveFlag d' t i = effectiveFlag d t i :=
    congrArg (·.headD 0) (hkeep t i hi)
  refine ⟨⟨s, hfilled.pictures, fun i hi => ?_, fun i hi => ?_⟩,
    fun i b hb => ?_⟩
  · rw [hflag .picture hi, hfilled.picture i hi]
  · rw [hflag .sound hi, hfilled.sound i hi]
  · rw [hkeep .picture i (lt_of_recorded hb)]
    exact h.record i b hb

theorem Indexes.step {d : Device} {cs : List MediaCall} (h : Indexes d cs)
    {e : IndexEvent} (he : e.SparesIndex d) :
    Indexes (e.step d) (cs ++ saves [e]) := by
  cases e with
  | save c =>
      cases hc : c.type with
      | picture => exact h.picture hc
      | sound => exact h.sound hc
  | other f =>
      rw [show saves [.other f] = [] from rfl, List.append_nil]
      exact h.other he

/-- After any run of saves the index holds the pictures saved last. -/
theorem indexes_run {d : Device} {cs : List MediaCall} (h : Indexes d cs)
    {es : List IndexEvent}
    (hes : Meeting IndexEvent.step (fun d e => e.SparesIndex d) d es) :
    Indexes (es.foldl IndexEvent.step d) (cs ++ saves es) := by
  induction es generalizing d cs with
  | nil =>
      rw [show saves [] = [] from rfl, List.append_nil]
      exact h
  | cons e es ih =>
      have hcons : saves (e :: es) = saves [e] ++ saves es :=
        List.filterMap_append (l := [e])
      rw [List.foldl_cons, hcons, ← List.append_assoc]
      exact ih (h.step hes.1) hes.2

end VehicleRecorder.Camera
