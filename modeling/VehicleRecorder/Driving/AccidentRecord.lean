import VehicleRecorder.Dataflash.DirectoryOrder
import VehicleRecorder.Driving.SaveProcess
import VehicleRecorder.Lib.RingWindow

/-!
# The record of an accident

`Sensor_buf` is a ring of a hundred samples, one for every 0.2 s; what fills it
is switched off in the source.  When an accident is suspected, `Save_Status`
writes them behind the time, from the oldest to the newest, with the XOR of all
at the end.  Its cursor goes up to 100, one behind the last slot, before it is
set to 0.
-/

namespace VehicleRecorder.Driving

open Bytes Dataflash RingWindow

/-! ## The record -/

/-- A sample in memory. -/
def DoubtSample.bytes (x : DoubtSample) : List UInt8 :=
  [x.doubtSpeed, x.doubtStatus]

/-- The slots of `Sensor_buf`. -/
abbrev sensorSlots : ℕ := 100

/-- What `Save_Status` writes. -/
def accidentRecord (s : DriveState) : List UInt8 :=
  let content := (time2BCD s.timeNow).bytes ++
    sensorBytes s.sensorBuf s.saveSensorCounter sensorSlots
  content ++ [xorSum content]

theorem saveStatus_eq (s : DriveState) :
    saveStatus s = s.directoryWrite .doubtData (accidentRecord s) := rfl

/-- The loop copies the samples that its cursor comes by. -/
theorem sensorBytes_eq (buf : ℕ → DoubtSample) (c n : ℕ) :
    sensorBytes buf c n =
      ((sweep sensorSlots c n).map buf).flatMap DoubtSample.bytes := by
  induction n generalizing c with
  | zero => rfl
  | succ n ih =>
      rw [sensorBytes, ih, sweep, List.map_cons, List.flatMap_cons]
      rfl

theorem length_sensorBytes (buf : ℕ → DoubtSample) (c n : ℕ) :
    (sensorBytes buf c n).length = n * 2 := by
  induction n generalizing c with
  | zero => rfl
  | succ n ih =>
      rw [sensorBytes, List.length_append, ih, Nat.succ_mul, Nat.add_comm]
      rfl

/-- The sample in a place of the record. -/
theorem getElem?_sensorBytes (buf : ℕ → DoubtSample) {c i n : ℕ}
    (hc : c ≤ sensorSlots) (hi : i < n) :
    (sensorBytes buf c n)[i * 2]? =
      some (buf ((c + i) % (sensorSlots + 1))).doubtSpeed := by
  have hrows : sensorBytes buf c n = (List.range n).flatMap fun i =>
      (buf ((c + i) % (sensorSlots + 1))).bytes := by
    rw [sensorBytes_eq, sweep_eq hc, List.map_map, List.flatMap_map]
    rfl
  have hget := getElem?_flatMap_range (w := 2) (k := 0) (fun i =>
    (buf ((c + i) % (sensorSlots + 1))).bytes) (fun _ => rfl) hi (by decide)
  rw [hrows]
  exact hget

theorem length_accidentRecord (s : DriveState) :
    (accidentRecord s).length = 207 := by
  rw [accidentRecord, List.length_append, List.length_append,
    length_sensorBytes]
  rfl

/-- The samples of the record. -/
theorem samples_accidentRecord (s : DriveState) :
    ((accidentRecord s).drop 6).take 200 =
      sensorBytes s.sensorBuf s.saveSensorCounter sensorSlots := by
  have hlen : (sensorBytes s.sensorBuf s.saveSensorCounter
      sensorSlots).length = 200 := length_sensorBytes _ _ _
  have htime : (time2BCD s.timeNow).bytes.length = 6 := rfl
  rw [accidentRecord, List.append_assoc, List.drop_left' htime,
    List.take_left' hlen]

/-- The record ends in the XOR of what is in front. -/
theorem check_accidentRecord (s : DriveState) :
    (accidentRecord s).drop 206 = [xorSum ((accidentRecord s).take 206)] := by
  have hlen : ((time2BCD s.timeNow).bytes ++ sensorBytes s.sensorBuf
      s.saveSensorCounter sensorSlots).length = 206 := by
    rw [List.length_append, length_sensorBytes]
    rfl
  rw [accidentRecord, List.drop_left' hlen, List.take_left' hlen]

/-- The record of an accident can be read from the flash. -/
theorem saveStatus_read {s : DriveState} {rs : List (List UInt8)}
    (h : Appended s.dev .doubtData rs)
    (hround : (rs.length + 1) % Log.doubt.slots ≠ 0) :
    (apiDFdirectoryRead (saveStatus s).dev .doubtData 207 0 0).2 =
      some (accidentRecord s) := by
  have hfits : (accidentRecord s).length ≤ RecordLog.doubtData.log.width := by
    rw [length_accidentRecord]
    decide
  have happended : Appended (saveStatus s).dev .doubtData
      (rs ++ [accidentRecord s]) := h.write hfits
  have hnewest : (rs ++ [accidentRecord s])[(rs ++ [accidentRecord s]).length -
      1 - 0]? = some (accidentRecord s) := by
    rw [List.length_append, List.length_singleton, Nat.sub_zero,
      Nat.add_sub_cancel, List.getElem?_concat_length]
  have hread := happended.read_newest hnewest hfits
    (by rw [List.length_append]; exact Nat.pos_of_ne_zero hround)
  rw [length_accidentRecord] at hread
  exact hread

/-! ## The order of the samples -/

/-- The record is that of the ring: nothing behind the ring goes into it, and it
holds the samples from the oldest to the newest and their XOR. -/
def RecordsInOrder (s : DriveState) : Prop :=
  (∀ buf : ℕ → DoubtSample, (∀ c < sensorSlots, buf c = s.sensorBuf c) →
      (saveStatus { s with sensorBuf := buf }).written =
        (saveStatus s).written) ∧
    ∃ record,
      (saveStatus s).written = s.written ++ [(.doubtData, record)] ∧
      record.length = 207 ∧
      (record.drop 6).take 200 =
        (window sensorSlots s.sensorBuf s.saveSensorCounter).flatMap
          DoubtSample.bytes ∧
      record.drop 206 = [xorSum (record.take 206)]

/-- From slot 0 on the cursor stays within the ring. -/
theorem recordsInOrder_of_zero {s : DriveState} (h : s.saveSensorCounter = 0) :
    RecordsInOrder s := by
  have hsamples : sensorBytes s.sensorBuf s.saveSensorCounter sensorSlots =
      (window sensorSlots s.sensorBuf s.saveSensorCounter).flatMap
        DoubtSample.bytes := by
    rw [sensorBytes_eq, h, map_sweep_zero]
  refine ⟨fun buf hbuf => ?_, accidentRecord s, rfl, length_accidentRecord s,
    (samples_accidentRecord s).trans hsamples, check_accidentRecord s⟩
  have hvisits :=
    (forall_mem_sweep_lt_iff (by decide : 0 < sensorSlots)).mpr rfl
  have hsame : sensorBytes buf s.saveSensorCounter sensorSlots =
      sensorBytes s.sensorBuf s.saveSensorCounter sensorSlots := by
    rw [sensorBytes_eq, sensorBytes_eq, h,
      List.map_congr_left fun c hc => hbuf c (hvisits c hc)]
  have hrecord : accidentRecord { s with sensorBuf := buf } =
      accidentRecord s := by
    rw [accidentRecord, accidentRecord, hsame]
  rw [saveStatus_eq, saveStatus_eq, hrecord]
  rfl

/-- If samples are put into the ring one by one up to its last slot, the record
is of the last hundred. -/
theorem samples_of_puts {s : DriveState} {r : SlotRing DoubtSample}
    {xs : List DoubtSample} (hnext : r.next < sensorSlots)
    (hxs : sensorSlots ≤ xs.length)
    (hbuf : s.sensorBuf = (xs.foldl (SlotRing.put sensorSlots) r).slots)
    (hcounter : s.saveSensorCounter =
      (xs.foldl (SlotRing.put sensorSlots) r).next)
    (hzero : s.saveSensorCounter = 0) :
    ((accidentRecord s).drop 6).take 200 =
      (xs.drop (xs.length - sensorSlots)).flatMap DoubtSample.bytes := by
  have hwindow := window_puts_of_le hnext hxs
  rw [← hcounter, ← hbuf, hzero] at hwindow
  rw [samples_accidentRecord, sensorBytes_eq, hzero, map_sweep_zero, hwindow]

/-- From any other slot on the cursor comes by what lies behind the ring. -/
theorem sensorBytes_update_ne (buf : ℕ → DoubtSample) {c : ℕ} (hpos : 0 < c)
    (hlt : c < sensorSlots) :
    sensorBytes (Function.update buf sensorSlots
        ⟨(buf sensorSlots).doubtSpeed + 1, 0⟩) c sensorSlots ≠
      sensorBytes buf c sensorSlots := by
  intro hsame
  -- the place in which the cursor is behind the last slot
  have hplace : sensorSlots - c < sensorSlots := by omega
  have hspeed := congrArg (fun xs => xs[(sensorSlots - c) * 2]?) hsame
  rw [getElem?_sensorBytes _ hlt.le hplace,
    getElem?_sensorBytes _ hlt.le hplace, Nat.add_sub_cancel' hlt.le,
    Nat.mod_eq_of_lt (Nat.lt_succ_self sensorSlots), Function.update_self,
    Option.some.injEq] at hspeed
  have hone : (1 : UInt8) = 0 := by
    refine (UInt8.add_right_inj (buf sensorSlots).doubtSpeed).mp ?_
    rw [UInt8.add_zero]
    exact hspeed
  exact absurd hone (by decide)

/-- So the record is not that of the ring. -/
theorem not_recordsInOrder {s : DriveState} (hpos : 0 < s.saveSensorCounter)
    (hlt : s.saveSensorCounter < sensorSlots) : ¬ RecordsInOrder s := by
  rintro ⟨hreads, -⟩
  let other : DoubtSample := ⟨(s.sensorBuf sensorSlots).doubtSpeed + 1, 0⟩
  let buf := Function.update s.sensorBuf sensorSlots other
  have hsame := hreads buf fun c hc =>
    Function.update_of_ne (Nat.ne_of_lt hc) other s.sensorBuf
  have hrecord : accidentRecord { s with sensorBuf := buf } =
      accidentRecord s := by
    have hlast := List.append_cancel_left hsame
    exact congrArg Prod.snd (List.head_eq_of_cons_eq hlast)
  have hbytes := congrArg (fun r => (r.drop 6).take 200) hrecord
  rw [samples_accidentRecord, samples_accidentRecord] at hbytes
  exact sensorBytes_update_ne s.sensorBuf hpos hlt hbytes

/-- The record is that of the ring exactly if slot 0 is overwritten next. -/
theorem recordsInOrder_iff (s : DriveState)
    (hslot : s.saveSensorCounter < sensorSlots) :
    RecordsInOrder s ↔ s.saveSensorCounter = 0 := by
  refine ⟨fun h => ?_, recordsInOrder_of_zero⟩
  by_contra hne
  exact not_recordsInOrder (Nat.pos_of_ne_zero hne) hslot h

/-- A ring that has wrapped, with samples of rising speed. -/
theorem recordsInOrder_wrapped :
    RecordsInOrder
      { saveSensorCounter := 0, sensorBuf := fun c => ⟨UInt8.ofNat c, 2⟩ } :=
  (recordsInOrder_iff _ (by decide)).mpr rfl

/-- With slot 1 next, the last sample comes from behind the ring. -/
theorem slotOne_not_recordsInOrder :
    ¬ RecordsInOrder { saveSensorCounter := 1 } :=
  not_recordsInOrder (by decide) (by decide)

end VehicleRecorder.Driving
