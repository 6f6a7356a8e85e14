import VehicleRecorder.Protocol.RecordFrame

/-!
# Areas

The messages `0x8600` to `0x8605` set and delete areas of three shapes.  An area
is stored as a record under its number, with a flag that says whether it is
effective; the judges of `protocol_808.c` read the records 1 to 8 of a shape and
look at the flag.

The module compares the records with the map from numbers to areas that the
messages describe.
-/

namespace VehicleRecorder.Protocol

open Bytes Dataflash

/-! ## Stored areas -/

/-- The shapes of areas. -/
inductive Shape
  | circle
  | rectangle
  | polygon
  deriving DecidableEq, Repr

namespace Shape

/-- The class of the records. -/
def record : Shape → RecordName
  | circle => .railCycle
  | rectangle => .railRect
  | polygon => .railPolygen

/-- The size of the structure. -/
def size : Shape → ℕ
  | circle => 40
  | rectangle => 44
  | polygon => 52

/-- The offset of `Effective_flag` in the structure. -/
def flagOffset : Shape → ℕ
  | circle => 24
  | rectangle => 28
  | polygon => 37

/-- The message that sets an area. -/
def setCmd : Shape → ℕ
  | circle => 0x8600
  | rectangle => 0x8602
  | polygon => 0x8604

/-- The message that deletes areas. -/
def deleteCmd : Shape → ℕ
  | circle => 0x8601
  | rectangle => 0x8603
  | polygon => 0x8605

theorem page_lt (shape : Shape) {n : ℕ} (hn : n ≤ 8) :
    shape.record.writePage + n < 8192 := by
  have hpage := shape.record.writePage_lt
  omega

theorem size_le (shape : Shape) : shape.size ≤ dfBakSize := by
  cases shape <;> decide

/-- Areas of one shape or number are apart from the others. -/
theorem page_eq_iff {shape shape' : Shape} {m n : ℕ} (hm : m ≤ 8)
    (hn : n ≤ 8) :
    shape'.record.writePage + m = shape.record.writePage + n ↔
      shape' = shape ∧ m = n := by
  cases shape <;> cases shape' <;>
    simp only [record, RecordName.writePage, dfEventPage, dfRectangleRailPage,
      dfPolygenRailPage, reduceCtorEq, false_and, true_and, iff_false] <;>
    omega

end Shape

/-- The effective area of a record: the judges test the flag for `1`. -/
def effectiveArea (shape : Shape) (xs : List UInt8) : Option (List UInt8) :=
  if xs[shape.flagOffset]? = some 1 then some xs else none

/-- The effective area of a number, as its record. -/
def area (d : Device) (shape : Shape) (id : ℕ) : Option (List UInt8) :=
  effectiveArea shape (apiRecordNumRead d shape.record id shape.size)

theorem area_write (d : Device) (shape : Shape) {id n : ℕ}
    {buffer : List UInt8} (hid : id ≤ 8) (hn : n ≤ 8)
    (hlen : buffer.length = shape.size) (shape' : Shape) :
    area (apiRecordNumWrite d shape.record n buffer) shape' id =
      if shape' = shape ∧ id = n then effectiveArea shape buffer
      else area d shape' id := by
  have hsize : buffer.length ≤ dfBakSize := hlen ▸ shape.size_le
  split
  next h =>
    obtain ⟨rfl, rfl⟩ := h
    rw [area, ← hlen, apiRecordNumRead_write d (shape'.page_lt hn) hsize]
  next h =>
    rw [area, apiRecordNumRead_write_of_ne d (shape.page_lt hn) hsize
      (shape'.page_lt hid) shape'.size_le
      (fun heq => h ((Shape.page_eq_iff hid hn).mp heq)), area]

/-! ## Messages -/

/-- The record of the area in a message. -/
def areaRecord (rx : ℕ → UInt8) : Shape → List UInt8
  | .circle =>
      leBytes 4 (be32 rx 15) ++ leBytes 2 (be16 rx 19) ++ [0, 0] ++
        leBytes 4 (be32 rx 21) ++ leBytes 4 (be32 rx 25) ++
        leBytes 4 (be32 rx 29) ++ leBytes 2 (be16 rx 45) ++
        [rx 47, 0, 1] ++ readBytes rx 33 6 ++ readBytes rx 39 6 ++ [0, 0, 0]
  | .rectangle =>
      leBytes 4 (be32 rx 15) ++ leBytes 2 (be16 rx 19) ++ [0, 0] ++
        leBytes 4 (be32 rx 21) ++ leBytes 4 (be32 rx 25) ++
        leBytes 4 (be32 rx 29) ++ leBytes 4 (be32 rx 33) ++
        leBytes 2 (be16 rx 49) ++ [rx 51, 0, 1] ++ readBytes rx 37 6 ++
        readBytes rx 43 6 ++ [0, 0, 0]
  | .polygon =>
      leBytes 4 (be32 rx 15) ++ leBytes 2 (be16 rx 19) ++
        leBytes 2 (be16 rx 32) ++ [rx 34, 0] ++ leBytes 2 (rx 35).toNat ++
        leBytes 4 (be32 rx 36) ++ leBytes 4 (be32 rx 40) ++
        leBytes 4 (be32 rx 44) ++ leBytes 4 (be32 rx 48) ++
        leBytes 4 (be32 rx 52) ++ leBytes 4 (be32 rx 56) ++ [0, 1] ++
        readBytes rx 20 6 ++ readBytes rx 26 6 ++ [0, 0]

theorem areaRecord_length (rx : ℕ → UInt8) (shape : Shape) :
    (areaRecord rx shape).length = shape.size := by
  cases shape <;>
    simp only [areaRecord, List.length_append, leBytes_length,
      readBytes_length, List.length_cons, List.length_nil, Shape.size]

theorem effectiveArea_areaRecord (rx : ℕ → UInt8) (shape : Shape) :
    effectiveArea shape (areaRecord rx shape) = some (areaRecord rx shape) := by
  refine if_pos ?_
  cases shape <;>
    simp only [areaRecord, Shape.flagOffset, List.getElem?_append,
      List.length_append, leBytes_length, readBytes_length, List.length_cons,
      List.length_nil, Nat.reduceAdd, Nat.reduceLT, Nat.reduceSub,
      ↓reduceIte] <;>
    rfl

/-- The numbers a message lists for deletion, four bytes each. -/
def listed (rx : ℕ → UInt8) : List ℕ :=
  (List.range (rx 13).toNat).map fun i => be32 rx (14 + 4 * i)

/-- The numbers the handlers read from the list. -/
def numbersRead (rx : ℕ → UInt8) : List ℕ :=
  (List.range (rx 13).toNat).map fun i => areaNumber 8 (be32 rx (14 + i))

/-- A message that sets an area or deletes areas, as it lies in the buffer. -/
inductive AreaMsg
  | set (shape : Shape) (rx : ℕ → UInt8)
  | delete (shape : Shape) (rx : ℕ → UInt8)

namespace AreaMsg

/-- One area is set by operation 0, 1 or 2, or at least one is deleted; numbers
lie between 1 and 8. -/
def WellFormed : AreaMsg → Prop
  | set _ rx => rx 13 ≤ 2 ∧ rx 14 = 1 ∧ 1 ≤ be32 rx 15 ∧ be32 rx 15 ≤ 8
  | delete _ rx => rx 13 ≠ 0 ∧ ∀ id ∈ listed rx, 1 ≤ id ∧ id ≤ 8

/-- The message handled. -/
def handle (linkNum : ℕ) (s : AppState) : AreaMsg → AppState
  | set shape rx => s.commandSwitch shape.setCmd linkNum rx
  | delete shape rx => s.commandSwitch shape.deleteCmd linkNum rx

/-- What a message makes of the map from numbers to areas. -/
def apply (m : Shape → ℕ → Option (List UInt8)) :
    AreaMsg → Shape → ℕ → Option (List UInt8)
  | set shape rx, shape', id =>
      if shape' = shape ∧ id = be32 rx 15 then some (areaRecord rx shape)
      else m shape' id
  | delete shape rx, shape', id =>
      if shape' = shape ∧ id ∈ listed rx then none else m shape' id

end AreaMsg

/-! ## The records behind the handlers -/

theorem areaNumber_le (id : ℕ) : areaNumber 8 id ≤ 8 := by
  rw [areaNumber]
  split <;> omega

namespace AppState

section Bytes

variable {s : AppState} {st et : List UInt8}

/-- A record of a shape with a flag other than `1`. -/
def Ineffective (shape : Shape) (xs : List UInt8) : Prop :=
  xs.length = shape.size ∧ effectiveArea shape xs = none

theorem railCycleBytes_ineffective (s : AppState)
    (h : s.records.railCycle.effectiveFlag = 0) :
    Ineffective .circle s.railCycleBytes := by
  have hflag : s.railCycleBytes[24]? =
      some s.records.railCycle.effectiveFlag := by
    simp only [railCycleBytes, List.getElem?_append, List.length_append,
      leBytes_length, bytes_length, Arr.size, List.length_cons,
      List.length_nil, Nat.reduceAdd, Nat.reduceLT, Nat.reduceSub, ↓reduceIte]
    rfl
  refine ⟨s.railCycleBytes_length, if_neg ?_⟩
  rw [Shape.flagOffset, hflag, h]
  decide

theorem railRectangleBytes_ineffective (s : AppState)
    (h : s.records.railRectangle.effectiveFlag = 0) :
    Ineffective .rectangle s.railRectangleBytes := by
  have hflag : s.railRectangleBytes[28]? =
      some s.records.railRectangle.effectiveFlag := by
    simp only [railRectangleBytes, List.getElem?_append, List.length_append,
      leBytes_length, bytes_length, Arr.size, List.length_cons,
      List.length_nil, Nat.reduceAdd, Nat.reduceLT, Nat.reduceSub, ↓reduceIte]
    rfl
  refine ⟨s.railRectangleBytes_length, if_neg ?_⟩
  rw [Shape.flagOffset, hflag, h]
  decide

theorem railPolygenBytes_ineffective (s : AppState)
    (h : s.records.railPolygen.effectiveFlag = 0) :
    Ineffective .polygon s.railPolygenBytes := by
  have hflag : s.railPolygenBytes[37]? =
      some s.records.railPolygen.effectiveFlag := by
    simp only [railPolygenBytes, List.getElem?_append, List.length_append,
      leBytes_length, bytes_length, Arr.size, List.length_cons,
      List.length_nil, Nat.reduceAdd, Nat.reduceLT, Nat.reduceSub, ↓reduceIte]
    rfl
  refine ⟨s.railPolygenBytes_length, if_neg ?_⟩
  rw [Shape.flagOffset, hflag, h]
  decide

end Bytes

variable (rx : ℕ → UInt8) (s : AppState) {d : Device}

variable {s} {n : ℕ} {st et record : List UInt8}

theorem writeRailCycle_device {o : CircleRail} (hd : s.device = d)
    (ho : s.records.railCycle = o) (hn : o.areaId = n)
    (hst : s.bytes .cycleStartTime = st) (het : s.bytes .cycleEndTime = et)
    (hrecord : leBytes 4 n ++ leBytes 2 o.areaAttribute ++ [0, 0] ++
      leBytes 4 o.centerLatitude ++ leBytes 4 o.centerLongitude ++
      leBytes 4 o.radius ++ leBytes 2 o.maxSpd ++
      [o.keepDur, o.railNum, o.effectiveFlag] ++ st ++ et ++ [0, 0, 0] =
        record) :
    s.writeRailCycle.device = apiRecordNumWrite d .railCycle n record := by
  subst hd ho hn hst het hrecord
  rw [writeRailCycle, recordNumWrite, railCycleBytes]

theorem writeRailRectangle_device {o : RectRail} (hd : s.device = d)
    (ho : s.records.railRectangle = o) (hn : o.areaId = n)
    (hst : s.bytes .rectStartTime = st) (het : s.bytes .rectEndTime = et)
    (hrecord : leBytes 4 n ++ leBytes 2 o.areaAttribute ++ [0, 0] ++
      leBytes 4 o.leftUpLatitude ++ leBytes 4 o.leftUpLongitude ++
      leBytes 4 o.rightDownLatitude ++ leBytes 4 o.rightDownLongitude ++
      leBytes 2 o.maxSpd ++ [o.keepDur, o.railNum, o.effectiveFlag] ++
      st ++ et ++ [0, 0, 0] = record) :
    s.writeRailRectangle.device = apiRecordNumWrite d .railRect n record := by
  subst hd ho hn hst het hrecord
  rw [writeRailRectangle, recordNumWrite, railRectangleBytes]

theorem writeRailPolygen_device {o : PolygenRail} (hd : s.device = d)
    (ho : s.records.railPolygen = o) (hn : o.areaId = n)
    (hst : s.bytes .polygenStartTime = st) (het : s.bytes .polygenEndTime = et)
    (hrecord : leBytes 4 n ++ leBytes 2 o.areaAttribute ++
      leBytes 2 o.maxSpd ++ [o.keepDur, 0] ++ leBytes 2 o.acmeNum ++
      leBytes 4 o.acme1Latitude ++ leBytes 4 o.acme1Longitude ++
      leBytes 4 o.acme2Latitude ++ leBytes 4 o.acme2Longitude ++
      leBytes 4 o.acme3Latitude ++ leBytes 4 o.acme3Longitude ++
      [o.railNum, o.effectiveFlag] ++ st ++ et ++ [0, 0] = record) :
    s.writeRailPolygen.device = apiRecordNumWrite d .railPolygen n record := by
  subst hd ho hn hst het hrecord
  rw [writeRailPolygen, recordNumWrite, railPolygenBytes]

variable (s)

/-- Operation 1 writes an empty record eight times, to number 0. -/
theorem emptyCycles_writes (n : ℕ) :
    ∃ ws : List NumberedWrite,
      (∀ w ∈ ws, w.name = .railCycle ∧ w.recNum = 0 ∧
        Ineffective .circle w.buffer) ∧
      ((List.range n).foldl (fun s _ => s.clearRailCycle.writeRailCycle)
        s).device = writeNumbered s.device ws := by
  induction n with
  | zero => exact ⟨[], nofun, rfl⟩
  | succ n ih =>
      obtain ⟨ws, hws, hdevice⟩ := ih
      rw [List.range_succ, List.foldl_append, List.foldl_cons, List.foldl_nil]
      generalize (List.range n).foldl (fun s _ =>
        s.clearRailCycle.writeRailCycle) s = t at hdevice ⊢
      refine ⟨ws ++ [⟨.railCycle, 0, t.clearRailCycle.railCycleBytes⟩], ?_, ?_⟩
      · rw [List.forall_mem_append, List.forall_mem_singleton]
        exact ⟨hws, rfl, rfl, railCycleBytes_ineffective _ rfl⟩
      · rw [writeNumbered_concat, ← hdevice]
        rfl

section Set

variable (hop : rx 13 ≤ 2) (hone : rx 14 = 1) (hlo : 1 ≤ be32 rx 15)
  (hhi : be32 rx 15 ≤ 8)

include hop hone hlo hhi

theorem case8602_device :
    (s.case8602 rx).device =
      apiRecordNumWrite s.device .railRect (be32 rx 15)
        (areaRecord rx .rectangle) := by
  rw [case8602, ack_device, if_pos ⟨hone, hop⟩]
  have hst : ((s.clearRailRectangle.memcpy .rectStartTime rx 37 6).memcpy
      .rectEndTime rx 43 6).bytes .rectStartTime = readBytes rx 37 6 := by
    rw [bytes_memcpy_of_ne _ (by decide), bytes_memcpy _ _ rx 37 rfl]
  have het : ((s.clearRailRectangle.memcpy .rectStartTime rx 37 6).memcpy
      .rectEndTime rx 43 6).bytes .rectEndTime = readBytes rx 43 6 :=
    bytes_memcpy _ _ rx 43 rfl
  exact writeRailRectangle_device rfl rfl (areaNumber_of_mem hlo hhi)
    ((bytes_records _ _ _).trans hst) ((bytes_records _ _ _).trans het) rfl

theorem case8604_device :
    (s.case8604 rx).device =
      apiRecordNumWrite s.device .railPolygen (be32 rx 15)
        (areaRecord rx .polygon) := by
  rw [case8604, ack_device, if_pos ⟨hone, hop⟩]
  have hst : ((s.clearRailPolygen.memcpy .polygenStartTime rx 20 6).memcpy
      .polygenEndTime rx 26 6).bytes .polygenStartTime = readBytes rx 20 6 := by
    rw [bytes_memcpy_of_ne _ (by decide), bytes_memcpy _ _ rx 20 rfl]
  have het : ((s.clearRailPolygen.memcpy .polygenStartTime rx 20 6).memcpy
      .polygenEndTime rx 26 6).bytes .polygenEndTime = readBytes rx 26 6 :=
    bytes_memcpy _ _ rx 26 rfl
  exact writeRailPolygen_device rfl rfl (areaNumber_of_mem hlo hhi)
    ((bytes_records _ _ _).trans hst) ((bytes_records _ _ _).trans het) rfl

omit hop hone in
theorem setRailCycle_device (hd : s.device = d) :
    ({ (s.clearRailCycle.memcpy .cycleStartTime rx 33 6).memcpy
        .cycleEndTime rx 39 6 with
      records.railCycle := {
        areaId := areaNumber 8 (be32 rx 15)
        areaAttribute := be16 rx 19
        centerLatitude := be32 rx 21
        centerLongitude := be32 rx 25
        radius := be32 rx 29
        maxSpd := be16 rx 45
        keepDur := rx 47
        effectiveFlag := 1 } } : AppState).writeRailCycle.device =
      apiRecordNumWrite d .railCycle (be32 rx 15) (areaRecord rx .circle) := by
  have hst : ((s.clearRailCycle.memcpy .cycleStartTime rx 33 6).memcpy
      .cycleEndTime rx 39 6).bytes .cycleStartTime = readBytes rx 33 6 := by
    rw [bytes_memcpy_of_ne _ (by decide), bytes_memcpy _ _ rx 33 rfl]
  have het : ((s.clearRailCycle.memcpy .cycleStartTime rx 33 6).memcpy
      .cycleEndTime rx 39 6).bytes .cycleEndTime = readBytes rx 39 6 :=
    bytes_memcpy _ _ rx 39 rfl
  exact writeRailCycle_device hd rfl (areaNumber_of_mem hlo hhi)
    ((bytes_records _ _ _).trans hst) ((bytes_records _ _ _).trans het) rfl

/-- A message that sets an area writes its record; one that appends a circle
first writes empty records under number 0. -/
theorem set_device (shape : Shape) (linkNum : ℕ) :
    ∃ ws : List NumberedWrite,
      (∀ w ∈ ws, w.name = shape.record ∧ w.recNum = 0 ∧
        Ineffective shape w.buffer) ∧
      (s.commandSwitch shape.setCmd linkNum rx).device =
        apiRecordNumWrite (writeNumbered s.device ws) shape.record (be32 rx 15)
          (areaRecord rx shape) := by
  cases shape with
  | circle =>
      rw [Shape.setCmd, commandSwitch, case8600, ack_device,
        if_pos ⟨hone, hop⟩]
      dsimp only
      split
      · obtain ⟨ws, hws, hdevice⟩ := emptyCycles_writes s 8
        exact ⟨ws, hws, setRailCycle_device rx _ hlo hhi hdevice⟩
      · exact ⟨[], List.forall_mem_nil _,
          setRailCycle_device rx _ hlo hhi rfl⟩
  | rectangle =>
      exact ⟨[], List.forall_mem_nil _, case8602_device rx s hop hone hlo hhi⟩
  | polygon =>
      exact ⟨[], List.forall_mem_nil _, case8604_device rx s hop hone hlo hhi⟩

end Set

/-- The loop of a delete writes a record for every number read. -/
theorem deleteLoop_device {shape : Shape} {delete : ℕ → AppState → AppState}
    (h : ∀ id s, ∃ buffer, Ineffective shape buffer ∧
      (delete id s).device =
        apiRecordNumWrite s.device shape.record (areaNumber 8 id) buffer)
    {s : AppState} (hd : s.device = d) :
    ∃ ws : List NumberedWrite,
      (∀ w ∈ ws, w.name = shape.record ∧ Ineffective shape w.buffer) ∧
      ws.map NumberedWrite.recNum = numbersRead rx ∧
      (deleteLoop delete rx s).device = writeNumbered d ws := by
  subst hd
  rw [deleteLoop, numbersRead]
  induction (rx 13).toNat with
  | zero => exact ⟨[], nofun, rfl, rfl⟩
  | succ n ih =>
      obtain ⟨ws, hws, hnum, hdevice⟩ := ih
      rw [List.range_succ, List.foldl_append, List.foldl_cons, List.foldl_nil,
        List.map_append, List.map_singleton]
      obtain ⟨buffer, hbuffer, hwrite⟩ := h (be32 rx (14 + n))
        ((List.range n).foldl (fun s i => delete (be32 rx (14 + i)) s) s)
      refine ⟨ws ++ [⟨shape.record, areaNumber 8 (be32 rx (14 + n)), buffer⟩],
        ?_, ?_, ?_⟩
      · rw [List.forall_mem_append, List.forall_mem_singleton]
        exact ⟨hws, rfl, hbuffer⟩
      · rw [List.map_append, hnum, List.map_singleton]
      · rw [writeNumbered_concat, ← hdevice, hwrite]

/-- A message that deletes areas writes an ineffective record for every number
read. -/
theorem delete_device (shape : Shape) (linkNum : ℕ) (hn : rx 13 ≠ 0) :
    ∃ ws : List NumberedWrite,
      (∀ w ∈ ws, w.name = shape.record ∧ Ineffective shape w.buffer) ∧
      ws.map NumberedWrite.recNum = numbersRead rx ∧
      (s.commandSwitch shape.deleteCmd linkNum rx).device =
        writeNumbered s.device ws := by
  cases shape with
  | circle =>
      rw [Shape.deleteCmd, commandSwitch, case8601, ack_device, if_neg hn]
      refine deleteLoop_device rx (fun id s => ?_) rfl
      exact ⟨_, railCycleBytes_ineffective _ rfl, rfl⟩
  | rectangle =>
      rw [Shape.deleteCmd, commandSwitch, case8603, ack_device, if_neg hn]
      refine deleteLoop_device rx (fun id s => ?_) rfl
      exact ⟨_, railRectangleBytes_ineffective _ rfl, rfl⟩
  | polygon =>
      rw [Shape.deleteCmd, commandSwitch, case8605, ack_device, if_neg hn]
      refine deleteLoop_device rx (fun id s => ?_) rfl
      exact ⟨_, railPolygenBytes_ineffective _ rfl, rfl⟩

end AppState

/-! ## What one message changes -/

/-- Ineffective records take their numbers out of the map. -/
theorem area_writeNumbered (d : Device) {shape : Shape}
    {ws : List NumberedWrite}
    (h : ∀ w ∈ ws, w.name = shape.record ∧
      AppState.Ineffective shape w.buffer)
    (hnum : ∀ w ∈ ws, w.recNum ≤ 8) (shape' : Shape) {id : ℕ} (hid : id ≤ 8) :
    area (writeNumbered d ws) shape' id =
      if shape' = shape ∧ id ∈ ws.map NumberedWrite.recNum then none
      else area d shape' id := by
  induction ws using List.reverseRecOn with
  | nil => simp [writeNumbered]
  | append_singleton ws w ih =>
      rw [List.forall_mem_append, List.forall_mem_singleton] at h hnum
      obtain ⟨hname, hlen, heffective⟩ := h.2
      rw [writeNumbered_concat, hname,
        area_write _ shape hid hnum.2 hlen shape', heffective, ih h.1 hnum.1]
      by_cases hshape : shape' = shape <;> by_cases hw : id = w.recNum <;>
        simp [hshape, hw]

theorem mem_listed {rx : ℕ → UInt8} {id : ℕ} :
    id ∈ listed rx ↔ ∃ i < (rx 13).toNat, be32 rx (14 + 4 * i) = id := by
  simp only [listed, List.mem_map, List.mem_range]

/-- A word whose last byte but three is not zero is a large number. -/
theorem be32_between {rx : ℕ → UInt8} {a r : ℕ} (hlo : 1 ≤ be32 rx a)
    (hhi : be32 rx a ≤ 8) (hr : r = 1 ∨ r = 2 ∨ r = 3) :
    8 < be32 rx (a + r) := by
  obtain rfl | rfl | rfl := hr <;> rw [be32] at * <;>
    simp only [Nat.add_assoc, Nat.reduceAdd] at * <;> omega

/-- The handlers read the first quarter of the list, and number 1 for the bytes
between. -/
theorem mem_numbersRead {rx : ℕ → UInt8}
    (h : ∀ id ∈ listed rx, 1 ≤ id ∧ id ≤ 8) {id : ℕ} :
    id ∈ numbersRead rx ↔
      id ∈ (listed rx).take (((rx 13).toNat + 3) / 4) ∨
        2 ≤ (rx 13).toNat ∧ id = 1 := by
  have hrange (j : ℕ) (hj : j < (rx 13).toNat) :=
    h _ (mem_listed.mpr ⟨j, hj, rfl⟩)
  have hbetween (i : ℕ) (hi : i < (rx 13).toNat) (hmod : i % 4 ≠ 0) :
      areaNumber 8 (be32 rx (14 + i)) = 1 := by
    have hj := hrange (i / 4) (by omega)
    have hlarge := be32_between hj.1 hj.2
      (show i % 4 = 1 ∨ i % 4 = 2 ∨ i % 4 = 3 by omega)
    have hsplit : 14 + 4 * (i / 4) + i % 4 = 14 + i := by omega
    rw [hsplit] at hlarge
    exact if_pos (Or.inl hlarge)
  simp only [numbersRead, listed, ← List.map_take, List.take_range,
    List.mem_map, List.mem_range]
  constructor
  · rintro ⟨i, hi, rfl⟩
    by_cases hmod : i % 4 = 0
    · have hj := hrange (i / 4) (by omega)
      have hsplit : 14 + 4 * (i / 4) = 14 + i := by omega
      left
      refine ⟨i / 4, by omega, ?_⟩
      rw [hsplit] at hj ⊢
      exact (AppState.areaNumber_of_mem hj.1 hj.2).symm
    · right
      exact ⟨by omega, hbetween i hi hmod⟩
  · rintro (⟨j, hj, rfl⟩ | ⟨hn, rfl⟩)
    · have hj' := hrange j (by omega)
      exact ⟨4 * j, by omega, AppState.areaNumber_of_mem hj'.1 hj'.2⟩
    · exact ⟨1, by omega, hbetween 1 (by omega) (by decide)⟩

/-- The flash outside the areas, as the records of the other classes tell. -/
def OthersKept (d d' : Device) : Prop :=
  ∀ name n len, (∀ shape : Shape, name ≠ shape.record) →
    NumberedWrite.InUse name n → len ≤ dfBakSize →
    apiRecordNumRead d' name n len = apiRecordNumRead d name n len

theorem OthersKept.trans {d d' d'' : Device} (h : OthersKept d d')
    (h' : OthersKept d' d'') : OthersKept d d'' :=
  fun name n len hname hn hlen =>
    (h' name n len hname hn hlen).trans (h name n len hname hn hlen)

/-- Records of rectangles and polygons share their pages with no other
class. -/
theorem othersKept_write (d : Device) {shape : Shape} (hshape : shape ≠ .circle)
    {n : ℕ} (hn : 1 ≤ n ∧ n ≤ 8) {buffer : List UInt8}
    (hlen : buffer.length = shape.size) :
    OthersKept d (apiRecordNumWrite d shape.record n buffer) := by
  intro name' n' len hname hn' hlen'
  have huse : NumberedWrite.InUse shape.record n := by
    cases shape <;> exact hn
  have htwin : shape.record.twin = none := by
    cases shape
    · exact absurd rfl hshape
    · rfl
    · rfl
  have hpage := name'.writePage_lt
  have hnum := recNum_le hn'
  refine apiRecordNumRead_write_of_ne d (shape.page_lt hn.2)
    (hlen ▸ shape.size_le) (by omega) hlen' fun heq => ?_
  rcases (page_eq_iff huse hn').mp heq.symm with hkey | ⟨hsome, -⟩
  · exact hname shape (Prod.mk.inj hkey).1.symm
  · exact absurd (htwin.symm.trans hsome) (by simp)

theorem othersKept_writeNumbered (d : Device) {shape : Shape}
    (hshape : shape ≠ .circle) {ws : List NumberedWrite}
    (h : ∀ w ∈ ws, w.name = shape.record ∧ (1 ≤ w.recNum ∧ w.recNum ≤ 8) ∧
      w.buffer.length = shape.size) :
    OthersKept d (writeNumbered d ws) := by
  induction ws using List.reverseRecOn with
  | nil => exact fun _ _ _ _ _ _ => rfl
  | append_singleton ws w ih =>
      rw [List.forall_mem_append, List.forall_mem_singleton] at h
      obtain ⟨hname, hnum, hlen⟩ := h.2
      rw [writeNumbered_concat, hname]
      exact (ih h.1).trans (othersKept_write _ hshape hnum hlen)

namespace AreaMsg

variable {s : AppState} {m : AreaMsg} {linkNum : ℕ}

/-- The shape a message is about. -/
def shape : AreaMsg → Shape
  | set shape _ => shape
  | delete shape _ => shape

/-- What the handler of a message makes of the map from numbers to areas. -/
def handled (m : Shape → ℕ → Option (List UInt8)) :
    AreaMsg → Shape → ℕ → Option (List UInt8)
  | set shape rx, shape', id =>
      if shape' = shape ∧ id = be32 rx 15 then some (areaRecord rx shape)
      else m shape' id
  | delete shape rx, shape', id =>
      if shape' = shape ∧ id ∈ numbersRead rx then none else m shape' id

theorem area_handle (hwf : m.WellFormed) (shape' : Shape) {id : ℕ}
    (hlo : 1 ≤ id) (hhi : id ≤ 8) :
    area (m.handle linkNum s).device shape' id =
      m.handled (area s.device) shape' id := by
  cases m with
  | set shape rx =>
      obtain ⟨hop, hone, hid, hid'⟩ := hwf
      obtain ⟨ws, hws, hdevice⟩ :=
        AppState.set_device rx s hop hone hid hid' shape linkNum
      have hempty : area (writeNumbered s.device ws) shape' id =
          area s.device shape' id := by
        rw [area_writeNumbered _ (fun w hw => ⟨(hws w hw).1, (hws w hw).2.2⟩)
          (fun w hw => by rw [(hws w hw).2.1]; decide) shape' hhi]
        refine if_neg fun hmem => ?_
        obtain ⟨w, hw, hnum⟩ := List.mem_map.mp hmem.2
        rw [(hws w hw).2.1] at hnum
        omega
      rw [handle, hdevice, area_write _ shape hhi hid'
        (areaRecord_length rx shape), effectiveArea_areaRecord, hempty]
      rfl
  | delete shape rx =>
      obtain ⟨ws, hws, hnum, hdevice⟩ :=
        AppState.delete_device rx s shape linkNum hwf.1
      have hle : ∀ w ∈ ws, w.recNum ≤ 8 := by
        intro w hw
        have hmem : w.recNum ∈ numbersRead rx :=
          hnum ▸ List.mem_map_of_mem hw
        obtain ⟨i, -, heq⟩ := List.mem_map.mp hmem
        exact heq ▸ areaNumber_le _
      rw [handle, hdevice, area_writeNumbered _ hws hle shape' hhi, hnum]
      rfl

/-- The effective areas that a delete lists are those in the first quarter of
its list, together with area 1 if it lists two or more. -/
def ListFits (d : Device) : AreaMsg → Prop
  | set _ _ => True
  | delete shape rx =>
      ∀ id, 1 ≤ id → id ≤ 8 → area d shape id ≠ none →
        (id ∈ listed rx ↔
          id ∈ (listed rx).take (((rx 13).toNat + 3) / 4) ∨
            2 ≤ (rx 13).toNat ∧ id = 1)

/-- The areas follow a message exactly if its list fits them. -/
theorem area_handle_eq_apply_iff (hwf : m.WellFormed) :
    (∀ shape id, 1 ≤ id → id ≤ 8 →
        area (m.handle linkNum s).device shape id =
          m.apply (area s.device) shape id) ↔
      m.ListFits s.device := by
  cases m with
  | set shape rx =>
      constructor
      · exact fun _ => trivial
      · intro _ shape' id hlo hhi
        exact area_handle hwf shape' hlo hhi
  | delete shape rx =>
      have hread (id : ℕ) : id ∈ numbersRead rx ↔ _ := mem_numbersRead hwf.2
      constructor
      · intro h id hlo hhi hsome
        have heq := (area_handle hwf shape hlo hhi).symm.trans
          (h shape id hlo hhi)
        rw [← hread]
        simp only [handled, apply, true_and] at heq
        by_cases hl : id ∈ listed rx <;> by_cases hr : id ∈ numbersRead rx <;>
          simp_all
      · intro hfits shape' id hlo hhi
        rw [area_handle hwf shape' hlo hhi, handled, apply]
        by_cases hshape : shape' = shape
        · subst hshape
          by_cases hsome : area s.device shape' id = none
          · rw [hsome, ite_self, ite_self]
          · have hiff := hfits id hlo hhi hsome
            rw [← hread] at hiff
            simp only [true_and, hiff]
        · rw [if_neg (fun h => hshape h.1), if_neg (fun h => hshape h.1)]

theorem othersKept_handle (hwf : m.WellFormed) (hshape : m.shape ≠ .circle) :
    OthersKept s.device (m.handle linkNum s).device := by
  cases m with
  | set shape rx =>
      obtain ⟨hop, hone, hid, hid'⟩ := hwf
      cases shape with
      | circle => exact absurd rfl hshape
      | rectangle =>
          rw [handle, Shape.setCmd, AppState.commandSwitch,
            AppState.case8602_device rx s hop hone hid hid']
          exact othersKept_write _ hshape ⟨hid, hid'⟩ (areaRecord_length _ _)
      | polygon =>
          rw [handle, Shape.setCmd, AppState.commandSwitch,
            AppState.case8604_device rx s hop hone hid hid']
          exact othersKept_write _ hshape ⟨hid, hid'⟩ (areaRecord_length _ _)
  | delete shape rx =>
      obtain ⟨ws, hws, hnum, hdevice⟩ :=
        AppState.delete_device rx s shape linkNum hwf.1
      rw [handle, hdevice]
      refine othersKept_writeNumbered _ hshape fun w hw => ?_
      have hmem : w.recNum ∈ numbersRead rx := hnum ▸ List.mem_map_of_mem hw
      obtain ⟨i, -, heq⟩ := List.mem_map.mp hmem
      refine ⟨(hws w hw).1, ?_, (hws w hw).2.1⟩
      rw [← heq, areaNumber]
      split <;> omega

end AreaMsg

/-! ## Runs -/

/-- The state behind a sequence of messages. -/
def runAreas (linkNum : ℕ) (s : AppState) (ms : List AreaMsg) : AppState :=
  ms.foldl (AreaMsg.handle linkNum) s

/-- What a sequence of messages describes. -/
def areasDescribed (ms : List AreaMsg) : Shape → ℕ → Option (List UInt8) :=
  ms.foldl AreaMsg.apply fun _ _ => none

/-- The store is the map the messages describe, and only it has changed. -/
def AreasStored (linkNum : ℕ) (s : AppState) (ms : List AreaMsg) : Prop :=
  (∀ shape id, 1 ≤ id → id ≤ 8 →
    area (runAreas linkNum s ms).device shape id =
      areasDescribed ms shape id) ∧
  OthersKept s.device (runAreas linkNum s ms).device

/-- No message of the sequence is about a circle, and every list fits the areas
in front of its message. -/
def ListsFit (linkNum : ℕ) (s : AppState) (ms : List AreaMsg) : Prop :=
  ∀ pre m post, ms = pre ++ m :: post →
    m.shape ≠ .circle ∧ m.ListFits (runAreas linkNum s pre).device

/-- The map described depends on a map only within the numbers 1 to 8. -/
theorem AreaMsg.apply_congr (m : AreaMsg)
    {f g : Shape → ℕ → Option (List UInt8)} {shape : Shape} {id : ℕ}
    (h : f shape id = g shape id) :
    m.apply f shape id = m.apply g shape id := by
  cases m <;> rw [apply, apply, h]

/-- Whatever the messages, the store stays the map they describe as long as none
is about circles and the lists to delete fit. -/
theorem areasStored_of_listsFit (linkNum : ℕ) (s : AppState)
    (hempty : ∀ shape id, 1 ≤ id → id ≤ 8 → area s.device shape id = none)
    (ms : List AreaMsg) (hwf : ∀ m ∈ ms, m.WellFormed)
    (hfits : ListsFit linkNum s ms) : AreasStored linkNum s ms := by
  induction ms using List.reverseRecOn with
  | nil => exact ⟨hempty, fun _ _ _ _ _ _ => rfl⟩
  | append_singleton ms m ih =>
      rw [List.forall_mem_append, List.forall_mem_singleton] at hwf
      have hpre : ListsFit linkNum s ms := by
        intro pre m' post heq
        refine hfits pre m' (post ++ [m]) ?_
        rw [heq, List.append_assoc, List.cons_append]
      obtain ⟨hareas, hothers⟩ := ih hwf.1 hpre
      obtain ⟨hshape, hlist⟩ := hfits ms m [] rfl
      have hrun : runAreas linkNum s (ms ++ [m]) =
          m.handle linkNum (runAreas linkNum s ms) := by
        rw [runAreas, List.foldl_append]
        rfl
      rw [AreasStored, hrun]
      constructor
      · intro shape id hlo hhi
        rw [(AreaMsg.area_handle_eq_apply_iff hwf.2).mpr hlist shape id hlo hhi,
          areasDescribed, List.foldl_append]
        exact m.apply_congr (hareas shape id hlo hhi)
      · exact hothers.trans (AreaMsg.othersKept_handle hwf.2 hshape)

theorem area_initial (shape : Shape) {id : ℕ} (hid : id ≤ 8) :
    area .initial shape id = none := by
  have hflag : shape.flagOffset < shape.size := by cases shape <;> decide
  rw [area, apiRecordNumRead_eq _ (shape.page_lt hid) shape.size_le]
  refine if_neg ?_
  rw [SlotTable.getElem?_read hflag]
  exact fun h => absurd (Option.some.inj h) (by decide : ¬ (0xFF : UInt8) = 1)

/-- Operation 0 with area 3. -/
def setThree : ℕ → UInt8
  | 14 => 1
  | 18 => 3
  | _ => 0

/-- A list to delete of area 3 alone. -/
def deleteThree : ℕ → UInt8
  | 13 => 1
  | 17 => 3
  | _ => 0

/-- A list to delete of the areas 2 and 3. -/
def deleteTwoThree : ℕ → UInt8
  | 13 => 2
  | 17 => 2
  | 21 => 3
  | _ => 0

theorem wellFormed_setThree (shape : Shape) :
    (AreaMsg.set shape setThree).WellFormed :=
  ⟨by decide, by decide, by decide, by decide⟩

/-- Rectangle 3 set and deleted. -/
theorem areasStored_of_listsFit_three :
    AreasStored 0 {} [.set .rectangle setThree,
      .delete .rectangle deleteThree] := by
  refine areasStored_of_listsFit 0 {} (fun shape id _ hid =>
    area_initial shape hid) _ ?_ ?_
  · rw [List.forall_mem_cons, List.forall_mem_singleton]
    exact ⟨wellFormed_setThree _, by decide, by decide⟩
  · intro pre m post heq
    rcases pre with _ | ⟨m', _ | ⟨m'', pre⟩⟩
    · obtain ⟨rfl, -⟩ := List.cons.inj heq
      exact ⟨by decide, trivial⟩
    · obtain ⟨-, htail⟩ := List.cons.inj heq
      obtain ⟨rfl, -⟩ := List.cons.inj htail
      have hlisted : listed deleteThree = [3] := by decide
      have hcount : (deleteThree 13).toNat = 1 := by decide
      refine ⟨by decide, fun id _ _ _ => ?_⟩
      rw [hlisted, hcount]
      simp
    · simp at heq

/-- Behind a list of the areas 2 and 3 rectangle 3 stays effective. -/
theorem not_areasStored_twoThree :
    ¬ ∀ (s : AppState) (ms : List AreaMsg),
      (∀ shape id, 1 ≤ id → id ≤ 8 → area s.device shape id = none) →
      (∀ m ∈ ms, m.WellFormed) → AreasStored 0 s ms := by
  intro h
  have hwf : (AreaMsg.delete .rectangle deleteTwoThree).WellFormed := by
    exact ⟨by decide, by decide⟩
  have hstored := (h {} [.set .rectangle setThree,
    .delete .rectangle deleteTwoThree] (fun shape id _ hid =>
      area_initial shape hid) (by
        rw [List.forall_mem_cons, List.forall_mem_singleton]
        exact ⟨wellFormed_setThree _, hwf⟩)).1 .rectangle 3 (by decide)
      (by decide)
  have hkeep : runAreas 0 {} [.set .rectangle setThree,
        .delete .rectangle deleteTwoThree] =
      (AreaMsg.delete .rectangle deleteTwoThree).handle 0
        ((AreaMsg.set .rectangle setThree).handle 0 {}) := rfl
  rw [hkeep, AreaMsg.area_handle hwf _ (by decide) (by decide),
    AreaMsg.handled, if_neg (by decide),
    AreaMsg.area_handle (wellFormed_setThree _) _ (by decide) (by decide),
    AreaMsg.handled, if_pos (by decide)] at hstored
  exact absurd hstored (by decide)

end VehicleRecorder.Protocol
