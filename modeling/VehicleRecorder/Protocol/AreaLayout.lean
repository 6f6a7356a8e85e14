import VehicleRecorder.Lib.Layout
import VehicleRecorder.Protocol.Geofence

/-!
# The layout of the area messages

The fields of the messages `0x8600`, `0x8602` and `0x8604` lie end to end, in the
order in which the handlers read them.  A circle and a rectangle are read where
they lie.  The handler of a polygon reads everything behind the attribute a byte
early.
-/

namespace VehicleRecorder.Protocol

open Bytes Layout

/-! ## Descriptions -/

/-- The coordinates of an area. -/
inductive Outline
  | circle (centerLatitude centerLongitude radius : UInt32)
  | rectangle (leftUpLatitude leftUpLongitude rightDownLatitude
      rightDownLongitude : UInt32)
  | polygon (acme1Latitude acme1Longitude acme2Latitude acme2Longitude
      acme3Latitude acme3Longitude : UInt32)
  deriving DecidableEq, Repr

/-- The shape of an area. -/
def Outline.shape : Outline → Shape
  | circle _ _ _ => .circle
  | rectangle _ _ _ _ => .rectangle
  | polygon _ _ _ _ _ _ => .polygon

/-- The description of an area. -/
structure AreaDescription where
  id : ℕ
  areaAttribute : UInt16
  outline : Outline
  startTime : Vector UInt8 6
  endTime : Vector UInt8 6
  maxSpd : UInt16
  keepDur : UInt8
  id_pos : 1 ≤ id
  id_le : id ≤ 8

namespace AreaDescription

variable (d : AreaDescription)

/-- The start and the end of the time window. -/
def times : List (List UInt8) := [d.startTime.toList, d.endTime.toList]

/-- The limit of the speed. -/
def limit : List (List UInt8) := [beBytes2 d.maxSpd.toNat, [d.keepDur]]

/-- The fields of the message, from byte 15 on. -/
def fields : List (List UInt8) :=
  [beBytes4 d.id, beBytes2 d.areaAttribute.toNat] ++
    match d.outline with
    | .circle lat lon radius =>
        [beBytes4 lat.toNat, beBytes4 lon.toNat, beBytes4 radius.toNat] ++
          d.times ++ d.limit
    | .rectangle lat₁ lon₁ lat₂ lon₂ =>
        [beBytes4 lat₁.toNat, beBytes4 lon₁.toNat, beBytes4 lat₂.toNat,
            beBytes4 lon₂.toNat] ++ d.times ++ d.limit
    | .polygon lat₁ lon₁ lat₂ lon₂ lat₃ lon₃ =>
        d.times ++ d.limit ++
          [[3], beBytes4 lat₁.toNat, beBytes4 lon₁.toNat, beBytes4 lat₂.toNat,
            beBytes4 lon₂.toNat, beBytes4 lat₃.toNat, beBytes4 lon₃.toNat]

/-- The members of the record, with the bytes between them. -/
def members : List (List UInt8) :=
  [leBytes 4 d.id, leBytes 2 d.areaAttribute.toNat] ++
    match d.outline with
    | .circle lat lon radius =>
        [[0, 0], leBytes 4 lat.toNat, leBytes 4 lon.toNat,
            leBytes 4 radius.toNat, leBytes 2 d.maxSpd.toNat,
            [d.keepDur, 0, 1]] ++ d.times ++ [[0, 0, 0]]
    | .rectangle lat₁ lon₁ lat₂ lon₂ =>
        [[0, 0], leBytes 4 lat₁.toNat, leBytes 4 lon₁.toNat,
            leBytes 4 lat₂.toNat, leBytes 4 lon₂.toNat,
            leBytes 2 d.maxSpd.toNat, [d.keepDur, 0, 1]] ++ d.times ++
          [[0, 0, 0]]
    | .polygon lat₁ lon₁ lat₂ lon₂ lat₃ lon₃ =>
        [leBytes 2 d.maxSpd.toNat, [d.keepDur, 0], leBytes 2 3,
            leBytes 4 lat₁.toNat, leBytes 4 lon₁.toNat, leBytes 4 lat₂.toNat,
            leBytes 4 lon₂.toNat, leBytes 4 lat₃.toNat, leBytes 4 lon₃.toNat,
            [0, 1]] ++ d.times ++ [[0, 0]]

/-- The record with the described values. -/
def record : List UInt8 := d.members.flatten

/-- The receive buffer holds the description as one area to be set. -/
structure InBuffer (rx : ℕ → UInt8) : Prop where
  operation : rx 13 ≤ 2
  one : rx 14 = 1
  laid : Laid rx 15 d.fields

/-- Every handling of the description stores exactly the described values. -/
def Decodes : Prop :=
  ∀ (linkNum : ℕ) (s : AppState) (rx : ℕ → UInt8), d.InBuffer rx →
    area (s.commandSwitch d.outline.shape.setCmd linkNum rx).device
      d.outline.shape d.id = some d.record

/-! ## Where the handlers read -/

/-- The fields lie where the handler of the shape reads them. -/
def ReadIn (rx : ℕ → UInt8) : Prop :=
  match d.outline.shape with
  | .polygon => Laid rx 15 (d.fields.take 2) ∧ Laid rx 20 (d.fields.drop 2)
  | _ => Laid rx 15 d.fields

/-- The members of a message, with the bytes between them. -/
def membersRead (rx : ℕ → UInt8) : Shape → List (List UInt8)
  | .circle =>
      [leBytes 4 (be32 rx 15), leBytes 2 (be16 rx 19), [0, 0],
        leBytes 4 (be32 rx 21), leBytes 4 (be32 rx 25),
        leBytes 4 (be32 rx 29), leBytes 2 (be16 rx 45), [rx 47, 0, 1],
        readBytes rx 33 6, readBytes rx 39 6, [0, 0, 0]]
  | .rectangle =>
      [leBytes 4 (be32 rx 15), leBytes 2 (be16 rx 19), [0, 0],
        leBytes 4 (be32 rx 21), leBytes 4 (be32 rx 25),
        leBytes 4 (be32 rx 29), leBytes 4 (be32 rx 33),
        leBytes 2 (be16 rx 49), [rx 51, 0, 1], readBytes rx 37 6,
        readBytes rx 43 6, [0, 0, 0]]
  | .polygon =>
      [leBytes 4 (be32 rx 15), leBytes 2 (be16 rx 19),
        leBytes 2 (be16 rx 32), [rx 34, 0], leBytes 2 (rx 35).toNat,
        leBytes 4 (be32 rx 36), leBytes 4 (be32 rx 40),
        leBytes 4 (be32 rx 44), leBytes 4 (be32 rx 48),
        leBytes 4 (be32 rx 52), leBytes 4 (be32 rx 56), [0, 1],
        readBytes rx 20 6, readBytes rx 26 6, [0, 0]]

theorem areaRecord_eq_flatten (rx : ℕ → UInt8) (shape : Shape) :
    areaRecord rx shape = (membersRead rx shape).flatten := by
  cases shape <;>
    simp only [areaRecord, membersRead, List.flatten_cons, List.flatten_nil,
      List.append_assoc, List.append_nil]

theorem map_length_membersRead (rx : ℕ → UInt8) :
    (membersRead rx d.outline.shape).map List.length =
      d.members.map List.length := by
  rw [members]
  cases d.outline <;> simp [membersRead, times, Outline.shape]

/-- The record of a message has the described values exactly if the fields lie
where the handler reads them. -/
theorem areaRecord_eq_record_iff (rx : ℕ → UInt8) :
    areaRecord rx d.outline.shape = d.record ↔ d.ReadIn rx := by
  have hnum := leBytes_be32_eq_iff
    (Nat.lt_of_le_of_lt d.id_le (show 8 < 4294967296 by decide)) rx 15
  have hword (v : UInt32) (addr : ℕ) :=
    leBytes_be32_eq_iff v.toNat_lt rx addr
  have hhalf (v : UInt16) (addr : ℕ) :=
    leBytes_be16_eq_iff v.toNat_lt rx addr
  have hcount : leBytes 2 (rx 35).toNat = leBytes 2 3 ↔ rx 35 = 3 := by
    have hlt := (rx 35).toNat_lt
    rw [leBytes_eq_iff (by omega) (by decide), ← UInt8.toNat_inj]
    rfl
  rw [areaRecord_eq_flatten, record, flatten_inj (d.map_length_membersRead rx),
    ReadIn]
  simp only [members, fields]
  -- member by member, in the order of the record or in that of the message
  cases d.outline <;>
    simp only [Outline.shape, membersRead, times, limit, List.cons_append,
      List.nil_append, List.take_succ_cons, List.take_zero,
      List.drop_succ_cons, List.drop_zero, List.cons.injEq, hnum, hword, hhalf,
      hcount, and_true, true_and, Laid, readBytes_one_eq_iff, beBytes4_length,
      beBytes2_length, Vector.length_toList, List.length_cons,
      List.length_nil, Nat.reduceAdd] <;>
    tauto

/-! ## What is stored -/

section InBuffer

variable {d} {rx : ℕ → UInt8} (h : d.InBuffer rx)

include h

theorem InBuffer.laid_head : Laid rx 15 (d.fields.take 2) :=
  ⟨h.laid.1, h.laid.2.1, trivial⟩

theorem InBuffer.laid_tail : Laid rx 21 (d.fields.drop 2) := h.laid.2.2

theorem InBuffer.id_eq : be32 rx 15 = d.id :=
  (be32_eq_iff (Nat.lt_of_le_of_lt d.id_le (by decide)) rx 15).mpr h.laid.1

/-- The handler stores the record of the message. -/
theorem InBuffer.area_eq (linkNum : ℕ) (s : AppState) :
    area (s.commandSwitch d.outline.shape.setCmd linkNum rx).device
      d.outline.shape d.id = some (areaRecord rx d.outline.shape) := by
  have hid := h.id_eq
  have hwf : (AreaMsg.set d.outline.shape rx).WellFormed :=
    ⟨h.operation, h.one, hid ▸ d.id_pos, hid ▸ d.id_le⟩
  rw [← AreaMsg.handle, AreaMsg.area_handle hwf d.outline.shape d.id_pos d.id_le]
  exact if_pos ⟨rfl, hid.symm⟩

end InBuffer

/-- The fields of a polygon. -/
theorem fields_of_polygon (hshape : d.outline.shape = .polygon) :
    ∃ acmes : List (List UInt8), acmes.flatten.length = 24 ∧
      d.fields = [beBytes4 d.id, beBytes2 d.areaAttribute.toNat] ++
        (d.times ++ d.limit ++ [3] :: acmes) := by
  rw [fields]
  cases houtline : d.outline with
  | circle => simp [houtline, Outline.shape] at hshape
  | rectangle => simp [houtline, Outline.shape] at hshape
  | polygon lat₁ lon₁ lat₂ lon₂ lat₃ lon₃ => exact ⟨_, by simp, rfl⟩

/-- The bytes that the handler of a polygon reads a byte early are those that
follow them exactly if all of them are the number of vertices. -/
theorem laid_early_iff (hshape : d.outline.shape = .polygon) {rx : ℕ → UInt8}
    (h : d.InBuffer rx) :
    Laid rx 20 (d.fields.drop 2) ↔ ∀ b ∈ d.fields.flatten.drop 5, b = 3 := by
  obtain ⟨acmes, hacmes, hfields⟩ := d.fields_of_polygon hshape
  have hall := h.laid
  have htail := h.laid_tail
  have hcount : rx 36 = 3 := by
    rw [hfields] at htail
    have hthree := htail.2.2.2.2.1
    rw [Vector.length_toList, Vector.length_toList] at hthree
    exact readBytes_one_eq_iff.mp hthree
  have hlen : (d.fields.drop 2).flatten.length = 40 := by
    simp [hfields, times, limit, hacmes]
  have hsize : d.fields.flatten.length = 46 := by
    simp [hfields, times, limit, hacmes]
  rw [laid_iff, hlen] at htail ⊢
  rw [laid_iff, hsize] at hall
  rw [← htail, readBytes_eq_succ_iff, ← hall, readBytes_add rx 15 5 41,
    List.drop_left' (readBytes_length rx 15 5), forall_mem_readBytes]
  constructor
  · intro hsame i hi
    rw [hsame i (Nat.le_of_lt_succ hi), ← hsame 16 (by decide), hcount]
  · intro hthree i hi
    rw [hthree i (Nat.lt_succ_of_le hi)]
    exact (hthree 0 (by decide)).symm

/-- A description in the receive buffer. -/
def frame : ℕ → UInt8 :=
  fun i => ([0, 1] ++ d.fields.flatten).getD (i - 13) 0

theorem frame_inBuffer : d.InBuffer d.frame where
  operation := by
    rw [frame]
    exact UInt8.zero_le
  one := rfl
  laid := by
    rw [laid_iff]
    refine readBytes_of_getElem? fun i hi => ?_
    have hsub : 15 + i - 13 = i + 2 := by omega
    rw [frame, hsub, List.getD_eq_getElem?_getD, List.cons_append,
      List.cons_append, List.nil_append, List.getElem?_cons_succ,
      List.getElem?_cons_succ, List.getElem?_eq_getElem hi, Option.getD_some]

/-- A description is stored as it is exactly if its fields lie where the handler
reads them whenever they are in the receive buffer. -/
theorem decodes_iff_readIn : d.Decodes ↔ ∀ rx, d.InBuffer rx → d.ReadIn rx := by
  have hread {rx : ℕ → UInt8} (h : d.InBuffer rx) (linkNum : ℕ)
      (s : AppState) :
      area (s.commandSwitch d.outline.shape.setCmd linkNum rx).device
        d.outline.shape d.id = some d.record ↔ d.ReadIn rx := by
    rw [h.area_eq, Option.some.injEq, areaRecord_eq_record_iff]
  constructor
  · intro h rx hrx
    exact (hread hrx 0 {}).mp (h 0 {} rx hrx)
  · intro h linkNum s rx hrx
    exact (hread hrx linkNum s).mpr (h rx hrx)

/-- A circle and a rectangle are stored as described.  A polygon is exactly if
every byte of its message behind the first of the attribute is the number of
vertices. -/
theorem decodes_iff :
    d.Decodes ↔
      (d.outline.shape = .polygon → ∀ b ∈ d.fields.flatten.drop 5, b = 3) := by
  rw [decodes_iff_readIn]
  constructor
  · intro h hshape
    have hin := h _ d.frame_inBuffer
    rw [ReadIn, hshape] at hin
    exact (d.laid_early_iff hshape d.frame_inBuffer).mp hin.2
  · intro h rx hrx
    rw [ReadIn]
    cases hshape : d.outline.shape with
    | polygon =>
        exact ⟨hrx.laid_head, (d.laid_early_iff hshape hrx).mpr (h hshape)⟩
    | circle => exact hrx.laid
    | rectangle => exact hrx.laid

/-- A triangle with a time window of one year. -/
def triangle : AreaDescription where
  id := 1
  areaAttribute := 1
  outline := .polygon 39900000 116300000 39900000 116400000 39950000 116350000
  startTime := #v[0x14, 0x01, 0x01, 0x00, 0x00, 0x00]
  endTime := #v[0x14, 0x12, 0x31, 0x23, 0x59, 0x59]
  maxSpd := 80
  keepDur := 10
  id_pos := le_rfl
  id_le := by decide

/-- The start of the window is stored as 01 14 01 01 00 00. -/
theorem triangle_not_decodes : ¬ triangle.Decodes := by
  rw [decodes_iff_readIn]
  intro h
  have hin : triangle.ReadIn triangle.frame := h _ triangle.frame_inBuffer
  exact absurd hin.2.1 (by decide)

end AreaDescription

end VehicleRecorder.Protocol
