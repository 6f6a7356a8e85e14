import VehicleRecorder.Lib.TagLengthValue
import VehicleRecorder.Protocol.UplinkBuffers

/-!
# Position messages

`Stuff_Normal_Data_0200H` sends a report from the store,
`Stuff_Current_Data_0200H` the position of the moment, and
`Stuff_Current_Data_0201H` the same in answer to a query.  Behind the 28 bytes of
the position stand tagged values.

The tagged values are those of the moment in a report from the store as well:
the speed that was saved with it is read and dropped.
-/

namespace VehicleRecorder.Protocol

open Bytes Layout Dataflash TagLengthValue AppState

/-! ## What is reported -/

/-- `InOut_Object`. -/
structure InOut where
  type : UInt8 := 0
  id : ℕ := 0
  inOutState : UInt8 := 0
  deriving DecidableEq, Repr

/-- The fields of `BD_EXT` that a position message carries. -/
structure PositionExtend where
  fjSignalValue : UInt16 := 0
  fjIo1 : UInt8 := 0
  fjIo2 : UInt8 := 0
  ad0 : UInt16 := 0
  ad1 : UInt16 := 0
  extentIoStatus : UInt8 := 0
  deriving DecidableEq, Repr

/-- `Warn_Status[i]`. -/
def warnStatusByte (v : VehicleState) (i : ℕ) : UInt8 :=
  v.warnStatus.toList.getD i 0

/-- The variables that the position messages are built from. -/
structure Reported where
  vehicle : VehicleState := {}
  gpsSpeed : ℕ := 0
  speedWarnMax : ℕ := 0
  distance : ℕ := 0
  inOut : InOut := {}
  bdExt : PositionExtend := {}
  simCode : ℕ → UInt8 := fun _ => 0
  centreFloatId : ℕ := 0

namespace Reported

variable (r : Reported)

/-- `StatusReg_SPD_NORMAL`. -/
def statusRegSpdNormal : Reported :=
  { r with
    vehicle.warnStatus :=
      r.vehicle.warnStatus.setIfInBounds 3
        (warnStatusByte r.vehicle 3 &&& ~~~0x02) }

/-- The first lines of `Stuff_Current_Data_0200H`: an overspeed that is over is
taken back. -/
def endOverspeed : Reported :=
  if r.gpsSpeed ≤ r.speedWarnMax * 10 % 2 ^ 32 then r.statusRegSpdNormal else r

/-- The speed of the recorder. -/
def speedItem : Tagged :=
  ⟨0x03, u16Bytes r.vehicle.speedCacu, show 2 < 256 by decide⟩

/-- The distance in units of 0.1 km. -/
def distanceItem : Tagged :=
  ⟨0x01, beBytes4 (r.distance / 100), show 4 < 256 by decide⟩

/-- An area or a route that is entered or left. -/
def inOutItem : Tagged :=
  ⟨0x12, r.inOut.type :: beBytes4 r.inOut.id ++ [r.inOut.inOutState],
    show 6 < 256 by decide⟩

/-- An overspeed at no particular place. -/
def overspeedItem : Tagged := ⟨0x11, [0], by decide⟩

/-- The signals of the vehicle. -/
def ioItem : Tagged :=
  ⟨0x25, [0, 0, 0, r.bdExt.extentIoStatus], show 4 < 256 by decide⟩

/-- The strength of the signals; of two bytes the first is the low one. -/
def signalItem : Tagged :=
  ⟨0xFE, [r.bdExt.fjSignalValue.toUInt8, 0], show 2 < 256 by decide⟩

/-- The inputs of the extension. -/
def analogItem : Tagged :=
  ⟨0xFF, [r.bdExt.fjIo1, r.bdExt.fjIo2] ++ u16Bytes r.bdExt.ad0 ++
    u16Bytes r.bdExt.ad1, show 6 < 256 by decide⟩

/-- The values that stand in front in all three messages. -/
def commonItems : List Tagged :=
  [r.speedItem, r.distanceItem] ++
    (if warnStatusByte r.vehicle 1 &&& 0x10 ≠ 0 then [r.inOutItem] else []) ++
    (if warnStatusByte r.vehicle 3 &&& 0x02 ≠ 0 then [overspeedItem] else [])

/-- The tagged values of `0x0200`. -/
def items0200 : List Tagged :=
  r.commonItems ++ [r.ioItem, r.signalItem, r.analogItem]

/-- The tagged values of `0x0201`. -/
def items0201 : List Tagged := r.commonItems ++ [r.signalItem, r.analogItem]

end Reported

/-! ## Stuffing -/

/-- The variables that are reported, `Original_info` from its first byte on, and
what `Protocol_End` works on. -/
structure Uplink where
  vars : Reported := {}
  originalInfo : ℕ → UInt8 := fun _ => 0
  tx : TxState := { originalInfo := [] }

namespace Uplink

variable (u : Uplink)

/-- `Protocol_Head` of an undivided message. -/
def head (msgId : ℕ) : CursorWriter :=
  protocolHead msgId u.vars.simCode u.tx.msgFloatID ⟨u.originalInfo, 0⟩

/-- `Protocol_End` of an undivided message on the first link. -/
def finish (w : CursorWriter) : Uplink :=
  let tx := protocolEnd { u.tx with originalInfo := w.writtenFrom 0 } .normal 0
  { u with originalInfo := overlay w.buf tx.originalInfo, tx }

/-- The 28 bytes of the position of the moment.  The high byte of the height is
`(u8)(GPS_Hight<<8)`. -/
def putPosition (v : VehicleState) (w : CursorWriter) : CursorWriter :=
  let w := (w.copy v.warnStatus.toList).advance 4
  let w := (w.copy v.carStatus.toList).advance 4
  let w := (w.copy v.latitude.toList).advance 4
  let w := (w.copy v.longitude.toList).advance 4
  let w := w.puts [(v.gpsHight.toUInt32 <<< 8).toUInt8, v.gpsHight.toUInt8]
  let w := w.puts (u16Bytes v.speedGps)
  let w := w.puts (u16Bytes v.gpsDirection)
  let w := w.puts (v.date.toList.map bcd)
  w.puts (v.time.toList.map bcd)

/-- `Stuff_Normal_Data_0200H`: of the 31 bytes read, 28 are kept. -/
def stuffNormalData0200H (d : Device) : Device × Uplink × Bool :=
  let w := u.head 0x0200
  match apiCycleRead d 31 with
  | (d, content, false) =>
      (d, { u with originalInfo := (w.copy content).buf }, false)
  | (d, content, true) =>
      let w := (w.copy content).advance 28
      (d, u.finish (w.puts (encode u.vars.items0200)), true)

/-- `Stuff_Current_Data_0200H`. -/
def stuffCurrentData0200H : Uplink :=
  let vars := u.vars.endOverspeed
  let w := putPosition vars.vehicle (u.head 0x0200)
  { u with vars }.finish (w.puts (encode vars.items0200))

/-- `Stuff_Current_Data_0201H`. -/
def stuffCurrentData0201H : Uplink :=
  let w := (u.head 0x0201).puts (beBytes2 u.vars.centreFloatId)
  let w := putPosition u.vars.vehicle w
  u.finish (w.puts (encode u.vars.items0201))

/-- Another message with the given body. -/
def stuffMessage (msgId : ℕ) (body : List UInt8) : Uplink :=
  u.finish ((u.head msgId).puts body)

end Uplink

/-! ## What is stuffed -/

/-- The position of a vehicle in a message. -/
def positionBytes (v : VehicleState) : List UInt8 :=
  v.warnStatus.toList ++ v.carStatus.toList ++ v.latitude.toList ++
    v.longitude.toList ++ u16Bytes v.gpsHight ++ u16Bytes v.speedGps ++
    u16Bytes v.gpsDirection ++ v.date.toList.map bcd ++ v.time.toList.map bcd

theorem positionBytes_length (v : VehicleState) :
    (positionBytes v).length = 28 := by
  simp [positionBytes, u16Bytes]

/-- The position as it is saved is the position as it is sent. -/
theorem take_gpsSaveBuf (v : VehicleState) :
    (gpsSaveBuf v).take 28 = positionBytes v := by
  have hsplit : gpsSaveBuf v = positionBytes v ++
      (u16Bytes v.speedCacu ++ [xorSum (gpsSaveBody v)]) :=
    List.append_assoc _ _ _
  rw [hsplit, ← positionBytes_length v, List.take_left]

/-- A vehicle without the high byte of its height. -/
def lowHight (v : VehicleState) : VehicleState :=
  { v with gpsHight := v.gpsHight % 256 }

theorem u16Bytes_low (x : UInt16) :
    u16Bytes (x % 256) = [(x.toUInt32 <<< 8).toUInt8, x.toUInt8] := by
  have hhi : ((x % 256) >>> 8).toUInt8 = (x.toUInt32 <<< 8).toUInt8 := by
    apply UInt8.toNat_inj.mp
    simp
    omega
  have hlo : (x % 256).toUInt8 = x.toUInt8 := by
    apply UInt8.toNat_inj.mp
    simp
  rw [u16Bytes, hhi, hlo]

theorem putPosition_holds {w : CursorWriter} {start : ℕ} {xs : List UInt8}
    (h : w.Holds start xs) (v : VehicleState) :
    (Uplink.putPosition v w).Holds start
      (xs ++ positionBytes (lowHight v)) := by
  have hlen (xs : Vector UInt8 4) : 4 = xs.toList.length :=
    Vector.length_toList.symm
  have hstatus := (h.copy v.warnStatus.toList (hlen _)).copy
    v.carStatus.toList (hlen _)
  have hplace := (hstatus.copy v.latitude.toList (hlen _)).copy
    v.longitude.toList (hlen _)
  have hspeed := ((hplace.puts (u16Bytes (v.gpsHight % 256))).puts
    (u16Bytes v.speedGps)).puts (u16Bytes v.gpsDirection)
  have htime := (hspeed.puts (v.date.toList.map bcd)).puts
    (v.time.toList.map bcd)
  rw [u16Bytes_low] at htime
  simp only [positionBytes, lowHight, u16Bytes_low]
  simp only [List.append_assoc] at htime ⊢
  exact htime

end VehicleRecorder.Protocol
