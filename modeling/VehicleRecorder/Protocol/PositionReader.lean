import VehicleRecorder.Protocol.PositionMessages

/-!
# Reading position messages

What a receiver makes of the frames of the position messages, with the checks of
the link that the terminal itself makes.  The frame gives the header and the
body, the body its position and its tagged values.

A report from the store is read as the position that was saved.  A report of the
moment loses the high byte of its height.
-/

namespace VehicleRecorder.Protocol

open Bytes Layout Dataflash TagLengthValue AppState

/-! ## Messages -/

/-- A message by its header and its body. -/
structure Message where
  msgId : ℕ
  simCode : List UInt8
  floatId : ℕ
  body : List UInt8
  deriving DecidableEq, Repr

/-- A message whose header gives the length of its body. -/
def parseMessage : List UInt8 → Option Message
  | i₁ :: i₀ :: l₁ :: l₀ :: s₀ :: s₁ :: s₂ :: s₃ :: s₄ :: s₅ :: f₁ :: f₀ ::
      body =>
      if l₁.toNat * 256 + l₀.toNat = body.length then
        some { msgId := i₁.toNat * 256 + i₀.toNat
               simCode := [s₀, s₁, s₂, s₃, s₄, s₅]
               floatId := f₁.toNat * 256 + f₀.toNat
               body }
      else none
  | _ => none

/-- The message in a frame that passes the checks of the link. -/
def readMessage (f : List UInt8) : Option Message :=
  let r := tcpRxCheck { hexRx := fun i => f.getD i 0, hexRxLen := f.length }
  if r.2 then
    parseMessage (readBytes r.1.hexRx 1 (r.1.decodeHexLen - 3))
  else none

theorem word_toNat (n : ℕ) :
    (UInt8.ofNat (n / 256)).toNat * 256 + (UInt8.ofNat n).toNat =
      n % 65536 := by
  simp only [UInt8.toNat_ofNat']
  omega

theorem parseMessage_of_short (msgId floatId : ℕ) (simCode : ℕ → UInt8)
    {body : List UInt8} (hbody : body.length < 65536) :
    parseMessage (beBytes2 msgId ++ beBytes2 body.length ++
      (readBytes simCode 0 6 ++ beBytes2 floatId ++ body)) =
      some ⟨msgId % 65536, readBytes simCode 0 6, floatId % 65536, body⟩ := by
  have hlen := word_toNat body.length
  rw [Nat.mod_eq_of_lt hbody] at hlen
  rw [← word_toNat msgId, ← word_toNat floatId]
  exact if_pos hlen

theorem readMessage_frame (m : List UInt8) :
    readMessage (frame m) = parseMessage m := by
  obtain ⟨hread, hlen⟩ := received_decoded m 0
  have hfront :
      readBytes (tcpRxCheck (received m 0)).1.hexRx 1 m.length = m := by
    have hbehind := (List.cons.inj hread).2
    rw [readBytes_add _ _ m.length 2] at hbehind
    exact (List.append_inj hbehind (readBytes_length _ _ _)).1
  have hall : readMessage (frame m) =
      if (tcpRxCheck (received m 0)).2 then
        parseMessage (readBytes (tcpRxCheck (received m 0)).1.hexRx 1
          ((tcpRxCheck (received m 0)).1.decodeHexLen - 3))
      else none := rfl
  rw [hall, if_pos (received_accepted m 0), hlen, Nat.add_sub_cancel, hfront]

/-- What `Protocol_End` sends behind `Protocol_Head` is read as it was built. -/
theorem readMessage_finish {u : Uplink} {w : CursorWriter} {msgId : ℕ}
    {body : List UInt8}
    (h : w.Holds 0 (headBytes msgId u.vars.simCode u.tx.msgFloatID ++ body))
    (hbody : body.length < 65536) :
    readMessage (u.finish w).tx.gprsInfo =
      some ⟨msgId % 65536, readBytes u.vars.simCode 0 6,
        u.tx.msgFloatID % 65536, body⟩ := by
  have hinfo : w.writtenFrom 0 = infoOf msgId
      (readBytes u.vars.simCode 0 6 ++ beBytes2 u.tx.msgFloatID ++ body) := by
    rw [h.writtenFrom_eq]
    simp [headBytes, infoOf, beBytes2]
  have hlen : (readBytes u.vars.simCode 0 6 ++ beBytes2 u.tx.msgFloatID ++
      body).length = body.length + 8 := by
    rw [List.length_append, List.length_append, readBytes_length,
      beBytes2_length, Nat.add_comm]
  have hframe : (u.finish w).tx.gprsInfo =
      frame (fillBodyLen .normal (w.writtenFrom 0)) :=
    protocolEnd_gprsInfo _ _ _
  have hbodyLen : bodyLen .normal (body.length + 8) = beBytes2 body.length := by
    have hmod : (body.length + 8 + 65536 - 8) % 65536 = body.length := by omega
    change beBytes2 ((body.length + 8 + 65536 - 8) % 65536) = _
    rw [hmod]
  rw [hframe, readMessage_frame, hinfo, fillBodyLen_infoOf, hlen, hbodyLen,
    parseMessage_of_short msgId u.tx.msgFloatID u.vars.simCode hbody]

/-! ## Positions -/

/-- Where a vehicle is, and how it moves. -/
structure Position where
  warnStatus : Vector UInt8 4
  carStatus : Vector UInt8 4
  latitude : Vector UInt8 4
  longitude : Vector UInt8 4
  hight : ℕ
  speed : ℕ
  direction : ℕ
  date : List UInt8
  time : List UInt8
  deriving DecidableEq, Repr

/-- The position of a vehicle. -/
def position (v : VehicleState) : Position where
  warnStatus := v.warnStatus
  carStatus := v.carStatus
  latitude := v.latitude
  longitude := v.longitude
  hight := v.gpsHight.toNat
  speed := v.speedGps.toNat
  direction := v.gpsDirection.toNat
  date := v.date.toList
  time := v.time.toList

/-- The number that two digits in BCD stand for. -/
def unbcd (b : UInt8) : UInt8 := (b >>> 4) * 10 + (b &&& 0x0F)

/-- A word of a body. -/
def word (bs : List UInt8) (i : ℕ) : ℕ :=
  (bs.getD i 0).toNat * 256 + (bs.getD (i + 1) 0).toNat

/-- The position at the beginning of a body. -/
def readPosition (bs : List UInt8) : Position where
  warnStatus := bytes4 bs 0
  carStatus := bytes4 bs 4
  latitude := bytes4 bs 8
  longitude := bytes4 bs 12
  hight := word bs 16
  speed := word bs 18
  direction := word bs 20
  date := [bs.getD 22 0, bs.getD 23 0, bs.getD 24 0].map unbcd
  time := [bs.getD 25 0, bs.getD 26 0, bs.getD 27 0].map unbcd

/-- The date and the time of a vehicle are numbers of two digits. -/
def TwoDigits (v : VehicleState) : Prop :=
  (∀ x ∈ v.date.toList, x < 100) ∧ ∀ x ∈ v.time.toList, x < 100

instance (v : VehicleState) : Decidable (TwoDigits v) :=
  @instDecidableAnd _ _ (List.decidableBAll _ _) (List.decidableBAll _ _)

theorem bcd_toNat {x : UInt8} (h : x < 100) :
    (bcd x).toNat = x.toNat / 10 * 16 + x.toNat % 10 := by
  have hlt : x.toNat < 100 := h
  simp only [bcd, UInt8.toNat_add, UInt8.toNat_div, UInt8.toNat_mod,
    UInt8.toNat_shiftLeft, UInt8.reduceToNat, Nat.reduceMod,
    Nat.shiftLeft_eq, Nat.reducePow]
  omega

theorem unbcd_bcd {x : UInt8} (h : x < 100) : unbcd (bcd x) = x := by
  have hlt : x.toNat < 100 := h
  have hlow (n : ℕ) : n &&& 15 = n % 16 := Nat.and_two_pow_sub_one_eq_mod n 4
  apply UInt8.toNat_inj.mp
  simp only [unbcd, UInt8.toNat_add, UInt8.toNat_mul, UInt8.toNat_and,
    UInt8.toNat_shiftRight, UInt8.reduceToNat, Nat.reduceMod, hlow,
    Nat.shiftRight_eq_div_pow, Nat.reducePow, bcd_toNat h]
  omega

theorem word_u16Bytes (x : UInt16) :
    (x >>> 8).toUInt8.toNat * 256 + x.toUInt8.toNat = x.toNat := by
  have hlt := x.toNat_lt
  simp
  omega

/-- The position of a body does not depend on what stands behind it. -/
theorem readPosition_append {xs : List UInt8} (h : xs.length = 28)
    (ys : List UInt8) : readPosition (xs ++ ys) = readPosition xs := by
  have hget (i : ℕ) (hi : i < 28) : (xs ++ ys).getD i 0 = xs.getD i 0 :=
    List.getD_append _ _ _ _ (by rw [h]; exact hi)
  simp only [readPosition, bytes4, word, Nat.reduceAdd, hget, Nat.reduceLT]

theorem exists_vector4 (xs : Vector UInt8 4) :
    ∃ a b c d, xs = #v[a, b, c, d] := by
  refine ⟨xs[0], xs[1], xs[2], xs[3], ?_⟩
  ext i hi
  obtain rfl | rfl | rfl | rfl : i = 0 ∨ i = 1 ∨ i = 2 ∨ i = 3 := by omega
  · rfl
  · rfl
  · rfl
  · rfl

theorem exists_vector3 (xs : Vector UInt8 3) :
    ∃ a b c, xs = #v[a, b, c] := by
  refine ⟨xs[0], xs[1], xs[2], ?_⟩
  ext i hi
  obtain rfl | rfl | rfl : i = 0 ∨ i = 1 ∨ i = 2 := by omega
  · rfl
  · rfl
  · rfl

/-- The position sent is the position read. -/
theorem readPosition_positionBytes {v : VehicleState} (h : TwoDigits v) :
    readPosition (positionBytes v) = position v := by
  obtain ⟨warnStatus, carStatus, latitude, longitude, hight, speed, direction,
    date, time, speedCacu⟩ := v
  obtain ⟨w₀, w₁, w₂, w₃, rfl⟩ := exists_vector4 warnStatus
  obtain ⟨c₀, c₁, c₂, c₃, rfl⟩ := exists_vector4 carStatus
  obtain ⟨y₀, y₁, y₂, y₃, rfl⟩ := exists_vector4 latitude
  obtain ⟨x₀, x₁, x₂, x₃, rfl⟩ := exists_vector4 longitude
  obtain ⟨d₀, d₁, d₂, rfl⟩ := exists_vector3 date
  obtain ⟨t₀, t₁, t₂, rfl⟩ := exists_vector3 time
  obtain ⟨hdate, htime⟩ := h
  have hd (x : UInt8) (hx : x ∈ [d₀, d₁, d₂]) := unbcd_bcd (hdate x hx)
  have ht (x : UInt8) (hx : x ∈ [t₀, t₁, t₂]) := unbcd_bcd (htime x hx)
  simp only [List.forall_mem_cons] at hd ht
  have hbytes : positionBytes ⟨#v[w₀, w₁, w₂, w₃], #v[c₀, c₁, c₂, c₃],
      #v[y₀, y₁, y₂, y₃], #v[x₀, x₁, x₂, x₃], hight, speed, direction,
      #v[d₀, d₁, d₂], #v[t₀, t₁, t₂], speedCacu⟩ =
    [w₀, w₁, w₂, w₃, c₀, c₁, c₂, c₃, y₀, y₁, y₂, y₃, x₀, x₁, x₂, x₃,
      (hight >>> 8).toUInt8, hight.toUInt8, (speed >>> 8).toUInt8,
      speed.toUInt8, (direction >>> 8).toUInt8, direction.toUInt8,
      bcd d₀, bcd d₁, bcd d₂, bcd t₀, bcd t₁, bcd t₂] := rfl
  simp only [hbytes, readPosition, position, Position.mk.injEq]
  refine ⟨rfl, rfl, rfl, rfl, word_u16Bytes _, word_u16Bytes _,
    word_u16Bytes _, ?_, ?_⟩
  · exact congrArg₂ _ hd.1 (congrArg₂ _ hd.2.1 (congrArg₂ _ hd.2.2.1 rfl))
  · exact congrArg₂ _ ht.1 (congrArg₂ _ ht.2.1 (congrArg₂ _ ht.2.2.1 rfl))

/-! ## Reports -/

/-- A message with a position. -/
structure Report where
  msgId : ℕ
  simCode : List UInt8
  floatId : ℕ
  position : Position
  items : List Tagged
  deriving DecidableEq

/-- The position and the tagged values of a body. -/
def readBody (body : List UInt8) : Option (Position × List Tagged) :=
  if 28 ≤ body.length then
    (decode (body.drop 28)).map (readPosition body, ·)
  else none

/-- The report in a frame. -/
def readReport (f : List UInt8) : Option Report :=
  (readMessage f).bind fun m =>
    (readBody m.body).map fun (position, items) =>
      { msgId := m.msgId, simCode := m.simCode, floatId := m.floatId,
        position, items }

/-- The answer in a frame: the number of the query, and the report behind it. -/
def readAnswer (f : List UInt8) : Option (ℕ × Report) :=
  (readMessage f).bind fun m =>
    (readBody (m.body.drop 2)).map fun (position, items) =>
      (word m.body 0,
        { msgId := m.msgId, simCode := m.simCode, floatId := m.floatId,
          position, items })

theorem readBody_append {xs : List UInt8} (h : xs.length = 28)
    (items : List Tagged) :
    readBody (xs ++ encode items) = some (readPosition xs, items) := by
  have hle : 28 ≤ (xs ++ encode items).length := by
    rw [List.length_append, h]
    exact Nat.le_add_right _ _
  rw [readBody, if_pos hle, readPosition_append h, ← h, List.drop_left,
    decode_encode, Option.map_some]

theorem Reported.length_commonItems (r : Reported) :
    (encode r.commonItems).length ≤ 21 := by
  rw [Reported.commonItems]
  split
  · split <;> exact Nat.le_of_ble_eq_true rfl
  · split <;> exact Nat.le_of_ble_eq_true rfl

theorem readReport_finish {u : Uplink} {w : CursorWriter} {msgId : ℕ}
    {xs : List UInt8} {items : List Tagged}
    (h : w.Holds 0 (headBytes msgId u.vars.simCode u.tx.msgFloatID ++ xs))
    (hlen : xs.length = 28) (hshort : (encode items).length < 65508) :
    readReport (u.finish (w.puts (encode items))).tx.gprsInfo =
      some { msgId := msgId % 65536
             simCode := readBytes u.vars.simCode 0 6
             floatId := u.tx.msgFloatID % 65536
             position := readPosition xs
             items } := by
  have hbody := h.puts (encode items)
  rw [List.append_assoc] at hbody
  have hmessage := readMessage_finish hbody (by
    rw [List.length_append, hlen]
    omega)
  rw [readReport, hmessage, Option.bind_some, readBody_append hlen]
  rfl

theorem readAnswer_finish {u : Uplink} {w : CursorWriter} {msgId id : ℕ}
    {xs : List UInt8} {items : List Tagged}
    (h : w.Holds 0 (headBytes msgId u.vars.simCode u.tx.msgFloatID ++
      beBytes2 id ++ xs))
    (hlen : xs.length = 28) (hshort : (encode items).length < 65506) :
    readAnswer (u.finish (w.puts (encode items))).tx.gprsInfo =
      some (id % 65536,
        { msgId := msgId % 65536
          simCode := readBytes u.vars.simCode 0 6
          floatId := u.tx.msgFloatID % 65536
          position := readPosition xs
          items }) := by
  have hbody := h.puts (encode items)
  rw [List.append_assoc, List.append_assoc] at hbody
  have hmessage := readMessage_finish hbody (by
    rw [List.length_append, List.length_append, hlen, beBytes2_length]
    omega)
  have hdrop : (beBytes2 id ++ (xs ++ encode items)).drop 2 =
      xs ++ encode items := rfl
  rw [readAnswer, hmessage, Option.bind_some, hdrop, readBody_append hlen,
    ← word_toNat id]
  rfl

/-! ## Positions of the moment -/

theorem Reported.length_items0200 (r : Reported) :
    (encode r.items0200).length ≤ 39 := by
  have hcommon := r.length_commonItems
  have hrest :
      (encode [r.ioItem, r.signalItem, r.analogItem]).length = 18 := rfl
  rw [Reported.items0200, encode_append, List.length_append]
  exact Nat.add_le_add hcommon (Nat.le_of_eq hrest)

theorem Reported.length_items0201 (r : Reported) :
    (encode r.items0201).length ≤ 33 := by
  have hcommon := r.length_commonItems
  have hrest : (encode [r.signalItem, r.analogItem]).length = 12 := rfl
  rw [Reported.items0201, encode_append, List.length_append]
  exact Nat.add_le_add hcommon (Nat.le_of_eq hrest)

theorem hight_low_iff (x : UInt16) : (x % 256).toNat = x.toNat ↔ x < 256 := by
  rw [UInt16.toNat_mod, UInt16.lt_iff_toNat_lt]
  exact Nat.mod_eq_iff_lt (by decide)

theorem and_not_iff (d : UInt8) : d &&& ~~~0x02 = d ↔ d &&& 0x02 = 0 := by
  constructor
  · intro h
    rw [← h, UInt8.and_assoc, UInt8.not_and_self]
    exact UInt8.and_zero
  · intro h
    have hall : d &&& (~~~0x02 ||| 0x02) = (d &&& ~~~0x02) ||| (d &&& 0x02) :=
      UInt8.toBitVec_inj.mp BitVec.and_or_distrib_left
    rw [h, UInt8.or_zero] at hall
    exact hall.symm.trans UInt8.and_neg_one

theorem warnStatus_normal_iff (v : VehicleState) :
    v.warnStatus.setIfInBounds 3 (warnStatusByte v 3 &&& ~~~0x02) =
        v.warnStatus ↔ warnStatusByte v 3 &&& 0x02 = 0 := by
  rw [← and_not_iff, warnStatusByte]
  obtain ⟨a, b, c, d, hws⟩ := exists_vector4 v.warnStatus
  rw [hws]
  constructor
  · intro h
    exact congrArg (fun ws : Vector UInt8 4 => ws.toList.getD 3 0) h
  · intro h
    have hd : d &&& ~~~0x02 = d := h
    change #v[a, b, c, d &&& ~~~0x02] = #v[a, b, c, d]
    rw [hd]

theorem endOverspeed_eq (r : Reported) :
    r.endOverspeed = { r with
      vehicle.warnStatus := r.endOverspeed.vehicle.warnStatus } := by
  rw [Reported.endOverspeed]
  split <;> rfl

theorem warnStatus_endOverspeed_iff (r : Reported) :
    r.endOverspeed.vehicle.warnStatus = r.vehicle.warnStatus ↔
      (r.gpsSpeed ≤ r.speedWarnMax * 10 % 2 ^ 32 →
        warnStatusByte r.vehicle 3 &&& 0x02 = 0) := by
  rw [Reported.endOverspeed]
  split
  · rename_i hle
    rw [← warnStatus_normal_iff]
    exact ⟨fun h _ => h, fun h => h hle⟩
  · rename_i hlt
    exact iff_of_true rfl fun hle => absurd hle hlt

/-- The position of the moment that is sent is the vehicle's if the vehicle is
below 256 m and its warnings are sent as they are. -/
theorem position_lowHight_iff (v : VehicleState) (ws : Vector UInt8 4) :
    position (lowHight { v with warnStatus := ws }) = position v ↔
      v.gpsHight < 256 ∧ ws = v.warnStatus := by
  rw [← hight_low_iff]
  simp only [position, lowHight, Position.mk.injEq, true_and, and_true]
  exact and_comm

/-- A report of the moment carries the SIM code, the number of the message and
the tagged values of the moment.  Its position is the vehicle's exactly if the
vehicle is below 256 m and the report does not take back an overspeed. -/
theorem current0200_read (u : Uplink) (h : TwoDigits u.vars.vehicle) :
    ∃ p, readReport u.stuffCurrentData0200H.tx.gprsInfo =
        some { msgId := 0x0200
               simCode := readBytes u.vars.simCode 0 6
               floatId := u.tx.msgFloatID % 65536
               position := p
               items := u.stuffCurrentData0200H.vars.items0200 } ∧
      (p = position u.vars.vehicle ↔ u.vars.vehicle.gpsHight < 256 ∧
        (u.vars.gpsSpeed ≤ u.vars.speedWarnMax * 10 % 2 ^ 32 →
          warnStatusByte u.vars.vehicle 3 &&& 0x02 = 0)) := by
  have hsame := endOverspeed_eq u.vars
  have hdigits : TwoDigits (lowHight u.vars.endOverspeed.vehicle) := by
    rw [hsame]
    exact h
  refine ⟨position (lowHight u.vars.endOverspeed.vehicle), ?_, ?_⟩
  · have hhead := protocolHead_holds u.vars.simCode u.tx.msgFloatID
      ⟨u.originalInfo, 0⟩ 0x0200
    have hsim : u.vars.endOverspeed.simCode = u.vars.simCode := by rw [hsame]
    rw [← hsim] at hhead ⊢
    have hread := readReport_finish
      (u := { u with vars := u.vars.endOverspeed })
      (putPosition_holds hhead u.vars.endOverspeed.vehicle)
      (positionBytes_length _)
      (Nat.lt_of_le_of_lt u.vars.endOverspeed.length_items0200 (by decide))
    rw [readPosition_positionBytes hdigits] at hread
    rw [Uplink.stuffCurrentData0200H, Uplink.head, ← hsim]
    exact hread
  · rw [← warnStatus_endOverspeed_iff, hsame]
    exact position_lowHight_iff _ _

/-- A vehicle at 300 m. -/
theorem current0200_read_high :
    ∃ p, readReport (Uplink.stuffCurrentData0200H
        { vars.vehicle.gpsHight := 300 }).tx.gprsInfo =
      some { msgId := 0x0200
             simCode := readBytes (fun _ => 0) 0 6
             floatId := 0 % 65536
             position := p
             items := (Uplink.stuffCurrentData0200H
               { vars.vehicle.gpsHight := 300 }).vars.items0200 } ∧
      (p = position { gpsHight := 300 } ↔ (300 : UInt16) < 256 ∧
        (0 ≤ 0 * 10 % 2 ^ 32 → (0 : UInt8) &&& 0x02 = 0)) :=
  current0200_read { vars.vehicle.gpsHight := 300 } (by decide)

/-- The answer to a query carries the number of the query and the tagged values
of the moment.  Its position is the vehicle's exactly if the vehicle is below
256 m. -/
theorem current0201_read (u : Uplink) (h : TwoDigits u.vars.vehicle) :
    ∃ p, readAnswer u.stuffCurrentData0201H.tx.gprsInfo =
        some (u.vars.centreFloatId % 65536,
          { msgId := 0x0201
            simCode := readBytes u.vars.simCode 0 6
            floatId := u.tx.msgFloatID % 65536
            position := p
            items := u.vars.items0201 }) ∧
      (p = position u.vars.vehicle ↔ u.vars.vehicle.gpsHight < 256) := by
  refine ⟨position (lowHight u.vars.vehicle), ?_, ?_⟩
  · have hhead := (protocolHead_holds u.vars.simCode u.tx.msgFloatID
      ⟨u.originalInfo, 0⟩ 0x0201).puts (beBytes2 u.vars.centreFloatId)
    have hread := readAnswer_finish (u := u)
      (putPosition_holds hhead u.vars.vehicle) (positionBytes_length _)
      (Nat.lt_of_le_of_lt u.vars.length_items0201 (by decide))
    rw [readPosition_positionBytes (v := lowHight u.vars.vehicle) h] at hread
    exact hread
  · exact (position_lowHight_iff _ u.vars.vehicle.warnStatus).trans
      (and_iff_left rfl)

/-- A query with the number 7 to a vehicle at 200 m. -/
theorem current0201_read_seven :
    ∃ p, readAnswer (Uplink.stuffCurrentData0201H
        { vars := { centreFloatId := 7
                    vehicle.gpsHight := 200 } }).tx.gprsInfo =
      some (7 % 65536,
        { msgId := 0x0201
          simCode := readBytes (fun _ => 0) 0 6
          floatId := 0 % 65536
          position := p
          items := Reported.items0201 { centreFloatId := 7
                                        vehicle.gpsHight := 200 } }) ∧
      (p = position { gpsHight := 200 } ↔ (200 : UInt16) < 256) :=
  current0201_read { vars := { centreFloatId := 7
                               vehicle.gpsHight := 200 } } (by decide)

end VehicleRecorder.Protocol
