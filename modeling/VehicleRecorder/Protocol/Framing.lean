import VehicleRecorder.Lib.Bytes
import VehicleRecorder.Lib.ByteStuffing
import Mathlib.Logic.Function.Basic

/-!
# Message frames

A message of the JT/T 808 link is its header and body, followed by the XOR of
all their bytes, between two flags `0x7e`.  Inside the frame `0x7e` and `0x7d`
are escaped.

`Protocol_End` builds the frame of an outgoing message.  `TCP_RX_Process`
decodes a received frame in place in `UDP_HEX_Rx` and drops it unless the
checksum agrees.  A buffer is modelled as the memory from its first byte on, so
that reading behind a frame has a meaning.
-/

namespace VehicleRecorder.Protocol

open Bytes ByteStuffing

/-- The escape rules of the link. -/
def jt808 : Code UInt8 where
  flag := 0x7e
  esc := 0x7d
  flagCode := 0x02
  escCode := 0x01
  flag_ne_esc := by decide
  flagCode_ne_escCode := by decide
  flagCode_ne_flag := by decide
  escCode_ne_flag := by decide

/-! ## Sending -/

/-- `Protocol_808_Encode`: what is stored at the destination. -/
def protocol808Encode : List UInt8 → List UInt8
  | [] => []
  | b :: src =>
      if b = 0x7e then 0x7d :: 0x02 :: protocol808Encode src
      else if b = 0x7d then 0x7d :: 0x01 :: protocol808Encode src
      else b :: protocol808Encode src

/-- `Packet_Type`: `Packet_Normal`, `Packet_Divide`, or neither. -/
inductive PacketType
  | normal
  | divide
  | other
  deriving DecidableEq, Repr

/-- What `Protocol_End` works on. -/
structure TxState where
  /-- The first `Original_info_Wr` bytes of `Original_info`. -/
  originalInfo : List UInt8
  /-- The first `GPRS_infoWr_Tx` bytes of `GPRS_info`. -/
  gprsInfo : List UInt8 := []
  msgFloatID : ℕ := 0
  /-- The frames handed to the modem, with their link numbers. -/
  released : List (List UInt8 × ℕ) := []

/-- `Original_info` with the message body length filled in.  The length is a
`u16` and wraps when the header is incomplete. -/
def fillBodyLen (type : PacketType) (info : List UInt8) : List UInt8 :=
  match type with
  | .normal =>
      let msgBodyLen := (info.length + 65536 - 12) % 65536
      (info.set 2 (UInt8.ofNat (msgBodyLen / 256))).set 3
        (UInt8.ofNat msgBodyLen)
  | .divide =>
      let msgBodyLen := (info.length + 65536 - 16) % 65536
      (info.set 2 (UInt8.ofNat (msgBodyLen / 256) ||| 0x20)).set 3
        (UInt8.ofNat msgBodyLen)
  | .other => info

/-- `Protocol_End`. -/
def protocolEnd (tx : TxState) (type : PacketType) (linkNum : ℕ) : TxState :=
  let info := fillBodyLen type tx.originalInfo
  let gfcs := info.foldl (· ^^^ ·) 0
  let info := info ++ [gfcs]
  let gprsInfo := 0x7e :: (protocol808Encode info ++ [0x7e])
  { originalInfo := info
    gprsInfo := gprsInfo
    msgFloatID := (tx.msgFloatID + 1) % 65536
    released := tx.released ++ [(gprsInfo, linkNum)] }

/-! ## Receiving -/

/-- The receive buffer and the variables the head of `TCP_RX_Process` sets. -/
structure RxState where
  /-- The memory from `UDP_HEX_Rx` on. -/
  hexRx : ℕ → UInt8
  /-- `below n` is the byte `n` places in front of `UDP_HEX_Rx`. -/
  below : ℕ → UInt8 := fun _ => 0
  hexRxLen : ℕ := 0
  decodeHexLen : ℕ := 0
  centreCmdID : ℕ := 0
  centreFloatID : ℕ := 0
  fcsRxUdp : UInt8 := 0

/-- The loop of `Protocol_808_Decode` from read index `i` and write index
`UDP_DecodeHex_Len = n`; every turn advances `i`, so `len` turns suffice. -/
def decodeLoop (len : ℕ) :
    ℕ → (ℕ → UInt8) → ℕ → ℕ → (ℕ → UInt8) × ℕ
  | 0, rx, _, n => (rx, n)
  | fuel + 1, rx, i, n =>
      if i < len then
        if rx i = 0x7d ∧ rx (i + 1) = 0x02 then
          decodeLoop len fuel (Function.update rx n 0x7e) (i + 2) (n + 1)
        else if rx i = 0x7d ∧ rx (i + 1) = 0x01 then
          decodeLoop len fuel (Function.update rx n 0x7d) (i + 2) (n + 1)
        else decodeLoop len fuel (Function.update rx n (rx i)) (i + 1) (n + 1)
      else (rx, n)

/-- `Protocol_808_Decode`. -/
def protocol808Decode (s : RxState) : RxState :=
  let (rx, n) := decodeLoop s.hexRxLen s.hexRxLen s.hexRx 0 0
  { s with hexRx := rx, decodeHexLen := n }

/-- `UDP_HEX_Rx[UDP_DecodeHex_Len-2]`, in front of the buffer when fewer than
two bytes were decoded. -/
def RxState.checkByte (s : RxState) : UInt8 :=
  if 2 ≤ s.decodeHexLen then s.hexRx (s.decodeHexLen - 2)
  else s.below (2 - s.decodeHexLen)

/-- The decoded bytes. -/
def RxState.decoded (s : RxState) : List UInt8 :=
  readBytes s.hexRx 0 s.decodeHexLen

/-- `FCS_RX_UDP` after its loop: the XOR of the decoded bytes between the first
flag and the checksum. -/
def RxState.checkSum (s : RxState) : UInt8 :=
  (readBytes s.hexRx 1 (s.decodeHexLen - 3)).foldl (· ^^^ ·) 0

/-- The variables set from the head of a frame. -/
def RxState.noteHead (s : RxState) : RxState :=
  { s with
    centreCmdID := (s.hexRx 1).toNat * 256 + (s.hexRx 2).toNat
    centreFloatID := (s.hexRx 11).toNat * 256 + (s.hexRx 12).toNat
    fcsRxUdp := s.checkSum }

/-- `memset(UDP_HEX_Rx, 0, sizeof(UDP_HEX_Rx))` and a zero length. -/
def RxState.drop (s : RxState) : RxState :=
  { s with
    hexRx := fun i => if i < 1024 then 0 else s.hexRx i
    hexRxLen := 0 }

/-- `TCP_RX_Process` up to the command switch: `true` when the switch is
reached. -/
def tcpRxCheck (s : RxState) : RxState × Bool :=
  let s := protocol808Decode s
  if s.hexRx 0 ≠ 0x7e then (s, false)
  else if s.checkByte ≠ s.checkSum then (s.noteHead.drop, false)
  else (s.noteHead, true)

/-! ## The encoder -/

theorem protocol808Encode_eq (m : List UInt8) :
    protocol808Encode m = jt808.encode m := by
  induction m with
  | nil => rfl
  | cons b m ih =>
      rw [protocol808Encode, Code.encode, ih]
      rfl

/-- The frame of a message. -/
def frame (m : List UInt8) : List UInt8 := jt808.frame (m ++ [xorSum m])

theorem protocolEnd_gprsInfo (tx : TxState) (type : PacketType)
    (linkNum : ℕ) :
    (protocolEnd tx type linkNum).gprsInfo =
      frame (fillBodyLen type tx.originalInfo) := by
  rw [protocolEnd, protocol808Encode_eq]
  rfl

/-! ## The decoder in place -/

theorem readBytes_update_of_lt {rx : ℕ → UInt8} {n addr len : ℕ}
    (h : n < addr) (b : UInt8) :
    readBytes (Function.update rx n b) addr len = readBytes rx addr len := by
  apply readBytes_congr
  intro x hlo _
  have hne : x ≠ n := by omega
  exact Function.update_of_ne hne b rx

/-- What the loop leaves behind: `xs` from the write index on, and everything in
front of it as it was. -/
structure Written (rx rx' : ℕ → UInt8) (n : ℕ) (xs : List UInt8) : Prop where
  read : readBytes rx' n xs.length = xs
  front : ∀ j < n, rx' j = rx j

theorem Written.cons {rx rx' : ℕ → UInt8} {n : ℕ} {xs : List UInt8}
    {b : UInt8} (h : Written (Function.update rx n b) rx' (n + 1) xs) :
    Written rx rx' n (b :: xs) where
  read := by
    rw [List.length_cons, readBytes, h.read, h.front n (Nat.lt_succ_self n),
      Function.update_self]
  front := by
    intro j hj
    rw [h.front j (by omega), Function.update_of_ne (by omega)]

theorem decodeLoop_done {len i : ℕ} (h : len ≤ i) (fuel : ℕ)
    (rx : ℕ → UInt8) (n : ℕ) : decodeLoop len fuel rx i n = (rx, n) := by
  cases fuel with
  | zero => rfl
  | succ fuel => exact if_neg (Nat.not_lt.mpr h)

theorem decodeLoop_flag {len i : ℕ} {rx : ℕ → UInt8} (hi : i < len)
    (h : rx i = 0x7d ∧ rx (i + 1) = 0x02) (fuel n : ℕ) :
    decodeLoop len (fuel + 1) rx i n =
      decodeLoop len fuel (Function.update rx n 0x7e) (i + 2) (n + 1) := by
  rw [decodeLoop, if_pos hi, if_pos h]

theorem decodeLoop_esc {len i : ℕ} {rx : ℕ → UInt8} (hi : i < len)
    (h : rx i = 0x7d ∧ rx (i + 1) = 0x01) (fuel n : ℕ) :
    decodeLoop len (fuel + 1) rx i n =
      decodeLoop len fuel (Function.update rx n 0x7d) (i + 2) (n + 1) := by
  have hcode : ¬ (rx i = 0x7d ∧ rx (i + 1) = 0x02) := by
    rw [h.2]
    exact fun hflag => absurd hflag.2 (by decide)
  rw [decodeLoop, if_pos hi, if_neg hcode, if_pos h]

theorem decodeLoop_plain {len i : ℕ} {rx : ℕ → UInt8} (hi : i < len)
    (hflag : ¬ (rx i = 0x7d ∧ rx (i + 1) = 0x02))
    (hesc : ¬ (rx i = 0x7d ∧ rx (i + 1) = 0x01)) (fuel n : ℕ) :
    decodeLoop len (fuel + 1) rx i n =
      decodeLoop len fuel (Function.update rx n (rx i)) (i + 1) (n + 1) := by
  rw [decodeLoop, if_pos hi, if_neg hflag, if_neg hesc]

theorem readBytes_eq_cons {rx : ℕ → UInt8} {i : ℕ} {a : UInt8}
    {s : List UInt8} (h : readBytes rx i (a :: s).length = a :: s) :
    rx i = a ∧ readBytes rx (i + 1) s.length = s := by
  rw [List.length_cons, readBytes, List.cons.injEq] at h
  exact h

theorem getLast?_tail_ne {a z : UInt8} {s : List UInt8}
    (h : (a :: s).getLast? ≠ some z) : s.getLast? ≠ some z := by
  intro hs
  apply h
  rw [List.getLast?_cons, hs, Option.getD_some]

/-- The loop decodes the rest of the buffer in place, as the write index never
passes the read index.  The induction is on the string still to be read; its
last byte is not an escape, so that no byte behind it is looked at. -/
theorem decodeLoop_written (len : ℕ) (s : List UInt8) :
    ∀ (fuel : ℕ) (rx : ℕ → UInt8) (i n : ℕ), readBytes rx i s.length = s →
      i + s.length = len → s.length ≤ fuel → n ≤ i →
      s.getLast? ≠ some 0x7d →
      (decodeLoop len fuel rx i n).2 = n + (jt808.decode s).length ∧
        Written rx (decodeLoop len fuel rx i n).1 n (jt808.decode s) := by
  fun_induction Code.decode jt808 s with
  | case1 =>
      intro fuel rx i n _ hlen _ _ _
      have hdone : len ≤ i := Nat.le_of_eq hlen.symm
      rw [decodeLoop_done hdone]
      exact ⟨rfl, rfl, fun j _ => rfl⟩
  | case2 a =>
      intro fuel rx i n hread hlen hfuel hn hlast
      obtain ⟨fuel, rfl⟩ := Nat.exists_eq_add_of_le' hfuel
      have ha : rx i = a := List.head_eq_of_cons_eq hread
      have hne : rx i ≠ 0x7d := by
        intro hrx
        rw [ha] at hrx
        exact hlast (congrArg some hrx)
      have hi : i < len := Nat.lt_of_succ_le (Nat.le_of_eq hlen)
      have hdone : len ≤ i + 1 := Nat.le_of_eq hlen.symm
      rw [List.length_singleton, decodeLoop_plain hi
        (fun h => hne h.1) (fun h => hne h.1), decodeLoop_done hdone, ha]
      exact ⟨rfl, Written.cons ⟨rfl, fun j _ => rfl⟩⟩
  | case3 a b s h ih =>
      intro fuel rx i n hread hlen hfuel hn hlast
      obtain ⟨ha, hread⟩ := readBytes_eq_cons hread
      obtain ⟨hb, hread⟩ := readBytes_eq_cons hread
      rw [List.length_cons, List.length_cons] at hlen hfuel
      obtain ⟨fuel, rfl⟩ := Nat.exists_eq_add_of_le' (show 1 ≤ fuel by omega)
      have hcode : rx i = 0x7d ∧ rx (i + 1) = 0x02 := by
        rw [ha, hb]
        exact h
      have hread' : readBytes (Function.update rx n 0x7e) (i + 2) s.length =
          s := by
        rw [readBytes_update_of_lt (by omega)]
        exact hread
      obtain ⟨hlen', hwritten⟩ := ih fuel (Function.update rx n 0x7e) (i + 2)
        (n + 1) hread' (by omega) (by omega) (by omega)
        (getLast?_tail_ne (getLast?_tail_ne hlast))
      rw [decodeLoop_flag (by omega) hcode, List.length_cons]
      exact ⟨by rw [hlen']; omega, hwritten.cons⟩
  | case4 a b s _ h ih =>
      intro fuel rx i n hread hlen hfuel hn hlast
      obtain ⟨ha, hread⟩ := readBytes_eq_cons hread
      obtain ⟨hb, hread⟩ := readBytes_eq_cons hread
      rw [List.length_cons, List.length_cons] at hlen hfuel
      obtain ⟨fuel, rfl⟩ := Nat.exists_eq_add_of_le' (show 1 ≤ fuel by omega)
      have hcode : rx i = 0x7d ∧ rx (i + 1) = 0x01 := by
        rw [ha, hb]
        exact h
      have hread' : readBytes (Function.update rx n 0x7d) (i + 2) s.length =
          s := by
        rw [readBytes_update_of_lt (by omega)]
        exact hread
      obtain ⟨hlen', hwritten⟩ := ih fuel (Function.update rx n 0x7d) (i + 2)
        (n + 1) hread' (by omega) (by omega) (by omega)
        (getLast?_tail_ne (getLast?_tail_ne hlast))
      rw [decodeLoop_esc (by omega) hcode, List.length_cons]
      exact ⟨by rw [hlen']; omega, hwritten.cons⟩
  | case5 a b s hflag hesc ih =>
      intro fuel rx i n hread hlen hfuel hn hlast
      obtain ⟨ha, hread⟩ := readBytes_eq_cons hread
      have hb := (readBytes_eq_cons hread).1
      rw [List.length_cons] at hlen hfuel
      obtain ⟨fuel, rfl⟩ := Nat.exists_eq_add_of_le' (show 1 ≤ fuel by omega)
      have hread' : readBytes (Function.update rx n a) (i + 1)
          (b :: s).length = b :: s := by
        rw [readBytes_update_of_lt (by omega)]
        exact hread
      obtain ⟨hlen', hwritten⟩ := ih fuel (Function.update rx n a) (i + 1)
        (n + 1) hread' (by omega) (by omega) (by omega)
        (getLast?_tail_ne hlast)
      have hi : i < len := by
        rw [← hlen, List.length_cons]
        omega
      rw [decodeLoop_plain hi (by rw [ha, hb]; exact hflag)
        (by rw [ha, hb]; exact hesc), ha, List.length_cons]
      exact ⟨by rw [hlen']; omega, hwritten.cons⟩

/-- A received string that does not end in an escape is decoded in place,
whatever lies behind it. -/
theorem protocol808Decode_decoded {s : RxState} {xs : List UInt8}
    (hlen : s.hexRxLen = xs.length) (hread : readBytes s.hexRx 0 xs.length = xs)
    (hlast : xs.getLast? ≠ some 0x7d) :
    (protocol808Decode s).decoded = jt808.decode xs := by
  obtain ⟨hn, hwritten⟩ := decodeLoop_written s.hexRxLen xs s.hexRxLen s.hexRx
    0 0 hread (by omega) (by omega) (Nat.le_refl 0) hlast
  rw [RxState.decoded, protocol808Decode]
  simp only [hn, Nat.zero_add]
  exact hwritten.read

/-! ## The checksum -/

/-- A frame reaches the command switch exactly if it starts with a flag and its
checksum agrees. -/
theorem tcpRxCheck_accepts_iff (s : RxState) :
    (tcpRxCheck s).2 = true ↔
      (protocol808Decode s).hexRx 0 = 0x7e ∧
        (protocol808Decode s).checkByte = (protocol808Decode s).checkSum := by
  rw [tcpRxCheck]
  by_cases hhead : (protocol808Decode s).hexRx 0 = 0x7e
  · rw [if_neg (not_not_intro hhead)]
    by_cases hcheck : (protocol808Decode s).checkByte =
        (protocol808Decode s).checkSum
    · rw [if_neg (not_not_intro hcheck)]
      exact ⟨fun _ => ⟨hhead, hcheck⟩, fun _ => rfl⟩
    · rw [if_pos hcheck]
      exact ⟨nofun, fun h => absurd h.2 hcheck⟩
  · rw [if_pos hhead]
    exact ⟨nofun, fun h => absurd h.1 hhead⟩

/-- The bytes the checksum test compares, in a decoded frame. -/
theorem checkSum_of_decoded {s : RxState} {a c e : UInt8} {m : List UInt8}
    (h : s.decoded = a :: (m ++ [c, e])) :
    s.hexRx 0 = a ∧ s.checkByte = c ∧ s.checkSum = xorSum m := by
  have hlen : s.decodeHexLen = m.length + 3 := by
    have hlength := congrArg List.length h
    rw [RxState.decoded, readBytes_length] at hlength
    simpa using hlength
  rw [RxState.decoded, hlen, readBytes, readBytes_add, List.cons.injEq] at h
  obtain ⟨hhead, htail⟩ := h
  obtain ⟨hm, hend⟩ := List.append_inj htail (readBytes_length _ _ _)
  have hc : s.hexRx (m.length + 1) = c := by
    rw [Nat.add_comm]
    exact List.head_eq_of_cons_eq hend
  refine ⟨hhead, ?_, ?_⟩
  · rw [RxState.checkByte, hlen, if_pos (by omega)]
    exact hc
  · rw [RxState.checkSum, hlen, Nat.add_sub_cancel]
    exact congrArg xorSum hm

/-- A received frame decodes to its message and is accepted. -/
theorem tcpRxCheck_frame {s : RxState} {m : List UInt8}
    (hlen : s.hexRxLen = (frame m).length)
    (hread : readBytes s.hexRx 0 (frame m).length = frame m) :
    (protocol808Decode s).decoded = 0x7e :: (m ++ [xorSum m, 0x7e]) ∧
      (tcpRxCheck s).2 = true := by
  have hlast : (frame m).getLast? ≠ some 0x7d := by
    rw [frame, Code.frame, ← List.cons_append, List.getLast?_concat]
    decide
  have hdecoded : (protocol808Decode s).decoded =
      0x7e :: (m ++ [xorSum m, 0x7e]) := by
    rw [protocol808Decode_decoded hlen hread hlast, frame, Code.decode_frame,
      List.append_assoc]
    rfl
  obtain ⟨hhead, hcheck, hsum⟩ := checkSum_of_decoded hdecoded
  refine ⟨hdecoded, (tcpRxCheck_accepts_iff s).mpr ⟨hhead, ?_⟩⟩
  rw [hcheck, hsum]

/-- What the switch works on after an accepted frame. -/
theorem tcpRxCheck_fst {s : RxState} (h : (tcpRxCheck s).2 = true) :
    (tcpRxCheck s).1 = (protocol808Decode s).noteHead := by
  obtain ⟨hhead, hcheck⟩ := (tcpRxCheck_accepts_iff s).mp h
  rw [tcpRxCheck, if_neg (not_not_intro hhead), if_neg (not_not_intro hcheck)]

theorem centreCmdID_of_accepted {s : RxState} (h : (tcpRxCheck s).2 = true) :
    (tcpRxCheck s).1.centreCmdID =
      ((tcpRxCheck s).1.hexRx 1).toNat * 256 +
        ((tcpRxCheck s).1.hexRx 2).toNat := by
  rw [tcpRxCheck_fst h]
  rfl

/-! ## Sample messages -/

/-- A message without SIM number and serial number. -/
def message (cmdId : ℕ) (body : List UInt8) : List UInt8 :=
  [UInt8.ofNat (cmdId / 256), UInt8.ofNat cmdId,
    UInt8.ofNat (body.length / 256), UInt8.ofNat body.length,
    0, 0, 0, 0, 0, 0, 0, 0] ++ body

/-- The buffer with the frame of a message just received, over a rest. -/
def received (m : List UInt8) (rest : UInt8) : RxState where
  hexRx := fun i => (frame m).getD i rest
  hexRxLen := (frame m).length

theorem readBytes_getD (xs : List UInt8) (rest : UInt8) :
    readBytes (fun i => xs.getD i rest) 0 xs.length = xs := by
  refine readBytes_of_getElem? fun i hi => ?_
  rw [Nat.zero_add, List.getD_eq_getElem?_getD, List.getElem?_eq_getElem hi,
    Option.getD_some]

theorem received_accepted (m : List UInt8) (rest : UInt8) :
    (tcpRxCheck (received m rest)).2 = true :=
  (tcpRxCheck_frame rfl (readBytes_getD _ rest)).2

/-- The buffer of an accepted message. -/
theorem received_decoded (m : List UInt8) (rest : UInt8) :
    readBytes (tcpRxCheck (received m rest)).1.hexRx 0 (m.length + 3) =
        0x7e :: (m ++ [xorSum m, 0x7e]) ∧
      (tcpRxCheck (received m rest)).1.decodeHexLen = m.length + 3 := by
  have h := (tcpRxCheck_frame (s := received m rest) rfl
    (readBytes_getD _ rest)).1
  have hlen : (protocol808Decode (received m rest)).decodeHexLen =
      m.length + 3 := by
    have hlength := congrArg List.length h
    rw [RxState.decoded, readBytes_length] at hlength
    simpa using hlength
  rw [tcpRxCheck_fst (received_accepted m rest)]
  rw [RxState.decoded, hlen] at h
  exact ⟨h, hlen⟩

/-- A byte of an accepted message in the buffer. -/
theorem received_hexRx {m : List UInt8} {i : ℕ} {b : UInt8}
    (h : m[i]? = some b) (rest : UInt8) :
    (tcpRxCheck (received m rest)).1.hexRx (i + 1) = b := by
  obtain ⟨hi, -⟩ := List.getElem?_eq_some_iff.mp h
  have hread := congrArg (fun xs => xs[i + 1]?) (received_decoded m rest).1
  rw [getElem?_readBytes, if_pos (by omega), List.getElem?_cons_succ,
    List.getElem?_append_left hi, h, Nat.zero_add] at hread
  exact Option.some.inj hread

/-- The body of an accepted message in the buffer. -/
theorem received_body (cmdId : ℕ) (body : List UInt8) (rest : UInt8) :
    readBytes (tcpRxCheck (received (message cmdId body) rest)).1.hexRx 13
      body.length = body := by
  refine readBytes_of_getElem? fun i hi => ?_
  have hbyte : (message cmdId body)[12 + i]? = some body[i] := by
    rw [message, List.getElem?_append_right (Nat.le_add_right 12 i)]
    simp [hi]
  have hoff : 13 + i = 12 + i + 1 := by omega
  rw [hoff, received_hexRx hbyte rest, List.getElem?_eq_getElem hi]

theorem received_decodeHexLen (cmdId : ℕ) (body : List UInt8) (rest : UInt8) :
    (tcpRxCheck (received (message cmdId body) rest)).1.decodeHexLen =
      body.length + 15 := by
  rw [(received_decoded _ rest).2, message, List.length_append]
  simp only [List.length_cons, List.length_nil]
  omega

theorem received_centreCmdID {cmdId : ℕ} (hcmd : cmdId < 65536)
    (body : List UInt8) (rest : UInt8) :
    (tcpRxCheck (received (message cmdId body) rest)).1.centreCmdID =
      cmdId := by
  have h0 := received_hexRx (m := message cmdId body) (i := 0) rfl rest
  have h1 := received_hexRx (m := message cmdId body) (i := 1) rfl rest
  rw [centreCmdID_of_accepted (received_accepted _ rest)]
  rw [Nat.zero_add] at h0
  rw [h0, h1]
  simp only [UInt8.toNat_ofNat']
  omega

/-! ## The round trip -/

/-- The frame `Protocol_End` builds has its flags at the two ends only; received
anew, whatever lies behind it, it decodes to the message and its checksum, and
is accepted.  No frame with a wrong checksum is.  The sizes of the buffers play
no part in this. -/
theorem protocolEnd_roundTrip (tx : TxState) (type : PacketType)
    (linkNum : ℕ) :
    let m := fillBodyLen type tx.originalInfo
    let f := (protocolEnd tx type linkNum).gprsInfo
    f = 0x7e :: (protocol808Encode (m ++ [xorSum m]) ++ [0x7e]) ∧
      (∀ i, f[i]? = some 0x7e ↔ i = 0 ∨ i + 1 = f.length) ∧
      (∀ s : RxState, s.hexRxLen = f.length →
        readBytes s.hexRx 0 f.length = f →
        (protocol808Decode s).decoded = 0x7e :: (m ++ [xorSum m, 0x7e]) ∧
          (tcpRxCheck s).2 = true) ∧
      (∀ s : RxState, (tcpRxCheck s).2 = true →
        (protocol808Decode s).checkByte =
          xorSum (readBytes (protocol808Decode s).hexRx 1
            ((protocol808Decode s).decodeHexLen - 3))) := by
  intro m f
  have hf : f = jt808.frame (m ++ [xorSum m]) :=
    protocolEnd_gprsInfo tx type linkNum
  refine ⟨rfl, ?_, ?_, ?_⟩
  · intro i
    rw [hf]
    exact jt808.getElem?_frame_eq_flag _ i
  · intro s hlen hread
    rw [hf] at hlen hread
    exact tcpRxCheck_frame hlen hread
  · intro s haccept
    exact ((tcpRxCheck_accepts_iff s).mp haccept).2

/-- A message with both escaped symbols, received in front of other bytes. -/
theorem protocolEnd_roundTrip_sample :
    let f : List UInt8 := [0x7e, 0x01, 0x7d, 0x02, 0x7d, 0x01, 0x02, 0x7e]
    let s : RxState := { hexRx := fun i => f.getD i 0x55, hexRxLen := 8 }
    (protocol808Decode s).decoded = [0x7e, 0x01, 0x7e, 0x7d, 0x02, 0x7e] ∧
      (tcpRxCheck s).2 = true :=
  (protocolEnd_roundTrip { originalInfo := [0x01, 0x7e, 0x7d] } .other
    0).2.2.1 _ rfl rfl

end VehicleRecorder.Protocol
