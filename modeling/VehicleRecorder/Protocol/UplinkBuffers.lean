import VehicleRecorder.Camera.SegmentedUpload
import VehicleRecorder.Dataflash.PositionRecord
import VehicleRecorder.Lib.Layout
import VehicleRecorder.Protocol.RecorderAck
import VehicleRecorder.Protocol.SettingReport

/-!
# The buffers of the uplink

A message is built in `Original_info`, and `Protocol_End` writes its frame to
`GPRS_info`, which has room for 900 bytes.  Every byte that is escaped takes two
of them.  Some of the content goes through an array on the stack first.

The module says which of the messages `0x0104`, `0x0700` and `0x0801` stay within
their buffers.
-/

namespace VehicleRecorder.Protocol

open Bytes Layout Dataflash AppState Camera ByteStuffing

/-! ## Frames in `GPRS_info` -/

/-- `sizeof(Original_info)`. -/
abbrev originalInfoSize : ℕ := 850

/-- `sizeof(GPRS_info)`. -/
abbrev gprsInfoSize : ℕ := 900

/-- The message that `Protocol_End` makes of the bytes in `Original_info`. -/
def ended (type : PacketType) (info : List UInt8) : TxState :=
  protocolEnd { originalInfo := info } type 0

/-- The message fits `Original_info`, and its frame fits `GPRS_info`. -/
def FitsBuffers (type : PacketType) (info : List UInt8) : Prop :=
  (ended type info).originalInfo.length ≤ originalInfoSize ∧
    (ended type info).gprsInfo.length ≤ gprsInfoSize

/-- How many of these bytes are escaped. -/
def specials (xs : List UInt8) : ℕ := xs.countP jt808.special

theorem specials_append (xs ys : List UInt8) :
    specials (xs ++ ys) = specials xs + specials ys := List.countP_append

/-- How many bytes of a message are escaped. -/
def escapes (type : PacketType) (info : List UInt8) : ℕ :=
  specials (ended type info).originalInfo

theorem length_ended (type : PacketType) (info : List UInt8) :
    (ended type info).originalInfo.length = info.length + 1 := by
  rw [ended, protocolEnd, List.length_append]
  cases type <;> simp [fillBodyLen]

theorem length_gprsInfo (type : PacketType) (info : List UInt8) :
    (ended type info).gprsInfo.length =
      info.length + 1 + escapes type info + 2 := by
  rw [← length_ended type info, escapes, specials, ← Code.length_frame jt808,
    ended, protocolEnd_gprsInfo]
  rfl

theorem fitsBuffers_iff (type : PacketType) (info : List UInt8) :
    FitsBuffers type info ↔
      info.length < originalInfoSize ∧
        info.length + escapes type info < gprsInfoSize - 2 := by
  rw [FitsBuffers, length_ended, length_gprsInfo]
  omega

/-- Half of `GPRS_info` is enough for a message whatever its bytes are. -/
theorem fitsBuffers_of_short (type : PacketType) {info : List UInt8}
    (h : info.length ≤ 448) : FitsBuffers type info := by
  have hle : escapes type info ≤ info.length + 1 := by
    rw [← length_ended type info]
    exact List.countP_le_length
  rw [fitsBuffers_iff, originalInfoSize, gprsInfoSize]
  omega

/-! ## The message before its frame -/

/-- The length of the body in a head, `n` bytes being behind it. -/
def bodyLen (type : PacketType) (n : ℕ) : List UInt8 :=
  match type with
  | .normal => beBytes2 ((n + 65536 - 8) % 65536)
  | .divide =>
      let msgBodyLen := (n + 65536 - 12) % 65536
      [UInt8.ofNat (msgBodyLen / 256) ||| 0x20, UInt8.ofNat msgBodyLen]
  | .other => [0, 28]

/-- How many of the given bytes, of the length of the body and of the XOR of all
are escaped. -/
def crowding (type : PacketType) (msgId : ℕ) (fields : List UInt8) : ℕ :=
  let len := bodyLen type fields.length
  specials fields + specials len +
    specials [xorSum (beBytes2 msgId ++ len ++ fields)]

/-- A message of the given bytes, before the length of the body is filled in. -/
def infoOf (msgId : ℕ) (fields : List UInt8) : List UInt8 :=
  beBytes2 msgId ++ [0, 28] ++ fields

theorem fillBodyLen_infoOf (type : PacketType) (msgId : ℕ)
    (fields : List UInt8) :
    fillBodyLen type (infoOf msgId fields) =
      beBytes2 msgId ++ bodyLen type fields.length ++ fields := by
  have hlen (k : ℕ) (hk : 4 ≤ k) : (infoOf msgId fields).length + 65536 - k =
      fields.length + 65536 - (k - 4) := by
    have hinfo : (infoOf msgId fields).length = fields.length + 4 := rfl
    omega
  cases type with
  | normal =>
      rw [fillBodyLen, hlen 12 (by decide)]
      rfl
  | divide =>
      rw [fillBodyLen, hlen 16 (by decide)]
      rfl
  | other => rfl

theorem escapes_infoOf {msgId : ℕ} (hid : specials (beBytes2 msgId) = 0)
    (type : PacketType) (fields : List UInt8) :
    escapes type (infoOf msgId fields) = crowding type msgId fields := by
  have hended : (ended type (infoOf msgId fields)).originalInfo =
      fillBodyLen type (infoOf msgId fields) ++
        [xorSum (fillBodyLen type (infoOf msgId fields))] := rfl
  rw [escapes, hended, fillBodyLen_infoOf, crowding]
  simp only [specials_append, hid]
  omega

/-! ## Strings in memory -/

/-- `STM32_SRAM_SIZE`, in bytes. -/
abbrev sramSize : ℕ := 131072

/-- The string from an address on, up to a zero or to the end of the memory. -/
def stringFrom (f : ℕ → UInt8) : List UInt8 := cString (readBytes f 0 sramSize)

theorem length_cString_readBytes_le_iff (f : ℕ → UInt8) (addr n k : ℕ) :
    (cString (readBytes f addr n)).length ≤ k ↔
      n ≤ k ∨ ∃ i ≤ k, f (addr + i) = 0 := by
  induction n generalizing addr k with
  | zero => exact iff_of_true (Nat.zero_le k) (.inl (Nat.zero_le k))
  | succ n ih =>
      by_cases hzero : f addr = 0
      · refine iff_of_true ?_ (.inr ⟨0, Nat.zero_le k, hzero⟩)
        simp [readBytes, cString, hzero]
      · have hcons : cString (readBytes f addr (n + 1)) =
            f addr :: cString (readBytes f (addr + 1) n) := by
          simp [readBytes, cString, hzero]
        rw [hcons, List.length_cons]
        cases k with
        | zero =>
            refine iff_of_false (Nat.not_succ_le_zero _) ?_
            rintro (h | ⟨i, hi, h⟩)
            · exact Nat.not_succ_le_zero n h
            · rw [Nat.le_zero.mp hi] at h
              exact hzero h
        | succ k =>
            rw [Nat.succ_le_succ_iff, ih, Nat.succ_le_succ_iff]
            refine or_congr_right ⟨?_, ?_⟩
            · rintro ⟨i, hi, h⟩
              refine ⟨i + 1, Nat.succ_le_succ hi, ?_⟩
              rw [← h]
              congr 1
              omega
            · rintro ⟨i, hi, h⟩
              cases i with
              | zero => exact absurd h hzero
              | succ i =>
                  refine ⟨i, Nat.le_of_succ_le_succ hi, ?_⟩
                  rw [← h]
                  congr 1
                  omega

/-- A string has at most `k` characters if a zero stands among the first `k+1`
bytes. -/
theorem length_stringFrom_le_iff {f : ℕ → UInt8} {k : ℕ} (hk : k < sramSize) :
    (stringFrom f).length ≤ k ↔ ∃ i ≤ k, f i = 0 := by
  rw [stringFrom, length_cString_readBytes_le_iff,
    or_iff_right (Nat.not_le.mpr hk)]
  simp only [Nat.zero_add]

/-- A string that ends within the first bytes. -/
theorem stringFrom_eq {f : ℕ → UInt8} {n : ℕ} (hn : n ≤ sramSize)
    (hend : ∃ i < n, f i = 0) : stringFrom f = cString (readBytes f 0 n) := by
  obtain ⟨i, hi, hzero⟩ := hend
  have hshort : (cString (readBytes f 0 n)).length ≤ i :=
    (length_cString_readBytes_le_iff f 0 n i).mpr
      (.inr ⟨i, le_rfl, by rw [Nat.zero_add]; exact hzero⟩)
  have hsplit : sramSize = n + (sramSize - n) := by omega
  rw [stringFrom, hsplit, readBytes_add, cString, List.takeWhile_append,
    if_neg]
  · rfl
  · rw [readBytes_length]
    intro heq
    have hlen : (cString (readBytes f 0 n)).length = n := heq
    omega

/-! ## The state -/

/-- The position in a media message. -/
structure MediaPlace where
  warnStatus : Vector UInt8 4
  carStatus : Vector UInt8 4
  latitude : Vector UInt8 4
  longitude : Vector UInt8 4
  gpsHight : ℕ
  speedGps : ℕ
  gpsDirection : ℕ
  date : Vector UInt8 3
  time : Vector UInt8 3

/-- What the three messages are made of. -/
structure UplinkState where
  app : AppState
  simCode : ℕ → UInt8
  msgFloatId : ℕ
  centreFloatId : ℕ
  deviceNumberId : Vector UInt8 12
  /-- What lies in `Original_info`. -/
  originalInfo : ℕ → UInt8
  /-- What lies from `reg_str` on. -/
  regStr : ℕ → UInt8
  /-- What lies in `Reg`. -/
  reg : Vector UInt8 70
  upload : UploadState
  place : MediaPlace
  mediaCodeType : UInt8
  eventCode : UInt8

namespace UplinkState

variable (u : UplinkState)

/-! ## The message `0x0104` -/

/-- `sizeof(reg_str)`. -/
abbrev regStrSize : ℕ := 30

/-- The name of the main server. -/
def domainName : List UInt8 := stringFrom (u.app.mem .domainNameStr)

/-- The address of the other server. -/
def auxAddress : List UInt8 := ipStr u.app.link.remoteIpAux

/-- The string in `reg_str` behind a `memset` and a copy. -/
def throughRegStr (xs : List UInt8) : List UInt8 :=
  stringFrom (overlay (fun i => if i < regStrSize then 0 else u.regStr i) xs)

/-- The parameters in the message, with strings that need not end in their
arrays. -/
def settingList : List Pram :=
  [⟨0x0083, stringFrom (u.app.mem .vechNum)⟩,
    ⟨0x0013, u.throughRegStr u.domainName⟩,
    ⟨0x0018, [0, 0, UInt8.ofNat (u.app.link.remotePortMain / 256),
      UInt8.ofNat u.app.link.remotePortMain]⟩,
    ⟨0x0010, stringFrom (u.app.mem .apnString)⟩,
    ⟨0x0017, u.throughRegStr u.auxAddress⟩,
    ⟨0x0029, beBytes4 u.app.conf.duration.defaultDur⟩,
    ⟨0x0040, stringFrom (u.app.mem .listenNum)⟩,
    ⟨0x0055, beBytes4 u.app.conf.speedWarnMax⟩,
    ⟨0x0057, beBytes4 u.app.tiredConf.tiredDoor.drvKeepingSec⟩,
    ⟨0x0059, beBytes4 u.app.tiredConf.tiredDoor.minSleepSec⟩,
    ⟨0xF000, u.deviceNumberId.toList⟩]

/-- What the message consists of behind its length. -/
def settingFields : List UInt8 :=
  readBytes u.simCode 0 6 ++ beBytes2 u.msgFloatId ++ beBytes2 u.centreFloatId ++
    [11] ++ u.settingList.flatMap Pram.bytes

/-- `Stuff_SettingPram_0104H` up to `Protocol_End`. -/
def settingInfo : List UInt8 := infoOf 0x0104 u.settingFields

/-- The copies to `reg_str` and the message stay within their buffers. -/
def SettingFits : Prop :=
  u.domainName.length ≤ regStrSize ∧ u.auxAddress.length < regStrSize ∧
    FitsBuffers .normal u.settingInfo

theorem auxAddress_eq : ∃ a < 256, ∃ b < 256, ∃ c < 256, ∃ d < 256,
    u.auxAddress = decimal a ++ 0x2e :: (decimal b ++ 0x2e :: (decimal c ++
      0x2e :: decimal d)) := by
  let ip := u.app.link.remoteIpAux
  refine ⟨_, (ip.getD 0 0).toNat_lt, _, (ip.getD 1 0).toNat_lt, _,
    (ip.getD 2 0).toNat_lt, _, (ip.getD 3 0).toNat_lt, ?_⟩
  simp [auxAddress, ipStr, List.range, List.range.loop, List.intercalate,
    List.intersperse, ip]

theorem auxAddress_length : u.auxAddress.length ≤ 15 := by
  obtain ⟨a, ha, b, hb, c, hc, d, hd, heq⟩ := u.auxAddress_eq
  have hlen {n : ℕ} (hn : n < 256) : (decimal n).length ≤ 3 :=
    length_decimal_le (by decide) (hn.trans (by decide))
  have hfirst := And.intro (hlen ha) (hlen hb)
  have hsecond := And.intro (hlen hc) (hlen hd)
  simp only [heq, List.length_append, List.length_cons]
  omega

theorem zero_notMem_auxAddress : 0 ∉ u.auxAddress := by
  obtain ⟨a, ha, b, hb, c, hc, d, hd, heq⟩ := u.auxAddress_eq
  have hzero (n : ℕ) : 0 ∉ decimal n := notMem_decimal (by decide)
  simp [heq, hzero]

/-- The characters of the strings in the message. -/
def stringLength : ℕ :=
  (stringFrom (u.app.mem .vechNum)).length +
    (u.throughRegStr u.domainName).length +
    (stringFrom (u.app.mem .apnString)).length +
    (u.throughRegStr u.auxAddress).length +
    (stringFrom (u.app.mem .listenNum)).length

/-- All but the strings has a fixed length. -/
theorem length_settingInfo : u.settingInfo.length = 102 + u.stringLength := by
  rw [settingInfo, infoOf, settingFields, settingList, stringLength]
  simp only [List.length_append, List.length_cons, List.length_nil,
    readBytes_length, List.flatMap_cons, List.flatMap_nil, Pram.bytes,
    beBytes2_length, beBytes4_length, Vector.length_toList]
  omega

theorem settingFits_iff :
    u.SettingFits ↔
      u.domainName.length ≤ regStrSize ∧ u.stringLength < 748 ∧
        u.stringLength + crowding .normal 0x0104 u.settingFields < 796 := by
  have haux := Nat.lt_of_le_of_lt u.auxAddress_length
    (show 15 < regStrSize by decide)
  have hescapes := escapes_infoOf (by decide : specials (beBytes2 0x0104) = 0)
    .normal u.settingFields
  rw [SettingFits, fitsBuffers_iff, and_iff_right haux, u.length_settingInfo,
    originalInfoSize, gprsInfoSize, settingInfo, hescapes]
  refine and_congr_right fun _ => ?_
  omega

section Terminated

variable {u} {xs : List UInt8}

theorem throughRegStr_eq (hlen : xs.length < regStrSize) (hzero : 0 ∉ xs) :
    u.throughRegStr xs = xs := by
  have hend : overlay (fun i => if i < regStrSize then 0 else u.regStr i) xs
      xs.length = 0 := by
    rw [overlay, List.getElem?_eq_none le_rfl, Option.getD_none, if_pos hlen]
  have hsram : xs.length + 1 ≤ sramSize := Nat.le_trans hlen (by decide)
  rw [throughRegStr, stringFrom_eq hsram ⟨xs.length, Nat.lt_succ_self _, hend⟩,
    readBytes_add, Nat.zero_add]
  have hread : readBytes (overlay (fun i => if i < regStrSize then 0 else
      u.regStr i) xs) 0 xs.length = xs := by
    refine readBytes_of_getElem? fun i hi => ?_
    rw [Nat.zero_add, overlay, List.getElem?_eq_getElem hi, Option.getD_some]
  rw [hread, readBytes, hend]
  exact cString_append_zeros hzero 1

/-- The strings end in their arrays, and that of the main server in `reg_str`. -/
structure Terminated (u : UplinkState) : Prop where
  vechNum : 0 ∈ u.app.bytes .vechNum
  domainName : u.domainName.length < regStrSize
  apnString : 0 ∈ u.app.bytes .apnString
  listenNum : 0 ∈ u.app.bytes .listenNum

theorem stringFrom_mem {s : AppState} {d : Arr} (hd : d.size ≤ sramSize)
    (h : 0 ∈ s.bytes d) : stringFrom (s.mem d) = cString (s.bytes d) := by
  refine stringFrom_eq hd ?_
  by_contra hnone
  have hall : ∀ b ∈ readBytes (s.mem d) 0 d.size, b ≠ 0 :=
    forall_mem_readBytes.mpr fun i hi hzero =>
      hnone ⟨i, hi, by rwa [Nat.zero_add] at hzero⟩
  exact hall 0 h rfl

/-- The message is the one whose content is reported. -/
theorem settingInfo_eq (h : u.Terminated) :
    u.settingInfo = infoOf 0x0104 (readBytes u.simCode 0 6 ++
      beBytes2 u.msgFloatId ++
        u.app.stuffSettingPram0104H u.centreFloatId u.deviceNumberId.toList) := by
  have haux := Nat.lt_of_le_of_lt u.auxAddress_length
    (show 15 < regStrSize by decide)
  have hdomain : u.domainName = cString (u.app.bytes .domainNameStr) := by
    obtain ⟨i, hi, hzero⟩ := (length_stringFrom_le_iff (by decide)).mp
      (Nat.le_of_lt_succ h.domainName)
    exact stringFrom_eq (by decide) ⟨i, Nat.lt_of_le_of_lt hi (by decide), hzero⟩
  rw [settingInfo, settingFields, settingList,
    stringFrom_mem (by decide) h.vechNum,
    stringFrom_mem (by decide) h.apnString,
    stringFrom_mem (by decide) h.listenNum,
    throughRegStr_eq h.domainName (zero_notMem_cString _),
    throughRegStr_eq haux u.zero_notMem_auxAddress, hdomain, auxAddress,
    stuffSettingPram0104H, settingPrams]
  simp only [List.append_assoc]
  rfl

/-- Strings that end in their arrays make a short message. -/
theorem settingFits_of_terminated (h : u.Terminated) : u.SettingFits := by
  refine ⟨h.domainName.le, Nat.lt_of_le_of_lt u.auxAddress_length (by decide),
    fitsBuffers_of_short _ ?_⟩
  have hstring (d : Arr) : (cString (u.app.bytes d)).length ≤ d.size :=
    (length_cString_le _).trans (AppState.bytes_length _ d).le
  have hvech : (cString (u.app.bytes .vechNum)).length ≤ 13 := hstring _
  have hdomain : (cString (u.app.bytes .domainNameStr)).length ≤ 50 := hstring _
  have hapn : (cString (u.app.bytes .apnString)).length ≤ 30 := hstring _
  have hlisten : (cString (u.app.bytes .listenNum)).length ≤ 30 := hstring _
  have haux : (ipStr u.app.link.remoteIpAux).length ≤ 15 := u.auxAddress_length
  rw [settingInfo_eq h, infoOf, stuffSettingPram0104H, settingPrams]
  simp only [List.length_append, List.length_cons, List.length_nil,
    readBytes_length, List.flatMap_cons, List.flatMap_nil, Pram.bytes,
    beBytes2_length, beBytes4_length, Vector.length_toList]
  omega

end Terminated

/-! ## The message `0x0700` -/

/-- `Stuff_RecoderACK_0700H` up to `Protocol_End`, unless it returns `false`. -/
def recorderInfo : Option (List UInt8) :=
  (u.app.stuffRecoderAck0700H u.simCode u.msgFloatId u.reg.toList
    ⟨u.originalInfo, 0⟩).map fun r => r.2.writtenFrom 0

/-- The stored records are read within `Reg`, and the message stays within its
buffers. -/
def RecorderFits : Prop :=
  (∀ name readLen style src len step n d w,
      (name, readLen) ∈ [(DirectoryName.spdpermin, 70), (.tiredWarn, 31)] →
      (putRecords name readLen style src len step n d u.reg.toList
        w).2.1.length = 70) ∧
    ∀ info ∈ u.recorderInfo, FitsBuffers .normal info

/-- The reads into `Reg` give as many bytes as they are asked for. -/
theorem apiDFdirectoryRead_length {name : DirectoryName} {readLen : ℕ}
    (h : (name, readLen) ∈ [(DirectoryName.spdpermin, 70), (.tiredWarn, 31)])
    {d : Device} {style i : ℕ} {content : List UInt8}
    (hread : (apiDFdirectoryRead d name readLen style i).2 = some content) :
    content.length = readLen := by
  simp only [List.mem_cons, Prod.mk.injEq, List.not_mem_nil, or_false] at h
  rcases h with ⟨rfl, rfl⟩ | ⟨rfl, rfl⟩
  · rw [apiDFdirectoryRead] at hread
    split at hread
    · exact absurd hread.symm (Option.some_ne_none _)
    · rw [← Option.some.inj hread]
      exact readSlot_length _ _ _ _ _ (by decide)
  · rw [apiDFdirectoryRead] at hread
    split at hread
    · exact absurd hread.symm (Option.some_ne_none _)
    · rw [← Option.some.inj hread]
      exact readSlot_length _ _ _ _ _ (by decide)

/-- Reads of at most 70 bytes stay within `Reg`. -/
theorem putRecords_reg {name : DirectoryName} {readLen : ℕ}
    (h : (name, readLen) ∈ [(DirectoryName.spdpermin, 70), (.tiredWarn, 31)])
    (style src len step n : ℕ) (d : Device) (w : CursorWriter) :
    (putRecords name readLen style src len step n d u.reg.toList
      w).2.1.length = 70 := by
  induction n with
  | zero => exact u.reg.length_toList
  | succ n ih =>
      rw [putRecords_succ]
      dsimp only
      cases hread : (apiDFdirectoryRead (putRecords name readLen style src len
          step n d u.reg.toList w).1 name readLen style n).2 with
      | none => exact ih
      | some content =>
          have hle : content.length ≤ 70 := by
            rw [apiDFdirectoryRead_length h hread]
            simp only [List.mem_cons, Prod.mk.injEq, List.not_mem_nil,
              or_false] at h
            omega
          rw [readReg, List.length_append, List.length_drop, ih]
          omega

/-- The length of a message whose block is known. -/
theorem length_of_holdsBlock {w : CursorWriter} {len : ℕ} {data : List UInt8}
    (h : u.app.HoldsBlock len data w) (b : UInt8) :
    ((w.put b).writtenFrom 0).length = 22 + data.length := by
  have hwr : w.wr = blockStart + (6 + data.length) := by
    rw [CursorWriter.Holds.wr h, blockContent, List.length_append,
      List.length_append]
    simp only [List.length_cons, List.length_nil]
    omega
  have hput : (w.put b).wr = w.wr + 1 := rfl
  rw [CursorWriter.writtenFrom, readBytes_length, hput, hwr, blockStart]
  omega

/-- The message has seven records of speeds. -/
def SevenSpeeds : Prop :=
  u.app.media.recodeCmd ∈ speedCommands ∧
    7 ≤ u.app.device.avrgSpdPerMinWrite % 256

/-- The message is short unless it has seven records of speeds. -/
theorem length_recorderInfo_le {info : List UInt8} (h : info ∈ u.recorderInfo)
    (hseven : ¬ u.SevenSpeeds) : info.length ≤ 448 := by
  have hfront := CursorWriter.holds_nil (u.app.putFront u.simCode u.msgFloatId
    ⟨u.originalInfo, 0⟩)
  rw [putFront_wr] at hfront
  have hstart := hfront.puts [0x55, 0x7A]
  rw [recorderInfo, stuffRecoderAck0700H] at h
  cases hput : u.app.putCommand u.reg.toList ((u.app.putFront u.simCode
      u.msgFloatId ⟨u.originalInfo, 0⟩).puts [0x55, 0x7A]) with
  | none =>
      rw [hput] at h
      exact absurd h (Option.not_mem_none info)
  | some r =>
      rw [hput] at h
      obtain ⟨d, w⟩ := r
      have hinfo : (w.put (xorSum (w.writtenFrom (u.app.putFront u.simCode
          u.msgFloatId ⟨u.originalInfo, 0⟩).wr))).writtenFrom 0 = info :=
        Option.some.inj h
      have hemits {len : ℕ} {data : List UInt8}
          (hdata : u.app.Emits len data) : info.length = 22 + data.length := by
        obtain ⟨d', w', hput', hw'⟩ := hdata u.reg.toList _ hstart
        rw [hput, Option.some.injEq, Prod.mk.injEq] at hput'
        rw [← hinfo]
        exact u.length_of_holdsBlock (hput'.2 ▸ hw') _
      rcases accepted_cases (Option.ne_none_iff_exists'.mpr ⟨_, hput⟩) with
        hcmd | hcmd | hcmd | hcmd
      · obtain ⟨data, hdata, hlt⟩ := emits_of_plain hcmd
        rw [hemits hdata]
        omega
      · obtain ⟨data, hdata, hlt⟩ := emits_doubt hcmd
        rw [hemits hdata]
        omega
      · obtain ⟨len, style, hspeeds⟩ := putCommand_speeds hcmd
        rw [hspeeds, Option.some.injEq] at hput
        have hblock := putSpeeds_holdsBlock (s := u.app) hstart
          (fun _ _ => rfl) len style u.reg.toList
        rw [hput] at hblock
        have hlen := u.length_of_holdsBlock hblock
          (xorSum (w.writtenFrom (u.app.putFront u.simCode u.msgFloatId
            ⟨u.originalInfo, 0⟩).wr))
        have hfew : ¬ 7 ≤ u.app.device.avrgSpdPerMinWrite % 256 :=
          fun hmany => hseven ⟨hcmd, hmany⟩
        rw [hinfo, length_flatMap_range (recordBytes_length
          (speedsRow_length u.app.device style) 5 _ 21), speedsNum] at hlen
        omega
      · obtain ⟨data, hdata, hlen⟩ := emits_tired hcmd
        have hnum : u.app.tiredNum ≤ 6 := Nat.min_le_right _ _
        rw [hemits hdata]
        omega

/-- The direction in which a command goes through the records. -/
def speedsStyle : ℕ := if u.app.media.recodeCmd = 0x05 then 1 else 0

/-- The seven records, each followed by five bytes that lie in
`Original_info`. -/
def speedRecords : List UInt8 :=
  (List.range 7).flatMap fun i =>
    ((speedsRow u.app.device u.speedsStyle i).drop 5).take 60 ++
      readBytes u.originalInfo (21 + i * 65 + 60) 5

/-- What a message with seven records of speeds consists of behind its length. -/
def recorderFields : List UInt8 :=
  readBytes u.simCode 0 6 ++ beBytes2 u.msgFloatId ++
    beBytes2 u.app.media.recodeFloatId ++ [u.app.media.recodeCmd] ++
    dataBlock u.app.media.recodeCmd 455 u.speedRecords

theorem length_speedRecords : u.speedRecords.length = 455 :=
  length_flatMap_range (recordBytes_length (speedsRow_length u.app.device
    u.speedsStyle) 5 u.originalInfo 21) 7

theorem length_recorderInfo :
    (infoOf 0x0700 u.recorderFields).length = 477 := by
  rw [infoOf, recorderFields, dataBlock]
  simp only [List.length_append, readBytes_length, beBytes2_length,
    List.length_cons, List.length_nil, length_speedRecords]

theorem putCommand_speedsStyle (hcmd : u.app.media.recodeCmd ∈ speedCommands) :
    ∃ len, ∀ reg w, u.app.putCommand reg w =
      some (u.app.putSpeeds len u.speedsStyle reg w) := by
  simp only [speedCommands, List.mem_cons, List.not_mem_nil, or_false] at hcmd
  rcases hcmd with h | h
  · refine ⟨435, fun reg w => ?_⟩
    rw [putCommand, speedsStyle, h]
    rfl
  · refine ⟨455, fun reg w => ?_⟩
    rw [putCommand, speedsStyle, h]
    rfl

/-- The message with seven records of speeds. -/
theorem recorderInfo_of_sevenSpeeds (h : u.SevenSpeeds) :
    u.recorderInfo = some (infoOf 0x0700 u.recorderFields) := by
  obtain ⟨hcmd, hmany⟩ := h
  obtain ⟨len, hspeeds⟩ := u.putCommand_speedsStyle hcmd
  set front := u.app.putFront u.simCode u.msgFloatId ⟨u.originalInfo, 0⟩
    with hfront
  have hnil := CursorWriter.holds_nil front
  have hwr : front.wr = blockStart := putFront_wr _ _ _
  rw [hwr] at hnil
  have hbehind : (front.puts [0x55, 0x7A]).Untouched u.originalInfo :=
    (putFront_untouched u.simCode u.msgFloatId ⟨u.originalInfo, 0⟩).puts _
  have hnum : u.app.speedsNum = 7 := Nat.min_eq_right hmany
  set w := (u.app.putSpeeds len u.speedsStyle u.reg.toList
    (front.puts [0x55, 0x7A])).2 with hw
  have hblock : w.Holds blockStart
      (blockContent u.app.media.recodeCmd 455 u.speedRecords) := by
    have hspeedsBlock := putSpeeds_holdsBlock (s := u.app)
      (hnil.puts [0x55, 0x7A]) hbehind len u.speedsStyle u.reg.toList
    rw [hnum] at hspeedsBlock
    exact hspeedsBlock
  have hsettled : w.Settled front.wr front.buf := by
    have hstart : front.Settled front.wr front.buf := ⟨le_rfl, fun _ _ => rfl⟩
    exact putSpeeds_settled (s := u.app) (hstart.puts _) len u.speedsStyle
      u.reg.toList
  have hxor : w.writtenFrom front.wr =
      blockContent u.app.media.recodeCmd 455 u.speedRecords := by
    rw [hwr]
    exact hblock.writtenFrom_eq
  have hput := hblock.put (xorSum (w.writtenFrom front.wr))
  rw [← hwr] at hput
  have hall := (putFront_holds u.simCode u.msgFloatId
    ⟨u.originalInfo, 0⟩).append (hsettled.put _) hput
  rw [recorderInfo, stuffRecoderAck0700H, ← hfront, hspeeds]
  dsimp only
  rw [Option.map_some, ← hw, hall.writtenFrom_eq, hxor, ← dataBlock_eq,
    frontBytes, infoOf, recorderFields]
  simp only [List.append_assoc]
  rfl

/-- Seven records of speeds fit if at most 420 bytes of the message are
escaped. -/
theorem recorderFits_iff :
    u.RecorderFits ↔
      (u.SevenSpeeds → crowding .normal 0x0700 u.recorderFields ≤ 420) := by
  rw [RecorderFits, and_iff_right fun name readLen style src len step n d w h =>
    u.putRecords_reg h style src len step n d w]
  by_cases hseven : u.SevenSpeeds
  · have hescapes := escapes_infoOf
      (by decide : specials (beBytes2 0x0700) = 0) .normal u.recorderFields
    simp only [u.recorderInfo_of_sevenSpeeds hseven, Option.mem_some_iff,
      forall_eq', hseven, true_imp_iff]
    rw [fitsBuffers_iff, length_recorderInfo, hescapes, originalInfoSize,
      gprsInfoSize]
    omega
  · refine iff_of_true (fun info hinfo => ?_) fun h => absurd h hseven
    exact fitsBuffers_of_short _ (u.length_recorderInfo_le hinfo hseven)

/-! ## The message `0x0801` -/

/-- `Media_Type` in a message. -/
def mediaTypeByte : MediaType → UInt8
  | .picture => 0
  | .sound => 1

/-- `Reg_ID`. -/
def regId (upload : UploadState) : ℕ :=
  match upload.mediaType with
  | .picture =>
      0xF000 + upload.core.cameraNumber * 0x0100 + upload.sd.sdPacketNum
  | .sound => 0xE000 + upload.sd.sdPacketNum

/-- What stands in front of the first packet of a medium. -/
def mediaHead (upload : UploadState) : List UInt8 :=
  let channel : ℕ := match upload.mediaType with
    | .picture => upload.core.cameraNumber
    | .sound => 1
  beBytes4 1 ++ [mediaTypeByte upload.mediaType, u.mediaCodeType, u.eventCode,
      UInt8.ofNat channel] ++
    u.place.warnStatus.toList ++ u.place.carStatus.toList ++
    u.place.latitude.toList ++ u.place.longitude.toList ++
    -- the high byte of the altitude is shifted the wrong way
    [UInt8.ofNat (u.place.gpsHight * 256), UInt8.ofNat u.place.gpsHight] ++
    beBytes2 u.place.speedGps ++ beBytes2 u.place.gpsDirection ++
    u.place.date.toList.map bcd ++ u.place.time.toList.map bcd

/-- What the message of a packet consists of behind its length. -/
def mediaFields (upload : UploadState) : List UInt8 :=
  readBytes u.simCode 0 6 ++ beBytes2 (regId upload) ++
    beBytes2 upload.core.media.totalPacketNum ++
    beBytes2 upload.core.media.currentPacketNum ++
    (if upload.core.media.currentPacketNum = 1 then u.mediaHead upload else []) ++
    upload.content

/-- A packet of a medium in its message. -/
def dataInfo (upload : UploadState) : List UInt8 :=
  infoOf 0x0801 (u.mediaFields upload)

/-- The upload whose packet is sent, unless `Stuff_MultiMedia_Data_0801H` returns
`false`. -/
def packetDue : Option UploadState :=
  let upload := u.upload.protocolHead
  if upload.sd.photoSending = .enable ∧ upload.sd.sdFlag then
    let upload := upload.setSd { upload.sd with sdFlag := false }
    if MediaState.inadd upload.sd.sdPacketNum < upload.fileSize ∧
        upload.core.media.currentPacketNum ≤
          upload.core.media.totalPacketNum then
      some upload
    else none
  else none

/-- `Stuff_MultiMedia_Data_0801H` up to `Protocol_End`. -/
def mediaInfo : Option (List UInt8) := u.packetDue.map u.dataInfo

/-- What is sent is the content of a message. -/
theorem packetDue_cases :
    (u.packetDue = none ∧
      u.upload.stuffMultiMediaData0801H.sent = u.upload.sent) ∨
    ∃ upload packet, u.packetDue = some upload ∧
      packet.payload = upload.content ∧
      u.upload.stuffMultiMediaData0801H.sent = u.upload.sent ++ [packet] := by
  have hnext (v : UploadState) : v.nextPacket.sent = v.sent := by
    rw [UploadState.nextPacket]
    dsimp only
    split_ifs <;> split <;> rfl
  have hsent (v : UploadState) (sd : PhotoSdState) :
      (v.setSd sd).sent = v.sent := by
    rw [UploadState.setSd]
    split <;> rfl
  have hhead : u.upload.protocolHead.sent = u.upload.sent := rfl
  rw [packetDue, UploadState.stuffMultiMediaData0801H]
  dsimp only
  generalize u.upload.protocolHead = upload at hhead
  by_cases hready : upload.sd.photoSending = .enable ∧ upload.sd.sdFlag
  · rw [if_pos hready, if_pos hready, UploadState.sendContent]
    have hclear := hsent upload { upload.sd with sdFlag := false }
    generalize upload.setSd { upload.sd with sdFlag := false } = upload at hclear
    by_cases hreach : MediaState.inadd upload.sd.sdPacketNum < upload.fileSize ∧
      upload.core.media.currentPacketNum ≤ upload.core.media.totalPacketNum
    · rw [if_pos hreach, if_pos hreach]
      right
      refine ⟨upload, {
        num := upload.core.media.currentPacketNum
        total := upload.core.media.totalPacketNum
        payload := upload.content }, rfl, by dsimp only, ?_⟩
      rw [hnext, UploadState.sendPacket, hclear, hhead]
    · rw [if_neg hreach, if_neg hreach]
      exact .inl ⟨rfl, hclear.trans hhead⟩
  · rw [if_neg hready, if_neg hready]
    exact .inl ⟨rfl, hhead⟩

/-- The message stays within its buffers. -/
def MediaFits : Prop := ∀ info ∈ u.mediaInfo, FitsBuffers .divide info

theorem length_dataInfo (upload : UploadState) :
    (u.dataInfo upload).length =
      16 + (if upload.core.media.currentPacketNum = 1 then 36 else 0) +
        upload.content.length := by
  have hhead : (u.mediaHead upload).length = 36 := by
    simp [mediaHead]
  rw [dataInfo, infoOf, mediaFields]
  split <;>
  · simp only [List.length_append, readBytes_length, beBytes2_length,
      List.length_cons, List.length_nil, hhead]
    omega

/-- A message with a packet fits if its bytes and the escaped ones are less than
898. -/
theorem mediaFits_iff :
    u.MediaFits ↔
      ∀ upload ∈ u.packetDue,
        (if upload.core.media.currentPacketNum = 1 then 36 else 0) +
            upload.content.length +
            crowding .divide 0x0801 (u.mediaFields upload) < 882 := by
  rw [MediaFits, mediaInfo]
  simp only [Option.mem_map, forall_exists_index, and_imp,
    forall_apply_eq_imp_iff₂]
  refine forall₂_congr fun upload _ => ?_
  have hcontent : upload.content.length ≤ 512 := by
    rw [UploadState.content, List.length_take]
    omega
  have hescapes := escapes_infoOf (by decide : specials (beBytes2 0x0801) = 0)
    .divide (u.mediaFields upload)
  rw [fitsBuffers_iff, u.length_dataInfo upload, dataInfo, hescapes,
    originalInfoSize, gprsInfoSize]
  split <;> omega

/-! ## All messages -/

/-- The messages stay within their buffers. -/
def BuffersKept : Prop := u.SettingFits ∧ u.RecorderFits ∧ u.MediaFits

/-- No string is long, and of the bytes the messages consist of few are
escaped. -/
structure Roomy : Prop where
  domain : u.domainName.length ≤ regStrSize
  strings : u.stringLength < 748
  setting : u.stringLength + crowding .normal 0x0104 u.settingFields < 796
  recorder : u.SevenSpeeds → crowding .normal 0x0700 u.recorderFields ≤ 420
  media : ∀ upload ∈ u.packetDue,
    (if upload.core.media.currentPacketNum = 1 then 36 else 0) +
        upload.content.length +
        crowding .divide 0x0801 (u.mediaFields upload) < 882

/-- The messages stay within their buffers exactly if few bytes are escaped and no
string is long. -/
theorem buffersKept_iff : u.BuffersKept ↔ u.Roomy := by
  rw [BuffersKept, settingFits_iff, recorderFits_iff, mediaFits_iff]
  constructor
  · rintro ⟨⟨hdomain, hstrings, hsetting⟩, hrecorder, hmedia⟩
    exact ⟨hdomain, hstrings, hsetting, hrecorder, hmedia⟩
  · rintro ⟨hdomain, hstrings, hsetting, hrecorder, hmedia⟩
    exact ⟨⟨hdomain, hstrings, hsetting⟩, hrecorder, hmedia⟩

/-- A state with a name of 40 characters. -/
def longName : UplinkState where
  app := { mem := fun d i => if d = .domainNameStr ∧ i < 40 then 0x61 else 0 }
  simCode _ := 0
  msgFloatId := 0
  centreFloatId := 0
  deviceNumberId := Vector.replicate 12 0
  originalInfo _ := 0
  regStr _ := 0
  reg := Vector.replicate 70 0
  upload := { dev := .initial }
  place := {
    warnStatus := Vector.replicate 4 0
    carStatus := Vector.replicate 4 0
    latitude := Vector.replicate 4 0
    longitude := Vector.replicate 4 0
    gpsHight := 0
    speedGps := 0
    gpsDirection := 0
    date := Vector.replicate 3 0
    time := Vector.replicate 3 0 }
  mediaCodeType := 0
  eventCode := 0

/-- A name of 40 characters is copied to the 30 bytes of `reg_str`. -/
theorem longName_not_buffersKept : ¬ longName.BuffersKept := by
  rintro ⟨⟨hdomain, -⟩, -⟩
  obtain ⟨i, hi, hzero⟩ := (length_stringFrom_le_iff (by decide)).mp hdomain
  have hchar : longName.app.mem .domainNameStr i = 0x61 :=
    if_pos ⟨rfl, Nat.lt_of_le_of_lt hi (by decide)⟩
  rw [hchar] at hzero
  exact absurd hzero (by decide)

end UplinkState

end VehicleRecorder.Protocol
