import VehicleRecorder.Lib.CursorWriter
import VehicleRecorder.Dataflash.Directory
import VehicleRecorder.Protocol.AppState

/-!
# The reply of the recorder

`Stuff_RecoderACK_0700H` answers the messages `0x8700` and `0x8701` with a data
block of the recorder: `0x55 0x7A`, the command, a length, a reserved byte, the
data and the XOR of all.

The module says for which commands and how many stored records the block can be
parsed and holds nothing but what the recorder stores.
-/

namespace VehicleRecorder.Protocol

open Bytes Dataflash

namespace AppState

variable (s : AppState)

/-! ## Stuffing the block -/

/-- `Protocol_Head` of an undivided message. -/
def protocolHead (msgId : ℕ) (simCode : ℕ → UInt8) (msgFloatId : ℕ)
    (w : CursorWriter) : CursorWriter :=
  let w := { w with wr := 0 }
  let w := w.puts [UInt8.ofNat (msgId / 256), UInt8.ofNat msgId, 0, 28]
  let w := (w.copy (readBytes simCode 0 6)).advance 6
  w.puts [UInt8.ofNat (msgFloatId / 256), UInt8.ofNat msgFloatId]

/-- The command, the length and the reserved byte of a block. -/
def putHead (len : ℕ) (w : CursorWriter) : CursorWriter :=
  w.puts [s.media.recodeCmd, UInt8.ofNat (len / 256), UInt8.ofNat len, 0]

/-- The length of a block written anew, at the two bytes before the last. -/
def patchLen (len : ℕ) (w : CursorWriter) : CursorWriter :=
  (w.patch 3 (UInt8.ofNat (len / 256))).patch 2 (UInt8.ofNat len)

/-- A distance in units of 0.1 km, as six decimal digits. -/
def distanceBytes (regdis : ℕ) : List UInt8 :=
  [UInt8.ofNat (regdis / 100000 * 16 + regdis % 100000 / 10000),
    UInt8.ofNat (regdis % 10000 / 1000 * 16 + regdis % 1000 / 100),
    UInt8.ofNat (regdis % 100 / 10 * 16 + regdis % 10)]

/-- A distance and the time to the minute. -/
def putDistanceTime (distance : ℕ) (w : CursorWriter) : CursorWriter :=
  let w := w.puts (distanceBytes (distance / 100))
  (w.copy (readBytes s.timeNow 0 6)).advance 5

/-- `Reg` behind a read into it. -/
def readReg (reg : List UInt8) : Option (List UInt8) → List UInt8
  | none => reg
  | some content => content ++ reg.drop content.length

/-- The loop over the stored records: `Reg` is read, `len` bytes of it from
offset `src` on are copied and the cursor is moved by `step`. -/
def putRecords (name : DirectoryName) (readLen style src len step n : ℕ)
    (d : Device) (reg : List UInt8) (w : CursorWriter) :
    Device × List UInt8 × CursorWriter :=
  (List.range n).foldl (fun (d, reg, w) i =>
    let (d, content) := apiDFdirectoryRead d name readLen style i
    let reg := readReg reg content
    (d, reg, (w.copy ((reg.drop src).take len)).advance step)) (d, reg, w)

/-- `A_Up_N2daysSpd` and `A_Up_AvrgMin`. -/
def putSpeeds (len style : ℕ) (reg : List UInt8) (w : CursorWriter) :
    Device × CursorWriter :=
  let w := s.putHead len w
  let queryRecNum := min (apiDFdirectoryQuery s.device .spdpermin % 256) 7
  let w := patchLen (queryRecNum * 65) w
  let (d, _, w) := putRecords .spdpermin 70 style 5 60 65 queryRecNum s.device
    reg w
  (d, w)

/-- `A_Up_Tired`.  The length is written anew behind the licence number, where
the cursor has left it. -/
def putTired (reg : List UInt8) (w : CursorWriter) : Device × CursorWriter :=
  let w := s.putHead 90 w
  let w := (w.copy (readBytes (s.mem .driverCardId) 0 18)).advance 18
  let queryRecNum := min (apiDFdirectoryQuery s.device .tiredWarn % 256) 6
  let w := patchLen (queryRecNum * 12 + 18) w
  let (d, _, w) := putRecords .tiredWarn 31 0 18 12 12 queryRecNum s.device
    reg w
  (d, w)

/-- `A_Up_Doubt`. -/
def putDoubt (w : CursorWriter) : Device × CursorWriter :=
  let w := s.putHead 206 w
  match apiDFdirectoryRead s.device .doubtData 207 0 0 with
  | (d, some content) => (d, (w.copy content).advance 206)
  | (d, none) => (d, patchLen 0 w)

/-- The block of a command behind `0x55 0x7A`, without the XOR; `reg` is what
lies in the array `Reg`. -/
def putCommand (reg : List UInt8) (w : CursorWriter) :
    Option (Device × CursorWriter) :=
  match s.media.recodeCmd with
  | 0x01 =>
      let w := s.putHead 21 w
      let w := (w.copy (readBytes (s.mem .driveCode) 0 3)).advance 3
      let w := (w.copy (readBytes (s.mem .driverCardId) 0 18)).advance 18
      some (s.device, w)
  | 0x02 =>
      let w := s.putHead 6 w
      some (s.device, (w.copy (readBytes s.timeNow 0 6)).advance 6)
  | 0x03 => some (s.device, s.putDistanceTime s.device.distanceM (s.putHead 8 w))
  | 0x04 =>
      let v := s.conf.vechCharacterValue
      some (s.device, (s.putHead 3 w).puts
        [UInt8.ofNat (v / 65536), UInt8.ofNat (v / 256), UInt8.ofNat v])
  | 0x05 => some (s.putSpeeds 435 1 reg w)
  | 0x06 =>
      let w := s.putHead 41 w
      let w := (w.copy (readBytes (s.mem .vechVin) 0 17)).advance 17
      let w := (w.copy (readBytes (s.mem .vechNum) 0 12)).advance 12
      let w := (w.copy (readBytes (s.mem .vechType) 0 12)).advance 12
      some (s.device, w)
  | 0x07 => some (s.putDoubt w)
  | 0x08 =>
      let distance := (s.device.distanceM + 4294967296 -
        s.device.dayStartDistance) % 4294967296
      some (s.device, s.putDistanceTime distance (s.putHead 8 w))
  | 0x09 => some (s.putSpeeds 455 0 reg w)
  | 0x11 => some (s.putTired reg w)
  | 0x81 => some (s.device, s.putHead 0 w)
  | 0x82 => some (s.device, s.putHead 0 w)
  | 0xC2 => some (s.device, s.putHead 0 w)
  | 0xC3 => some (s.device, s.putHead 0 w)
  | _ => none

/-- The message in front of the block. -/
def putFront (simCode : ℕ → UInt8) (msgFloatId : ℕ) (w : CursorWriter) :
    CursorWriter :=
  (protocolHead 0x0700 simCode msgFloatId w).puts
    [UInt8.ofNat (s.media.recodeFloatId / 256),
      UInt8.ofNat s.media.recodeFloatId, s.media.recodeCmd]

/-- `Stuff_RecoderACK_0700H` up to `Protocol_End`: the device and the message
stuffed, unless it returns `false`. -/
def stuffRecoderAck0700H (simCode : ℕ → UInt8) (msgFloatId : ℕ)
    (reg : List UInt8) (w : CursorWriter) : Option (Device × CursorWriter) :=
  let w := s.putFront simCode msgFloatId w
  let swr := w.wr
  match s.putCommand reg (w.puts [0x55, 0x7A]) with
  | none => none
  | some (d, w) => some (d, w.put (xorSum (w.writtenFrom swr)))

/-- The commands that are answered. -/
def recorderCommands : List UInt8 :=
  [0x01, 0x02, 0x03, 0x04, 0x05, 0x06, 0x07, 0x08, 0x09, 0x11, 0x81, 0x82, 0xC2,
    0xC3]

/-- The message is stuffed exactly for these commands. -/
theorem isSome_stuffRecoderAck0700H (simCode : ℕ → UInt8) (msgFloatId : ℕ)
    (reg : List UInt8) (w : CursorWriter) :
    (s.stuffRecoderAck0700H simCode msgFloatId reg w).isSome ↔
      s.media.recodeCmd ∈ recorderCommands := by
  have hcommand (w : CursorWriter) : (s.putCommand reg w).isSome ↔
      s.media.recodeCmd ∈ recorderCommands := by
    rw [putCommand]
    split
    case h_15 => simp_all [recorderCommands]
    all_goals simp_all [recorderCommands]
  rw [stuffRecoderAck0700H, ← hcommand ((s.putFront simCode msgFloatId w).puts
    [0x55, 0x7A])]
  cases s.putCommand reg ((s.putFront simCode msgFloatId w).puts
    [0x55, 0x7A]) <;> rfl

/-! ## Blocks -/

/-- The position of the block: twelve bytes of header, the float number and the
command lie in front of it. -/
abbrev blockStart : ℕ := 15

/-- The data block emitted, from an array `Reg` and a buffer of any content. -/
def replyBlock (simCode : ℕ → UInt8) (msgFloatId : ℕ) (reg : List UInt8)
    (w : CursorWriter) : Option (List UInt8) :=
  (s.stuffRecoderAck0700H simCode msgFloatId reg w).map
    fun r => r.2.writtenFrom blockStart

/-- A block of the given command and data. -/
def dataBlock (cmd : UInt8) (len : ℕ) (data : List UInt8) : List UInt8 :=
  let content :=
    [0x55, 0x7A, cmd, UInt8.ofNat (len / 256), UInt8.ofNat len, 0] ++ data
  content ++ [xorSum content]

/-- The block of every reply is well formed: its length field is the number of
data bytes. -/
def ReplyParseable : Prop :=
  ∀ simCode msgFloatId reg w block,
    s.replyBlock simCode msgFloatId reg w = some block →
      ∃ data, data.length < 65536 ∧
        block = dataBlock s.media.recodeCmd data.length data

/-- What lies in the arrays from before does not show in the block. -/
def ReplyDetermined : Prop :=
  ∀ simCode msgFloatId reg w block simCode' msgFloatId' reg' w' block',
    s.replyBlock simCode msgFloatId reg w = some block →
      s.replyBlock simCode' msgFloatId' reg' w' = some block' → block = block'

variable {s}

section Front

variable (simCode : ℕ → UInt8) (msgFloatId : ℕ) (w : CursorWriter)

/-- The header of an undivided message. -/
def headBytes (msgId : ℕ) (simCode : ℕ → UInt8) (msgFloatId : ℕ) : List UInt8 :=
  [UInt8.ofNat (msgId / 256), UInt8.ofNat msgId, 0, 28] ++
    readBytes simCode 0 6 ++
    [UInt8.ofNat (msgFloatId / 256), UInt8.ofNat msgFloatId]

theorem protocolHead_holds (msgId : ℕ) :
    (protocolHead msgId simCode msgFloatId w).Holds 0
      (headBytes msgId simCode msgFloatId) := by
  have hhead := (CursorWriter.holds_nil { w with wr := 0 }).puts
    [UInt8.ofNat (msgId / 256), UInt8.ofNat msgId, 0, 28]
  have hsim := hhead.copy (readBytes simCode 0 6)
    (readBytes_length simCode 0 6).symm
  exact hsim.puts [UInt8.ofNat (msgFloatId / 256), UInt8.ofNat msgFloatId]

/-- The bytes in front of the block. -/
def frontBytes (s : AppState) (simCode : ℕ → UInt8) (msgFloatId : ℕ) :
    List UInt8 :=
  [0x07, 0x00, 0, 28] ++ readBytes simCode 0 6 ++
    [UInt8.ofNat (msgFloatId / 256), UInt8.ofNat msgFloatId] ++
    [UInt8.ofNat (s.media.recodeFloatId / 256),
      UInt8.ofNat s.media.recodeFloatId, s.media.recodeCmd]

theorem putFront_holds : (s.putFront simCode msgFloatId w).Holds 0
    (s.frontBytes simCode msgFloatId) :=
  (protocolHead_holds simCode msgFloatId w 0x0700).puts
    [UInt8.ofNat (s.media.recodeFloatId / 256),
      UInt8.ofNat s.media.recodeFloatId, s.media.recodeCmd]

theorem putFront_wr : (s.putFront simCode msgFloatId w).wr = blockStart := by
  rw [(putFront_holds simCode msgFloatId w).wr, frontBytes, Nat.zero_add]
  simp only [List.length_append, readBytes_length, List.length_cons,
    List.length_nil]

theorem putFront_untouched :
    (s.putFront simCode msgFloatId w).Untouched w.buf := by
  have h0 : ({ w with wr := 0 } : CursorWriter).Untouched w.buf :=
    fun _ _ => rfl
  exact (((h0.puts _).copy (readBytes simCode 0 6)
    (readBytes_length simCode 0 6).le).puts _).puts _

/-- The block of a command whose bytes are known. -/
theorem replyBlock_eq {reg : List UInt8} {d : Device} {w' : CursorWriter}
    {content : List UInt8}
    (hcmd : s.putCommand reg ((s.putFront simCode msgFloatId w).puts
      [0x55, 0x7A]) = some (d, w'))
    (hw : w'.Holds blockStart content) :
    s.replyBlock simCode msgFloatId reg w =
      some (content ++ [xorSum content]) := by
  have hput := hw.put (xorSum content)
  rw [replyBlock, stuffRecoderAck0700H, hcmd, Option.map_some, putFront_wr,
    hw.writtenFrom_eq, hput.writtenFrom_eq]

end Front

/-- The content of a block without the XOR. -/
def blockContent (cmd : UInt8) (len : ℕ) (data : List UInt8) : List UInt8 :=
  [0x55, 0x7A] ++ ([cmd, UInt8.ofNat (len / 256), UInt8.ofNat len, 0] ++ data)

theorem dataBlock_eq (cmd : UInt8) (len : ℕ) (data : List UInt8) :
    dataBlock cmd len data =
      blockContent cmd len data ++ [xorSum (blockContent cmd len data)] := rfl

/-- A command puts a length and data, whatever lies in the arrays. -/
def Emits (s : AppState) (len : ℕ) (data : List UInt8) : Prop :=
  ∀ reg w, w.Holds blockStart [0x55, 0x7A] →
    ∃ d w', s.putCommand reg w = some (d, w') ∧
      w'.Holds blockStart (blockContent s.media.recodeCmd len data)

theorem Emits.replyBlock {len : ℕ} {data : List UInt8} (h : s.Emits len data)
    (simCode : ℕ → UInt8) (msgFloatId : ℕ) (reg : List UInt8)
    (w : CursorWriter) :
    s.replyBlock simCode msgFloatId reg w =
      some (dataBlock s.media.recodeCmd len data) := by
  have hfront := CursorWriter.holds_nil (s.putFront simCode msgFloatId w)
  rw [putFront_wr] at hfront
  obtain ⟨d, w', hcmd, hw⟩ := h reg _ (hfront.puts [0x55, 0x7A])
  exact replyBlock_eq simCode msgFloatId w hcmd hw

theorem Emits.replyDetermined {len : ℕ} {data : List UInt8}
    (h : s.Emits len data) : s.ReplyDetermined := by
  intro simCode msgFloatId reg w block simCode' msgFloatId' reg' w' block' hb
    hb'
  rw [h.replyBlock] at hb hb'
  exact Option.some.inj (hb.symm.trans hb')

theorem Emits.replyParseable_iff {len : ℕ} {data : List UInt8}
    (h : s.Emits len data) (hlen : len < 256) (hdata : data.length < 256) :
    s.ReplyParseable ↔ data.length = len := by
  constructor
  · intro hparse
    obtain ⟨data', -, heq⟩ :=
      hparse (fun _ => 0) 0 [] ⟨fun _ => 0, 0⟩ _ (h.replyBlock _ _ _ _)
    have hsize := congrArg List.length heq
    have hlow := congrArg (·[4]?) heq
    rw [dataBlock_eq, dataBlock_eq] at hsize
    simp only [blockContent, List.length_append, List.length_cons,
      List.length_nil] at hsize
    have hbyte : UInt8.ofNat len = UInt8.ofNat data'.length :=
      Option.some.inj hlow
    have hval := congrArg UInt8.toNat hbyte
    simp only [UInt8.toNat_ofNat'] at hval
    omega
  · intro heq simCode msgFloatId reg w block hblock
    rw [h.replyBlock] at hblock
    refine ⟨data, Nat.lt_trans hdata (by decide), ?_⟩
    rw [heq]
    exact (Option.some.inj hblock).symm

/-! ## Commands without records -/

/-- The block so far. -/
def HoldsBlock (s : AppState) (len : ℕ) (data : List UInt8)
    (w : CursorWriter) : Prop :=
  w.Holds blockStart (blockContent s.media.recodeCmd len data)

theorem blockContent_append (cmd : UInt8) (len : ℕ) (data ys : List UInt8) :
    blockContent cmd len data ++ ys = blockContent cmd len (data ++ ys) := by
  simp only [blockContent, List.append_assoc]

section HoldsBlock

variable {w : CursorWriter} {len : ℕ} {data : List UInt8}

theorem putHead_holdsBlock (h : w.Holds blockStart [0x55, 0x7A]) (len : ℕ) :
    s.HoldsBlock len [] (s.putHead len w) := h.puts _

theorem HoldsBlock.puts (h : s.HoldsBlock len data w) (bs : List UInt8) :
    s.HoldsBlock len (data ++ bs) (w.puts bs) := by
  rw [HoldsBlock, ← blockContent_append]
  exact CursorWriter.Holds.puts h bs

theorem HoldsBlock.copy (h : s.HoldsBlock len data w) {ys : List UInt8} {n : ℕ}
    (hn : n = ys.length) :
    s.HoldsBlock len (data ++ ys) ((w.copy ys).advance n) := by
  rw [HoldsBlock, ← blockContent_append]
  exact CursorWriter.Holds.copy h ys hn

theorem HoldsBlock.copy_take (h : s.HoldsBlock len data w) {ys : List UInt8}
    {n : ℕ} (hn : n ≤ ys.length) :
    s.HoldsBlock len (data ++ ys.take n) ((w.copy ys).advance n) := by
  rw [HoldsBlock, ← blockContent_append]
  exact CursorWriter.Holds.copy_take h hn

theorem HoldsBlock.copy_stale (h : s.HoldsBlock len data w) (ys : List UInt8)
    (n : ℕ) :
    s.HoldsBlock len
      (data ++ (ys ++ Bytes.readBytes w.buf (w.wr + ys.length) n))
      ((w.copy ys).advance (ys.length + n)) := by
  rw [HoldsBlock, ← blockContent_append]
  exact CursorWriter.Holds.copy_stale h ys n

theorem HoldsBlock.readBytes (h : s.HoldsBlock len data w) (f : ℕ → UInt8)
    (n : ℕ) :
    s.HoldsBlock len (data ++ Bytes.readBytes f 0 n)
      ((w.copy (Bytes.readBytes f 0 n)).advance n) :=
  h.copy (readBytes_length f 0 n).symm

theorem HoldsBlock.putDistanceTime (h : s.HoldsBlock len data w) (distance : ℕ) :
    s.HoldsBlock len (data ++ distanceBytes (distance / 100) ++
      (Bytes.readBytes s.timeNow 0 6).take 5) (s.putDistanceTime distance w) := by
  refine (h.puts _).copy_take ?_
  rw [readBytes_length]
  decide

/-- The length written anew where the cursor stands behind the head. -/
theorem HoldsBlock.patchLen (h : s.HoldsBlock len [] w) (len' : ℕ) :
    s.HoldsBlock len' [] (AppState.patchLen len' w) := by
  have hlen : (blockContent s.media.recodeCmd len []).length = 6 := rfl
  have hhigh := CursorWriter.Holds.patch h (by decide : 1 ≤ 3)
    (by rw [hlen]; decide) (UInt8.ofNat (len' / 256))
  exact hhigh.patch (by decide : 1 ≤ 2) (by rw [List.length_set, hlen]; decide)
    (UInt8.ofNat len')

end HoldsBlock

/-- The commands that put no stored records. -/
def plainCommands : List UInt8 :=
  [0x01, 0x02, 0x03, 0x04, 0x06, 0x08, 0x81, 0x82, 0xC2, 0xC3]

theorem emits_of_holdsBlock {len : ℕ} (data : List UInt8)
    (h : ∀ reg w, w.Holds blockStart [0x55, 0x7A] →
      ∃ d w', s.putCommand reg w = some (d, w') ∧ s.HoldsBlock len data w')
    (hlen : data.length = len) (hlt : len < 256) :
    ∃ data, s.Emits data.length data ∧ data.length < 256 := by
  subst hlen
  exact ⟨data, h, hlt⟩

theorem emits_empty (h : ∀ reg w, s.putCommand reg w =
    some (s.device, s.putHead 0 w)) :
    ∃ data, s.Emits data.length data ∧ data.length < 256 :=
  emits_of_holdsBlock []
    (fun reg w hw => ⟨_, _, h reg w, putHead_holdsBlock hw 0⟩) rfl (by decide)

theorem emits_distance (distance : ℕ) (h : ∀ reg w, s.putCommand reg w =
    some (s.device, s.putDistanceTime distance (s.putHead 8 w))) :
    ∃ data, s.Emits data.length data ∧ data.length < 256 := by
  refine emits_of_holdsBlock ([] ++ distanceBytes (distance / 100) ++
    (readBytes s.timeNow 0 6).take 5) (fun reg w hw => ?_) ?_
    (by decide : 8 < 256)
  · exact ⟨_, _, h reg w, (putHead_holdsBlock hw 8).putDistanceTime distance⟩
  · rw [List.length_append, List.length_take, readBytes_length]
    rfl

/-- The block of a plain command has the length it says. -/
theorem emits_of_plain (hcmd : s.media.recodeCmd ∈ plainCommands) :
    ∃ data, s.Emits data.length data ∧ data.length < 256 := by
  simp only [plainCommands, List.mem_cons, List.not_mem_nil, or_false] at hcmd
  rcases hcmd with h | h | h | h | h | h | h | h | h | h
  · refine emits_of_holdsBlock ([] ++ readBytes (s.mem .driveCode) 0 3 ++
      readBytes (s.mem .driverCardId) 0 18) (fun reg w hw => ?_) ?_
      (by decide : 21 < 256)
    · refine ⟨s.device, _, by rw [putCommand, h]; rfl, ?_⟩
      exact ((putHead_holdsBlock hw 21).readBytes _ 3).readBytes _ 18
    · simp only [List.length_append, readBytes_length, List.length_nil]
  · refine emits_of_holdsBlock ([] ++ readBytes s.timeNow 0 6)
      (fun reg w hw => ?_) ?_ (by decide : 6 < 256)
    · refine ⟨s.device, _, by rw [putCommand, h]; rfl, ?_⟩
      exact (putHead_holdsBlock hw 6).readBytes _ 6
    · simp only [List.length_append, readBytes_length, List.length_nil]
  · refine emits_distance s.device.distanceM fun reg w => ?_
    rw [putCommand, h]
    rfl
  · let v := s.conf.vechCharacterValue
    refine emits_of_holdsBlock ([] ++
      [UInt8.ofNat (v / 65536), UInt8.ofNat (v / 256), UInt8.ofNat v])
      (fun reg w hw => ?_) (by rfl : _ = 3) (by decide)
    refine ⟨s.device, _, by rw [putCommand, h]; rfl, ?_⟩
    exact (putHead_holdsBlock hw 3).puts _
  · refine emits_of_holdsBlock ([] ++ readBytes (s.mem .vechVin) 0 17 ++
      readBytes (s.mem .vechNum) 0 12 ++ readBytes (s.mem .vechType) 0 12)
      (fun reg w hw => ?_) ?_ (by decide : 41 < 256)
    · refine ⟨s.device, _, by rw [putCommand, h]; rfl, ?_⟩
      exact (((putHead_holdsBlock hw 41).readBytes _ 17).readBytes _
        12).readBytes _ 12
    · simp only [List.length_append, readBytes_length, List.length_nil]
  · refine emits_distance ((s.device.distanceM + 4294967296 -
      s.device.dayStartDistance) % 4294967296) fun reg w => ?_
    rw [putCommand, h]
    rfl
  all_goals
    refine emits_empty fun reg w => ?_
    rw [putCommand, h]
    rfl

/-- The block of a suspicious event, or an empty one if there is none. -/
theorem emits_doubt (hcmd : s.media.recodeCmd = 0x07) :
    ∃ data, s.Emits data.length data ∧ data.length < 256 := by
  have hput (reg : List UInt8) (w : CursorWriter) :
      s.putCommand reg w = some (s.putDoubt w) := by
    rw [putCommand, hcmd]
    rfl
  cases hread : apiDFdirectoryRead s.device .doubtData 207 0 0 with
  | mk d content =>
      cases content with
      | none =>
          refine emits_of_holdsBlock [] (fun reg w hw => ?_) rfl
            (by decide)
          have hdoubt : s.putDoubt w = (d, patchLen 0 (s.putHead 206 w)) := by
            simp only [putDoubt, hread]
          exact ⟨_, _, (hput reg w).trans (congrArg some hdoubt),
            (putHead_holdsBlock hw 206).patchLen 0⟩
      | some content =>
          have hlen : content.length = 207 := by
            rw [apiDFdirectoryRead] at hread
            split at hread
            · exact absurd (Prod.mk.inj hread).2 (by simp)
            · rw [← Option.some.inj (Prod.mk.inj hread).2]
              exact readSlot_length _ _ _ _ _ (by decide)
          refine emits_of_holdsBlock ([] ++ content.take 206)
            (fun reg w hw => ?_) ?_ (by decide : 206 < 256)
          · have hdoubt : s.putDoubt w =
                (d, ((s.putHead 206 w).copy content).advance 206) := by
              simp only [putDoubt, hread]
            have hle : 206 ≤ content.length := by
              rw [hlen]
              decide
            exact ⟨_, _, (hput reg w).trans (congrArg some hdoubt),
              (putHead_holdsBlock hw 206).copy_take hle⟩
          · rw [List.nil_append, List.length_take, hlen]
            rfl

/-! ## Stored records -/

section Records

variable {name : DirectoryName} {readLen style src len step : ℕ} {d : Device}

theorem putRecords_succ (n : ℕ) (reg : List UInt8) (w : CursorWriter) :
    putRecords name readLen style src len step (n + 1) d reg w =
      let r := putRecords name readLen style src len step n d reg w
      let read := apiDFdirectoryRead r.1 name readLen style n
      let reg := readReg r.2.1 read.2
      (read.1, reg, (r.2.2.copy ((reg.drop src).take len)).advance step) := by
  rw [putRecords, List.range_succ, List.foldl_append]
  rfl

theorem putRecords_settled {w : CursorWriter} {n : ℕ} {f : ℕ → UInt8}
    (h : w.Settled n f) (name : DirectoryName)
    (readLen style src len step k : ℕ) (d : Device) (reg : List UInt8) :
    (putRecords name readLen style src len step k d reg w).2.2.Settled n f := by
  induction k with
  | zero => exact h
  | succ k ih =>
      rw [putRecords_succ]
      exact ih.copy _ step

/-- A record read in full gives what is copied. -/
theorem readReg_slice {content : List UInt8} (hlen : src + len ≤ content.length)
    (reg : List UInt8) :
    ((readReg reg (some content)).drop src).take len =
      (content.drop src).take len := by
  rw [readReg, List.drop_append_of_le_length (by omega),
    List.take_append_of_le_length (by rw [List.length_drop]; omega)]

/-- The reads of a loop find the records of the device it started from. -/
def Reads (name : DirectoryName) (readLen style n : ℕ) (d : Device)
    (row : ℕ → List UInt8) : Prop :=
  ∀ d', SameRecords d d' → ∀ i < n, ∃ d'', SameRecords d d'' ∧
    apiDFdirectoryRead d' name readLen style i = (d'', some (row i))

/-- The bytes of the block for a record: what is copied of it and what the
cursor is moved past. -/
def recordBytes (row : ℕ → List UInt8) (src len stale : ℕ) (f : ℕ → UInt8)
    (start i : ℕ) : List UInt8 :=
  ((row i).drop src).take len ++
    readBytes f (start + i * (len + stale) + len) stale

variable {row : ℕ → List UInt8} {f : ℕ → UInt8}

theorem recordBytes_length (hrow : ∀ i, src + len ≤ (row i).length)
    (stale : ℕ) (f : ℕ → UInt8) (start i : ℕ) :
    (recordBytes row src len stale f start i).length = len + stale := by
  have hi := hrow i
  rw [recordBytes, List.length_append, readBytes_length, List.length_take,
    List.length_drop, Nat.min_eq_left (by omega)]

/-- The loop puts the records one behind the other, each followed by what lay in
the buffer. -/
theorem putRecords_holdsBlock {n k : ℕ} {data : List UInt8} {w : CursorWriter}
    (hreads : Reads name readLen style n d row)
    (hrow : ∀ i, src + len ≤ (row i).length)
    (hw : s.HoldsBlock k data w) (hf : w.Untouched f) (stale : ℕ)
    (reg : List UInt8) :
    s.HoldsBlock k
      (data ++ (List.range n).flatMap (recordBytes row src len stale f w.wr))
      (putRecords name readLen style src len (len + stale) n d reg w).2.2 := by
  suffices h : SameRecords d
        (putRecords name readLen style src len (len + stale) n d reg w).1 ∧
      s.HoldsBlock k
        (data ++ (List.range n).flatMap (recordBytes row src len stale f w.wr))
        (putRecords name readLen style src len (len + stale) n d reg w).2.2 ∧
      (putRecords name readLen style src len (len + stale) n d reg
        w).2.2.Untouched f ∧
      (putRecords name readLen style src len (len + stale) n d reg w).2.2.wr =
        w.wr + n * (len + stale) from h.2.1
  induction n with
  | zero =>
      rw [List.range_zero, List.flatMap_nil, List.append_nil, Nat.zero_mul]
      exact ⟨.refl d, hw, hf, rfl⟩
  | succ n ih =>
      obtain ⟨hsame, hblock, huntouched, hwr⟩ := ih fun d' hd' i hi =>
        hreads d' hd' i (Nat.lt_succ_of_lt hi)
      rw [putRecords_succ]
      generalize putRecords name readLen style src len (len + stale) n d reg w =
        r at *
      obtain ⟨d'', hsame'', hread⟩ := hreads r.1 hsame n (Nat.lt_succ_self n)
      have hlen : (((row n).drop src).take len).length = len := by
        have hn := hrow n
        rw [List.length_take, List.length_drop]
        omega
      have hcopy := hblock.copy_stale (((row n).drop src).take len) stale
      have hbehind : readBytes r.2.2.buf (r.2.2.wr + len) stale =
          readBytes f (w.wr + n * (len + stale) + len) stale := by
        rw [hwr]
        exact readBytes_congr fun i hlo _ => huntouched i (by omega)
      rw [hlen, hbehind] at hcopy
      have hgrow : r.2.2.wr + (len + stale) =
          w.wr + (n + 1) * (len + stale) := by
        rw [hwr, Nat.add_mul, Nat.one_mul, Nat.add_assoc]
      dsimp only
      rw [hread, readReg_slice (hrow n), List.range_succ, List.flatMap_append,
        List.flatMap_singleton, ← List.append_assoc]
      exact ⟨hsame'', hcopy, huntouched.copy _ (by rw [hlen]; omega), hgrow⟩

end Records

theorem reads_tired {n : ℕ} (hn : n ≤ s.device.tiredDrvWrite) :
    Reads .tiredWarn 31 0 n s.device fun i =>
      readSlot tiredDrvStartOffset 16 32 s.device.chip
        (u16 (s.device.tiredDrvWrite - 1 - i)) 31 := by
  intro d' hd' i hi
  have haddr : readAddr d'.tiredDrvWrite 0 i =
      some (u16 (s.device.tiredDrvWrite - 1 - i)) := by
    rw [hd'.tired, readAddr, if_neg (by decide), if_neg (by omega),
      if_pos (by omega)]
  obtain ⟨d'', hd'', hread⟩ := commonReadContent_tired d'
    (u16 (s.device.tiredDrvWrite - 1 - i)) 31
  refine ⟨d'', hd'.trans hd'', ?_⟩
  rw [apiDFdirectoryRead]
  dsimp only
  rw [haddr]
  dsimp only
  rw [hread, hd'.chip]

/-- The number of records of tired driving in a block. -/
def tiredNum (s : AppState) : ℕ := min (s.device.tiredDrvWrite % 256) 6

theorem blockContent_set (cmd : UInt8) (len : ℕ) (data : List UInt8) (i : ℕ)
    (b : UInt8) :
    (blockContent cmd len data).set (i + 6) b =
      blockContent cmd len (data.set i b) := rfl

/-- The length written anew behind data: it goes over the data. -/
theorem HoldsBlock.patchLen_data {w : CursorWriter} {len : ℕ}
    {data : List UInt8} (h : s.HoldsBlock len data w) (hdata : 3 ≤ data.length)
    (len' : ℕ) :
    s.HoldsBlock len ((data.set (data.length - 3)
        (UInt8.ofNat (len' / 256))).set (data.length - 2) (UInt8.ofNat len'))
      (AppState.patchLen len' w) := by
  have hlen (xs : List UInt8) :
      (blockContent s.media.recodeCmd len xs).length = xs.length + 6 := rfl
  have hhigh : (blockContent s.media.recodeCmd len data).length - 3 =
      data.length - 3 + 6 := by
    rw [hlen]
    omega
  have hlow : ((blockContent s.media.recodeCmd len data).set
      ((blockContent s.media.recodeCmd len data).length - 3)
      (UInt8.ofNat (len' / 256))).length - 2 = data.length - 2 + 6 := by
    rw [List.length_set, hlen]
    omega
  have hpatch := (CursorWriter.Holds.patch h (by decide : 1 ≤ 3)
    (by rw [hlen]; omega) (UInt8.ofNat (len' / 256))).patch
    (by decide : 1 ≤ 2) (by rw [List.length_set, hlen]; omega)
    (UInt8.ofNat len')
  rw [hlow, hhigh, blockContent_set, blockContent_set] at hpatch
  exact hpatch

/-- The licence number, two bytes of it overwritten, and the records. -/
theorem emits_tired (hcmd : s.media.recodeCmd = 0x11) :
    ∃ data, s.Emits 90 data ∧ data.length = 18 + 12 * s.tiredNum := by
  have hput (reg : List UInt8) (w : CursorWriter) :
      s.putCommand reg w = some (s.putTired reg w) := by
    rw [putCommand, hcmd]
    rfl
  have hn : s.tiredNum ≤ s.device.tiredDrvWrite :=
    (Nat.min_le_left _ _).trans (Nat.mod_le _ _)
  let card := readBytes (s.mem .driverCardId) 0 18
  let n := s.tiredNum * 12 + 18
  let row (i : ℕ) := readSlot tiredDrvStartOffset 16 32 s.device.chip
    (u16 (s.device.tiredDrvWrite - 1 - i)) 31
  have hcardLen : card.length = 18 := readBytes_length _ _ _
  have hrow (i : ℕ) : 18 + 12 ≤ (row i).length := by
    rw [readSlot_length _ _ _ _ _ (by decide)]
    decide
  refine ⟨(card.set (card.length - 3) (UInt8.ofNat (n / 256))).set
    (card.length - 2) (UInt8.ofNat n) ++
      (List.range s.tiredNum).flatMap
        (recordBytes row 18 12 0 (fun _ => 0) 0), ?_, ?_⟩
  · intro reg w hw
    have hcard : s.HoldsBlock 90 card
        (((s.putHead 90 w).copy card).advance 18) :=
      (putHead_holdsBlock hw 90).readBytes (s.mem .driverCardId) 18
    have hpatched := hcard.patchLen_data (by rw [hcardLen]; decide) n
    exact ⟨_, _, hput reg w, putRecords_holdsBlock (reads_tired hn) hrow
      hpatched (fun _ _ => rfl) 0 reg⟩
  · rw [List.length_append, List.length_set, List.length_set, hcardLen,
      length_flatMap_range (recordBytes_length hrow 0 _ 0), Nat.mul_comm]

/-! ## Speeds -/

/-- The index of a record of speeds, from the oldest or from the newest. -/
def speedsAddr (d : Device) (style i : ℕ) : ℕ :=
  if style = 1 then u16 i else u16 (d.avrgSpdPerMinWrite - 1 - i)

/-- A record of speeds. -/
def speedsRow (d : Device) (style i : ℕ) : List UInt8 :=
  readSlot averageSpdStartOffset 7 70 d.chip (speedsAddr d style i) 70

theorem speedsRow_length (d : Device) (style i : ℕ) :
    5 + 60 ≤ (speedsRow d style i).length := by
  rw [speedsRow, readSlot_length _ _ _ _ _ (by decide)]
  decide

theorem reads_speeds {n : ℕ} (hn : n ≤ s.device.avrgSpdPerMinWrite)
    (style : ℕ) :
    Reads .spdpermin 70 style n s.device (speedsRow s.device style) := by
  intro d' hd' i hi
  have haddr : readAddr d'.avrgSpdPerMinWrite style i =
      some (speedsAddr s.device style i) := by
    rw [hd'.speeds, readAddr, speedsAddr]
    by_cases hstyle : style = 1
    · rw [if_pos hstyle, if_pos hstyle]
    · rw [if_neg hstyle, if_neg hstyle, if_neg (by omega), if_pos (by omega)]
  refine ⟨_, hd'.trans (readPerMinContent_sameRecords d'
    (speedsAddr s.device style i) 70), ?_⟩
  rw [apiDFdirectoryRead]
  dsimp only
  rw [haddr]
  dsimp only
  rw [speedsRow, ← hd'.chip]
  rfl

/-- The number of records of speeds in a block. -/
def speedsNum (s : AppState) : ℕ := min (s.device.avrgSpdPerMinWrite % 256) 7

/-- A block of speeds: each record of 60 bytes is followed by five bytes of the
buffer. -/
theorem putSpeeds_holdsBlock {w : CursorWriter} {f : ℕ → UInt8}
    (hw : w.Holds blockStart [0x55, 0x7A]) (hf : w.Untouched f)
    (len style : ℕ) (reg : List UInt8) :
    s.HoldsBlock (s.speedsNum * 65)
      ((List.range s.speedsNum).flatMap
        (recordBytes (speedsRow s.device style) 5 60 5 f 21))
      (s.putSpeeds len style reg w).2 := by
  have hn : s.speedsNum ≤ s.device.avrgSpdPerMinWrite :=
    (Nat.min_le_left _ _).trans (Nat.mod_le _ _)
  have hhead : s.HoldsBlock (s.speedsNum * 65) []
      (patchLen (s.speedsNum * 65) (s.putHead len w)) :=
    (putHead_holdsBlock hw len).patchLen _
  have hbehind : (patchLen (s.speedsNum * 65)
      (s.putHead len w)).Untouched f := by
    have hput : (s.putHead len w).Untouched f := hf.puts _
    have hwr : 1 ≤ (s.putHead len w).wr := by
      rw [(putHead_holdsBlock hw len).wr]
      exact Nat.le_add_right_of_le (by decide)
    exact (hput.patch (by decide : 1 ≤ 3) hwr _).patch (by decide : 1 ≤ 2) hwr _
  have hwr : (patchLen (s.speedsNum * 65) (s.putHead len w)).wr = 21 := hhead.wr
  have hblock := putRecords_holdsBlock (reads_speeds hn style)
    (speedsRow_length s.device style) hhead hbehind 5 reg
  rw [hwr, List.nil_append] at hblock
  exact hblock

/-- The block goes behind what has been written. -/
theorem putSpeeds_settled {w : CursorWriter} {n : ℕ} {f : ℕ → UInt8}
    (h : w.Settled n f) (len style : ℕ) (reg : List UInt8) :
    (s.putSpeeds len style reg w).2.Settled n f := by
  have hhead : (patchLen (s.speedsNum * 65) (s.putHead len w)).Settled n f := by
    have hwr : (s.putHead len w).wr = w.wr + 4 := rfl
    have hpassed := h.passed
    have hput : (s.putHead len w).Settled n f := h.puts _
    have hhigh := hput.patch (by omega : n + 3 ≤ _)
      (UInt8.ofNat (s.speedsNum * 65 / 256))
    exact hhigh.patch (Nat.le_trans (by omega) hwr.ge) _
  exact putRecords_settled hhead .spdpermin 70 style 5 60 65 s.speedsNum s.device
    reg

/-- The commands whose block consists of records of speeds. -/
def speedCommands : List UInt8 := [0x05, 0x09]

theorem putCommand_speeds (hcmd : s.media.recodeCmd ∈ speedCommands) :
    ∃ len style, ∀ reg w,
      s.putCommand reg w = some (s.putSpeeds len style reg w) := by
  simp only [speedCommands, List.mem_cons, List.not_mem_nil, or_false] at hcmd
  rcases hcmd with h | h
  · refine ⟨435, 1, fun reg w => ?_⟩
    rw [putCommand, h]
    rfl
  · refine ⟨455, 0, fun reg w => ?_⟩
    rw [putCommand, h]
    rfl

theorem emits_of_no_speeds (hcmd : s.media.recodeCmd ∈ speedCommands)
    (hnum : s.speedsNum = 0) :
    ∃ data, s.Emits data.length data ∧ data.length < 256 := by
  obtain ⟨len, style, hput⟩ := putCommand_speeds hcmd
  refine emits_of_holdsBlock [] (fun reg w hw => ?_) rfl (by decide)
  have hblock := putSpeeds_holdsBlock (s := s) hw (fun _ _ => rfl) len style reg
  rw [hnum] at hblock
  exact ⟨_, _, hput reg w, hblock⟩

/-- The first byte behind the first record of speeds is that of the buffer. -/
theorem not_replyDetermined_of_speeds
    (hcmd : s.media.recodeCmd ∈ speedCommands) (hnum : 0 < s.speedsNum) :
    ¬ s.ReplyDetermined := by
  obtain ⟨len, style, hput⟩ := putCommand_speeds hcmd
  have hblock (b : UInt8) : ∃ block,
      s.replyBlock (fun _ => 0) 0 [] ⟨fun _ => b, 0⟩ = some block ∧
        block[66]? = some b := by
    have hfront := CursorWriter.holds_nil
      (s.putFront (fun _ => 0) 0 ⟨fun _ => b, 0⟩)
    rw [putFront_wr] at hfront
    have hbehind := putFront_untouched (s := s) (fun _ => 0) 0 ⟨fun _ => b, 0⟩
    have hholds := putSpeeds_holdsBlock (s := s) (hfront.puts [0x55, 0x7A])
      (hbehind.puts [0x55, 0x7A]) len style []
    refine ⟨_, replyBlock_eq (fun _ => 0) 0 _ (hput [] _) hholds, ?_⟩
    have hrecord := getElem?_flatMap_range _
      (recordBytes_length (speedsRow_length s.device style) 5 (fun _ => b) 21)
      hnum (by decide : 60 < 60 + 5)
    have hbyte : (recordBytes (speedsRow s.device style) 5 60 5 (fun _ => b) 21
        0)[60]? = some b := by
      have hi := speedsRow_length s.device style 0
      have hlen : (((speedsRow s.device style 0).drop 5).take 60).length =
          60 := by
        rw [List.length_take, List.length_drop]
        omega
      rw [recordBytes, List.getElem?_append_right (by rw [hlen]), hlen]
      rfl
    rw [hbyte] at hrecord
    rw [List.getElem?_append_left, blockContent]
    · exact hrecord
    · rw [blockContent, List.length_append, List.length_append,
        length_flatMap_range (recordBytes_length
          (speedsRow_length s.device style) 5 (fun _ => b) 21)]
      simp only [List.length_cons, List.length_nil]
      omega
  intro hdet
  obtain ⟨block, hb, hbyte⟩ := hblock 0
  obtain ⟨block', hb', hbyte'⟩ := hblock 1
  rw [hdet _ _ _ _ _ _ _ _ _ _ hb hb', hbyte'] at hbyte
  exact absurd hbyte (by decide)

/-! ## The replies -/

/-- The commands that a reply is stuffed for. -/
theorem accepted_cases {reg : List UInt8} {w : CursorWriter}
    (h : s.putCommand reg w ≠ none) :
    s.media.recodeCmd ∈ plainCommands ∨ s.media.recodeCmd = 0x07 ∨
      s.media.recodeCmd ∈ speedCommands ∨ s.media.recodeCmd = 0x11 := by
  rw [putCommand.eq_def] at h
  simp only [plainCommands, speedCommands, List.mem_cons, List.not_mem_nil,
    or_false]
  split at h
  case h_15 => exact absurd rfl h
  all_goals tauto

theorem Emits.both {len : ℕ} {data : List UInt8} (h : s.Emits len data)
    (hlen : len < 256) (hdata : data.length < 256) :
    s.ReplyParseable ∧ s.ReplyDetermined ↔ data.length = len := by
  rw [h.replyParseable_iff hlen hdata]
  exact and_iff_left h.replyDetermined

/-- The speeds are asked for and one record of them is stored. -/
def oneSpeed : AppState where
  device := { Device.initial with avrgSpdPerMinWrite := 1 }
  media := { recodeCmd := 0x05 }

/-- The tired driving is asked for and no record of it is stored. -/
def noTired : AppState where
  media := { recodeCmd := 0x11 }

end AppState

open AppState in
/-- One stored record of speeds leaves five bytes of an earlier message in the
block; a block of tired driving without a record says 90 bytes of data. -/
theorem not_replies_wellFormed :
    ¬ oneSpeed.ReplyDetermined ∧ ¬ noTired.ReplyParseable := by
  constructor
  · exact not_replyDetermined_of_speeds (by decide) (by decide)
  · obtain ⟨data, h, hlen⟩ := emits_tired (rfl : noTired.media.recodeCmd = 0x11)
    have hnum : noTired.tiredNum = 0 := rfl
    rw [hnum] at hlen
    rw [h.replyParseable_iff (by decide) (by rw [hlen]; decide), hlen]
    decide

open AppState in
/-- Every reply is a well-formed block and holds nothing left over exactly if it
is not one of records of speeds, unless there are none, and not one of tired
driving, unless there are six. -/
theorem recorderAck_iff (s : AppState) :
    s.ReplyParseable ∧ s.ReplyDetermined ↔
      (s.media.recodeCmd ∈ speedCommands →
        s.device.avrgSpdPerMinWrite % 256 = 0) ∧
      (s.media.recodeCmd = 0x11 → 6 ≤ s.device.tiredDrvWrite % 256) := by
  have hgood (hdata : ∃ data, s.Emits data.length data ∧ data.length < 256) :
      s.ReplyParseable ∧ s.ReplyDetermined := by
    obtain ⟨data, h, hlt⟩ := hdata
    exact (h.both hlt hlt).mpr rfl
  by_cases htired : s.media.recodeCmd = 0x11
  · have hspeed : s.media.recodeCmd ∉ speedCommands := by
      rw [htired]
      decide
    obtain ⟨data, h, hlen⟩ := emits_tired htired
    have hnum : s.tiredNum ≤ 6 := Nat.min_le_right _ _
    rw [h.both (by decide) (by omega), hlen, tiredNum]
    constructor
    · intro heq
      exact ⟨fun hcmd => absurd hcmd hspeed, fun _ => by omega⟩
    · intro hcond
      have hsix := hcond.2 htired
      omega
  by_cases hspeed : s.media.recodeCmd ∈ speedCommands
  · have hzero : s.speedsNum = 0 ↔ s.device.avrgSpdPerMinWrite % 256 = 0 := by
      rw [speedsNum]
      omega
    constructor
    · intro h
      refine ⟨fun _ => hzero.mp ?_, fun hcmd => absurd hcmd htired⟩
      by_contra hne
      exact not_replyDetermined_of_speeds hspeed (Nat.pos_of_ne_zero hne) h.2
    · intro hcond
      exact hgood (emits_of_no_speeds hspeed (hzero.mpr (hcond.1 hspeed)))
  refine iff_of_true ?_ ⟨fun hcmd => absurd hcmd hspeed,
    fun hcmd => absurd hcmd htired⟩
  by_cases hplain : s.media.recodeCmd ∈ plainCommands
  · exact hgood (emits_of_plain hplain)
  by_cases hdoubt : s.media.recodeCmd = 0x07
  · exact hgood (emits_doubt hdoubt)
  have hnone (simCode msgFloatId reg w) :
      s.replyBlock simCode msgFloatId reg w = none := by
    have hput : s.putCommand reg
        ((s.putFront simCode msgFloatId w).puts [0x55, 0x7A]) = none := by
      by_contra h
      rcases accepted_cases h with h | h | h | h
      · exact hplain h
      · exact hdoubt h
      · exact hspeed h
      · exact htired h
    rw [replyBlock, stuffRecoderAck0700H, hput]
    rfl
  constructor
  · intro simCode msgFloatId reg w block hb
    rw [hnone] at hb
    exact absurd hb (by simp)
  · intro simCode msgFloatId reg w block _ _ _ _ _ hb
    rw [hnone] at hb
    exact absurd hb (by simp)

end VehicleRecorder.Protocol
