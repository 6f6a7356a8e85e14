import VehicleRecorder.Camera.PicStore
import VehicleRecorder.Camera.SegmentedUpload
import VehicleRecorder.Gsm.HexCodec
import VehicleRecorder.Protocol.SettingReport

/-!
# The voice file

The modem records a file and hands it out in replies of 256 bytes.
`VOC_REC_dataGet` collects two of them in `VocREC.HEX` and writes a page when the
second half is there or the file is at its end.  The header is written last, to
the page in front of the others, and the sound is offered to the centre.
-/

namespace VehicleRecorder.Gsm

open Bytes Dataflash NorFlash Protocol Camera

/-! ## Numbers in replies -/

/-- What is no digit ends the number. -/
theorem scanU_decimal {n : ℕ} (hn : n < 4294967296) {c : UInt8}
    (hc : isDigit c = false) (rest : List UInt8) :
    scanU (decimal n ++ c :: rest) = some (n, c :: rest) := by
  obtain ⟨d, ds, hds⟩ := List.exists_cons_of_ne_nil (decimal_ne_nil n)
  have hd : isDigit d = true :=
    isDigit_of_mem_decimal (hds ▸ List.mem_cons_self)
  have hplain (d : UInt8) : isDigit d = true →
      isSpace d = false ∧ d ≠ 0x2d ∧ d ≠ 0x2b :=
    forall_byte (P := fun d => isDigit d = true →
      isSpace d = false ∧ d ≠ 0x2d ∧ d ≠ 0x2b) (by decide +kernel) d
  obtain ⟨hspace, hminus, hplus⟩ := hplain d hd
  have hdrop : (decimal n ++ c :: rest).dropWhile isSpace =
      decimal n ++ c :: rest := by
    rw [hds, List.cons_append, List.dropWhile_cons_of_neg (by simp [hspace])]
  have hhead (x : UInt8) (hx : d ≠ x) :
      ¬ (decimal n ++ c :: rest).head? = some x := by
    rw [hds, List.cons_append, List.head?_cons, Option.some.injEq]
    exact hx
  have hall : ∀ x ∈ decimal n, isDigit x = true := fun _ hx =>
    isDigit_of_mem_decimal hx
  rw [scanU, hdrop]
  dsimp only
  rw [if_neg (not_or.mpr ⟨hhead _ hminus, hhead _ hplus⟩),
    List.takeWhile_append_of_pos hall, List.dropWhile_append_of_pos hall,
    List.takeWhile_cons_of_neg (by simp [hc]),
    List.dropWhile_cons_of_neg (by simp [hc]), List.append_nil,
    if_neg (decimal_ne_nil n), decValue_decimal, Nat.min_eq_left (by omega),
    if_neg (hhead _ hminus)]

/-! ## The functions -/

/-- `VOICEREC_RECORDING`. -/
abbrev voicerecRecording : UInt8 := 1

/-- `VOICEREC_DataRXing`. -/
abbrev voicerecDataRXing : UInt8 := 2

/-- `VOICEREC_DEL`. -/
abbrev voicerecDel : UInt8 := 3

/-- The variables of the application, with what more `VocREC` holds and the
upload that the file is handed to. -/
structure VoiceStore where
  app : AppState
  fileName : List UInt8 := []
  filesize : ℕ := 0
  fileRead : ℕ := 0
  /-- `VocREC.HEX`. -/
  hex : ℕ → UInt8 := fun _ => 0
  /-- `DF_LOCK`. -/
  dfLock : Bool := false
  upload : UploadState

/-- The loop that looks for the quotation mark among `n` characters, with `i` and
`commer`. -/
def findQuote : ℕ → ℕ → ℕ → List UInt8 → ℕ × ℕ
  | 0, i, commer, _ => (i, commer)
  | _ + 1, i, commer, [] => (i, commer)
  | n + 1, i, commer, c :: cs =>
      let commer := if c = 0x3a then i else commer
      if c = 0x22 then (i, commer) else findQuote n (i + 1) commer cs

/-- `Rxlen`; `len` has 16 bits. -/
def rxLen (instr : List UInt8) : ℕ :=
  let commer := (findQuote 20 0 0 instr).2
  ((scanU (instr.drop (commer + 1))).map Prod.fst).getD 0 % 65536

/-- The characters that are converted. -/
def rxText (instr : List UInt8) : List UInt8 :=
  let i := (findQuote 20 0 0 instr).1
  (instr.drop (i + 1)).take (rxLen instr * 2 % 65536)

namespace VoiceStore

variable (s : VoiceStore)

/-- `VOC_REC_Start`. -/
def vocRecStart (rx : ℕ → UInt8) : VoiceStore :=
  { s with app := s.app.vocRecStart rx }

/-- `VOC_REC_getinfolen`. -/
def vocRecGetinfolen (instr : List UInt8) : VoiceStore :=
  if s.app.media.vocRec.sate = voicerecRecording then
    let i := ((instr.take 20).takeWhile (· ≠ 0x2c)).length
    { s with
      app.media.vocRec.sate := voicerecDataRXing
      app.media.vocRec.excuteFlag := 1
      filesize :=
        ((scanU (instr.drop (i + 1))).map Prod.fst).getD s.filesize
      fileRead := 0 }
  else s

/-- The characters are converted to the one half of the page or the other. -/
def takeHalf (text : List UInt8) : VoiceStore :=
  let voc := s.app.media.vocRec
  let start := if voc.halfPage = 0 then 0 else 256
  let r := gsmAsciitoHexConvert text fun k => s.hex (start + k)
  { s with
    app.media.vocRec.halfPage := if voc.halfPage = 0 then 1 else 0
    hex := fun k => if k < start then s.hex k else r.1 (k - start)
    fileRead := (s.fileRead + r.2 % 65536) % 4294967296 }

/-- The page is written. -/
def writePage : VoiceStore :=
  let page := s.app.media.vocRec.currenPageCnt
  { s with
    app.device := s.app.device.issue
      (dfWriteFlashDirect page 0 (readBytes s.hex 0 512))
    app.media.vocRec.currenPageCnt := (page + 1) % 65536 }

theorem writePage_app : ∃ app, s.writePage = { s with app := app } := ⟨_, rfl⟩

theorem writePage_filesize : s.writePage.filesize = s.filesize := by
  obtain ⟨app, happ⟩ := s.writePage_app
  rw [happ]

theorem writePage_fileRead : s.writePage.fileRead = s.fileRead := by
  obtain ⟨app, happ⟩ := s.writePage_app
  rw [happ]

/-- `pic_buf` with the header. -/
def header : List UInt8 :=
  (leBytes 4 s.filesize ++ cString s.fileName ++
    List.replicate 550 0).take 25

/-- The last packet: the header is written and the upload started. -/
def closeFile : VoiceStore :=
  let device := s.app.device.issue
    (dfWriteFlashDirect soundStartOffset 0 s.header)
  { s with
    app.device := device
    app.media.vocRec.currenPageCnt := soundStartOffset
    app.media.vocRec.sate := voicerecDel
    app.media.vocRec.excuteFlag := 1
    fileRead := 0
    dfLock := false
    upload := { s.upload with dev := device }.soundSendStart }

/-- The next reply is asked for. -/
def receiveMore : VoiceStore :=
  { s with
    app.media.vocRec.sate := voicerecDataRXing
    app.media.vocRec.excuteFlag := 1 }

/-- `VOC_REC_dataGet`. -/
def vocRecDataGet (instr : List UInt8) : VoiceStore :=
  if s.app.media.vocRec.sate = voicerecDataRXing then
    let s := s.takeHalf (rxText instr)
    let s :=
      if s.app.media.vocRec.halfPage = 0 ∨ s.filesize ≤ s.fileRead then
        s.writePage
      else s
    if s.filesize ≤ s.fileRead then s.closeFile else s.receiveMore
  else s

end VoiceStore

/-! ## The replies of the modem -/

/-- `%RECSTOP: `, the seconds and the size. -/
def recstop (seconds size : ℕ) : List UInt8 :=
  [0x25, 0x52, 0x45, 0x43, 0x53, 0x54, 0x4f, 0x50, 0x3a, 0x20] ++
    decimal seconds ++ 0x2c :: (decimal size ++ [0x0d, 0x0a])

/-- `%RECFGET: `, the number of bytes and the bytes. -/
def recfget (bytes : List UInt8) : List UInt8 :=
  [0x25, 0x52, 0x45, 0x43, 0x46, 0x47, 0x45, 0x54, 0x3a, 0x20] ++
    decimal bytes.length ++ 0x2c :: 0x22 :: (digits bytes ++ [0x22, 0x0d, 0x0a])

theorem findQuote_append {xs : List UInt8} (hquote : 0x22 ∉ xs)
    (hcolon : 0x3a ∉ xs) (n i commer : ℕ) (ys : List UInt8) :
    findQuote (xs.length + n) i commer (xs ++ ys) =
      findQuote n (i + xs.length) commer ys := by
  induction xs generalizing i with
  | nil => rw [List.length_nil, Nat.zero_add, Nat.add_zero, List.nil_append]
  | cons x xs ih =>
      rw [List.mem_cons, not_or] at hquote hcolon
      have hlen : (x :: xs).length + n = xs.length + n + 1 := by
        rw [List.length_cons]
        omega
      rw [hlen, List.cons_append, findQuote, if_neg (Ne.symm hcolon.1),
        if_neg (Ne.symm hquote.1), ih hquote.2 hcolon.2, List.length_cons,
        Nat.add_right_comm, Nat.add_assoc]

/-- The loop stops at the mark, behind the number. -/
theorem findQuote_recfget {bytes : List UInt8} (hlen : bytes.length < 100000000)
    (rest : List UInt8) :
    findQuote 20 0 0 (recfget bytes ++ rest) =
      (11 + (decimal bytes.length).length, 8) := by
  have hdigits : (decimal bytes.length).length ≤ 8 :=
    length_decimal_le (by decide) hlen
  obtain ⟨n, hn⟩ : ∃ n, 10 = (decimal bytes.length).length + (n + 2) :=
    ⟨8 - (decimal bytes.length).length, by omega⟩
  have hquote : (0x22 : UInt8) ∉
      [0x25, 0x52, 0x45, 0x43, 0x46, 0x47, 0x45, 0x54] := by decide
  have hcolon : (0x3a : UInt8) ∉
      [0x25, 0x52, 0x45, 0x43, 0x46, 0x47, 0x45, 0x54] := by decide
  have hname := findQuote_append hquote hcolon 12 0 0
    (0x3a :: 0x20 :: (decimal bytes.length ++ 0x2c :: 0x22 ::
      (digits bytes ++ [0x22, 0x0d, 0x0a] ++ rest)))
  have hfront : findQuote 20 0 0 (recfget bytes ++ rest) =
      findQuote 10 10 8 (decimal bytes.length ++ 0x2c :: 0x22 ::
        (digits bytes ++ [0x22, 0x0d, 0x0a] ++ rest)) := by
    rw [recfget, List.append_assoc, List.append_assoc]
    refine hname.trans ?_
    rw [findQuote, if_pos rfl, if_neg (by decide), findQuote,
      if_neg (by decide), if_neg (by decide)]
    rfl
  have hloop := findQuote_append
    (notMem_decimal (n := bytes.length) (by decide : isDigit 0x22 = false))
    (notMem_decimal (by decide : isDigit 0x3a = false)) (n + 2) 10 8
    (0x2c :: 0x22 :: (digits bytes ++ [0x22, 0x0d, 0x0a] ++ rest))
  rw [← hn] at hloop
  rw [hfront, hloop]
  change (10 + (decimal bytes.length).length + 1, 8) = _
  rw [Nat.add_right_comm]

theorem rxLen_recfget {bytes : List UInt8} (hlen : bytes.length < 65536)
    (rest : List UInt8) : rxLen (recfget bytes ++ rest) = bytes.length := by
  have hdrop : (recfget bytes ++ rest).drop 9 =
      0x20 :: (decimal bytes.length ++ 0x2c :: 0x22 ::
        (digits bytes ++ [0x22, 0x0d, 0x0a] ++ rest)) := by
    rw [recfget, List.append_assoc, List.append_assoc]
    rfl
  have hspace (xs : List UInt8) : scanU (0x20 :: xs) = scanU xs := rfl
  rw [rxLen, findQuote_recfget (by omega)]
  dsimp only
  rw [hdrop, hspace, scanU_decimal (by omega) (by decide)]
  exact Nat.mod_eq_of_lt hlen

/-- The digits of the reply are converted. -/
theorem rxText_recfget {bytes : List UInt8} (hlen : bytes.length < 32768)
    (rest : List UInt8) : rxText (recfget bytes ++ rest) = digits bytes := by
  have hsplit : recfget bytes ++ rest =
      ([0x25, 0x52, 0x45, 0x43, 0x46, 0x47, 0x45, 0x54, 0x3a, 0x20] ++
        decimal bytes.length ++ [0x2c, 0x22]) ++
          (digits bytes ++ ([0x22, 0x0d, 0x0a] ++ rest)) := by
    simp only [recfget, List.append_assoc, List.cons_append, List.nil_append]
  rw [rxText, findQuote_recfget (by omega), rxLen_recfget (by omega)]
  dsimp only
  rw [hsplit, List.drop_left' ?_, List.take_left' ?_]
  · rw [digits_length]
    omega
  · simp only [List.length_append, List.length_cons, List.length_nil]
    omega

/-! ## The pages -/

/-- The address behind the header. -/
abbrev voiceBase : ℕ := (soundStartOffset + 1) * 512

/-- The pages from `SoundStart_offdet` on are erased. -/
def VoiceErased (f : Flash) : Prop :=
  ∀ x, soundStartOffset * 512 ≤ x → x < (soundStartOffset + 64) * 512 →
    f x = 0xFF

/-- Deleting the voice directory erases these pages. -/
theorem voiceErased_delete (d : Device) :
    VoiceErased (apiDFdirectoryDelete d .voice).1.chip.flash := by
  intro x hlo hhi
  change execAll sectorSize d.chip.flash (sst25vBlockErase32KByte
    (soundStartOffset * 512)) x = 0xFF
  rw [soundStartOffset] at hlo hhi
  rw [sst25vBlockErase32KByte, execAll_erases (by decide), spiAddress,
    soundStartOffset, sectorSize, if_pos]
  omega

/-- The first `m` bytes of a file are stored, as far as it has them, and the
other pages are erased. -/
structure StoredTo (f : Flash) (data : List UInt8) (m : ℕ) : Prop where
  bytes : ∀ i < m, ∀ b, data[i]? = some b → f (voiceBase + i) = b
  erased : ∀ x, soundStartOffset * 512 ≤ x →
    x < (soundStartOffset + 64) * 512 →
      x < voiceBase ∨ voiceBase + m ≤ x → f x = 0xFF

theorem storedTo_zero {f : Flash} (h : VoiceErased f) (data : List UInt8) :
    StoredTo f data 0 := by
  refine ⟨fun i hi => absurd hi (Nat.not_lt_zero i), fun x hlo hhi _ => ?_⟩
  exact h x hlo hhi

/-- A page behind those there are. -/
theorem StoredTo.write {d : Device} {data p : List UInt8} {j : ℕ}
    (h : StoredTo d.chip.flash data (512 * j)) (hj : j < 63)
    (hp : p.length = 512)
    (hdata : ∀ i < 512, ∀ b, data[512 * j + i]? = some b → p[i]? = some b) :
    StoredTo (d.issue (dfWriteFlashDirect (soundStartOffset + 1 + j) 0
      p)).chip.flash data (512 * (j + 1)) := by
  have hbound : soundStartOffset + 1 + j < 8192 := by
    rw [soundStartOffset]
    omega
  have hflash := flash_dfWriteFlashDirect d hbound hp.le
  have hpage : (soundStartOffset + 1 + j) * 512 = voiceBase + 512 * j := by
    rw [voiceBase]
    ring
  constructor
  · intro i hi b hb
    rw [hflash, hpage]
    by_cases hold : i < 512 * j
    · have hout : operand (voiceBase + 512 * j) p (voiceBase + i) = 0xFF :=
        if_neg (by omega)
      rw [hout, and_erased]
      exact h.bytes i hold b hb
    · obtain ⟨i, rfl⟩ := Nat.exists_eq_add_of_le (Nat.not_lt.mp hold)
      have hin : operand (voiceBase + 512 * j) p
          (voiceBase + (512 * j + i)) = b := by
        rw [operand, if_pos (by omega), ← Nat.add_assoc,
          Nat.add_sub_cancel_left, hdata i (by omega) b hb, Option.getD_some]
      rw [hin, h.erased, erased_and]
      · rw [voiceBase, soundStartOffset]
        omega
      · rw [voiceBase, soundStartOffset]
        omega
      · right
        omega
  · intro x hlo hhi hx
    have hout : operand (voiceBase + 512 * j) p x = 0xFF := by
      rcases hx with hx | hx
      · exact if_neg (by omega)
      · rw [operand, List.getElem?_eq_none (by omega)]
        exact ite_self _
    rw [hflash, hpage, hout, and_erased]
    exact h.erased x hlo hhi (by omega)

/-- The header leaves the file as it is. -/
theorem StoredTo.readBytes_header {d : Device} {data p : List UInt8} {m : ℕ}
    (h : StoredTo d.chip.flash data m) (hm : data.length ≤ m)
    (hp : p.length ≤ 512) :
    readBytes (d.issue (dfWriteFlashDirect soundStartOffset 0 p)).chip.flash
      voiceBase data.length = data := by
  refine readBytes_of_getElem? fun i hi => ?_
  have hout : operand (soundStartOffset * 512) p (voiceBase + i) = 0xFF := by
    have hbase : voiceBase = soundStartOffset * 512 + 512 := rfl
    rw [operand, List.getElem?_eq_none (by omega)]
    exact ite_self _
  have hb := List.getElem?_eq_getElem hi
  rw [hb, flash_dfWriteFlashDirect d (by decide) hp, hout, and_erased,
    h.bytes i (by omega) _ hb]

/-- The size in a header that is written to an erased page. -/
theorem StoredTo.storedSize_header {d : Device} {data rest : List UInt8}
    {m n : ℕ} (h : StoredTo d.chip.flash data m) (hn : n < 4294967296)
    (hrest : rest.length ≤ 508) :
    storedSize (d.issue (dfWriteFlashDirect soundStartOffset 0
      (leBytes 4 n ++ rest))).chip soundStartOffset 0 = n := by
  have hlen : (leBytes 4 n ++ rest).length ≤ 512 := by
    rw [List.length_append, leBytes_length]
    omega
  have hread : readBytes (d.issue (dfWriteFlashDirect soundStartOffset 0
      (leBytes 4 n ++ rest))).chip.flash (soundStartOffset * 512)
        (leBytes 4 n).length = leBytes 4 n := by
    refine readBytes_of_getElem? fun i hi => ?_
    have hin : operand (soundStartOffset * 512) (leBytes 4 n ++ rest)
        (soundStartOffset * 512 + i) = (leBytes 4 n)[i] := by
      rw [operand, if_pos (Nat.le_add_right _ _), Nat.add_sub_cancel_left,
        List.getElem?_append_left hi, List.getElem?_eq_getElem hi,
        Option.getD_some]
    have hi' : i < 4 := by rwa [leBytes_length] at hi
    rw [List.getElem?_eq_getElem hi, flash_dfWriteFlashDirect d (by decide) hlen,
      hin, h.erased, erased_and]
    · exact Nat.le_add_right _ _
    · rw [soundStartOffset]
      omega
    · left
      rw [voiceBase, soundStartOffset]
      omega
  rw [leBytes_length] at hread
  rw [storedSize, dfReadFlash_eq _ (by decide) (by decide), Nat.add_zero,
    List.drop_zero, hread, List.take_of_length_le (leBytes_length 4 n).le,
    leValue_leBytes]
  exact Nat.mod_eq_of_lt hn

/-! ## The run -/

/-- The bytes of a reply. -/
def replyBytes (data : List UInt8) (k : ℕ) : List UInt8 :=
  (data.drop (256 * k)).take 256

theorem length_replyBytes (data : List UInt8) (k : ℕ) :
    (replyBytes data k).length = min 256 (data.length - 256 * k) := by
  rw [replyBytes, List.length_take, List.length_drop]

theorem getElem?_replyBytes (data : List UInt8) (k : ℕ) {i : ℕ} (hi : i < 256) :
    (replyBytes data k)[i]? = data[256 * k + i]? := by
  rw [replyBytes, List.getElem?_take_of_lt hi, List.getElem?_drop]

theorem rxText_replyBytes (data : List UInt8) (k : ℕ) (behind : List UInt8) :
    rxText (recfget (replyBytes data k) ++ behind) =
      digits (replyBytes data k) := by
  refine rxText_recfget ?_ behind
  rw [length_replyBytes]
  omega

theorem even_length_digits (bytes : List UInt8) :
    Even (digits bytes).length := by
  rw [digits_length]
  exact even_two_mul _

namespace VoiceStore

/-- The replies of a file, with what lies behind each of them in the buffer. -/
def fetch (s : VoiceStore) (data : List UInt8) (behind : ℕ → List UInt8) :
    VoiceStore :=
  (List.range ((data.length + 255) / 256)).foldl (fun s k =>
    s.vocRecDataGet (recfget (replyBytes data k) ++ behind k)) s

/-- Some replies have come, and not the last. -/
structure Fetching (s : VoiceStore) (data : List UInt8) (k : ℕ) : Prop where
  sate : s.app.media.vocRec.sate = voicerecDataRXing
  filesize : s.filesize = data.length
  fileRead : s.fileRead = 256 * k
  more : 256 * k < data.length
  halfPage : s.app.media.vocRec.halfPage = if k % 2 = 0 then 0 else 1
  page : s.app.media.vocRec.currenPageCnt = soundStartOffset + 1 + k / 2
  /-- The first half of a page, if it waits for the second. -/
  half : ∀ i < 256 * (k % 2), ∀ b,
    data[512 * (k / 2) + i]? = some b → s.hex i = b
  flash : StoredTo s.app.device.chip.flash data (512 * (k / 2))

/-- The file is stored as it is read. -/
structure Filed (s : VoiceStore) (data : List UInt8) : Prop where
  bytes : readBytes s.app.device.chip.flash voiceBase data.length = data
  size : apiDFdirectoryQuery s.app.device .voice = data.length
  total : s.upload.sound.totalPacketNum = (data.length + 511) / 512
  packets : ∀ i, 1 ≤ i → i ≤ (data.length + 511) / 512 →
    ∃ page, (apiDFdirectoryRead s.app.device .voice 512 1 i).2 = some page ∧
      (data.drop (512 * (i - 1))).take 512 <+: page

variable {s : VoiceStore} {data : List UInt8} {k : ℕ}

/-- The half of the page behind a reply. -/
theorem Fetching.takeHalf_hex (h : s.Fetching data k) :
    ∀ i < 256 * (k % 2 + 1), ∀ b, data[512 * (k / 2) + i]? = some b →
      (s.takeHalf (digits (replyBytes data k))).hex i = b := by
  have hstart : (if s.app.media.vocRec.halfPage = 0 then 0 else 256) =
      256 * (k % 2) := by
    rw [h.halfPage]
    rcases Nat.mod_two_eq_zero_or_one k with hk | hk
    · rw [hk, if_pos rfl, if_pos rfl]
    · rw [hk, if_neg (by decide)]
  intro i hi b hb
  rw [takeHalf]
  dsimp only
  rw [hstart]
  split
  · next hold => exact h.half i hold b hb
  · next hnew =>
      have hwritten := (asciitoHexLoop_written _
        (even_length_digits (replyBytes data k)) 0 rfl
        (fun j => s.hex (256 * (k % 2) + j)) 0).2.read
      rw [pairBytes_digits] at hwritten
      have hindex : 512 * (k / 2) + i =
          256 * k + (i - 256 * (k % 2)) := by omega
      have hreply : (replyBytes data k)[i - 256 * (k % 2)]? = some b := by
        rw [getElem?_replyBytes data k (by omega), ← hindex, hb]
      have hcell := congrArg (fun xs => xs[i - 256 * (k % 2)]?) hwritten
      rw [hreply, getElem?_readBytes, Nat.zero_add] at hcell
      split at hcell
      · exact Option.some.inj hcell
      · exact absurd hcell (Option.some_ne_none b).symm

theorem Fetching.takeHalf_fileRead (h : s.Fetching data k)
    (hlen : data.length ≤ 63 * 512) :
    (s.takeHalf (digits (replyBytes data k))).fileRead =
      min (256 * (k + 1)) data.length := by
  have hmore := h.more
  rw [takeHalf]
  dsimp only
  rw [gsmAsciitoHexConvert_length (even_length_digits _), pairBytes_digits, length_replyBytes,
    h.fileRead]
  omega

theorem Fetching.takeHalf_halfPage (h : s.Fetching data k) (text : List UInt8) :
    (s.takeHalf text).app.media.vocRec.halfPage =
      if (k + 1) % 2 = 0 then 0 else 1 := by
  rw [takeHalf]
  dsimp only
  rw [h.halfPage]
  by_cases hk : k % 2 = 0
  · have hnext : ¬ (k + 1) % 2 = 0 := by omega
    rw [if_pos hk, if_pos rfl, if_neg hnext]
  · have hnext : (k + 1) % 2 = 0 := by omega
    rw [if_neg hk, if_neg (by decide), if_pos hnext]

/-- The page with the half of a reply, which is the second or the last. -/
theorem Fetching.writePage_flash (h : s.Fetching data k)
    (hlen : data.length ≤ 63 * 512)
    (hfull : k % 2 = 1 ∨ data.length ≤ 256 * (k + 1)) :
    StoredTo (s.takeHalf (digits (replyBytes data k))).writePage.app.device.chip.flash
      data (512 * (k / 2 + 1)) := by
  have hmore := h.more
  have hpage : (s.takeHalf (digits (replyBytes data
      k))).app.media.vocRec.currenPageCnt = soundStartOffset + 1 + k / 2 :=
    h.page
  rw [writePage, hpage]
  refine h.flash.write (by omega) (readBytes_length _ _ _) fun i hi b hb => ?_
  have hcell : i < 256 * (k % 2 + 1) := by
    rcases hfull with hodd | hlast
    · omega
    · have hlt := (List.getElem?_eq_some_iff.mp hb).1
      omega
  rw [getElem?_readBytes, if_pos hi, Nat.zero_add, h.takeHalf_hex i hcell b hb]

/-- The header and the upload of a file whose pages are written. -/
theorem filed_closeFile {m : ℕ}
    (h : StoredTo s.app.device.chip.flash data m) (hm : data.length ≤ m)
    (hsize : s.filesize = data.length) (hlen : data.length ≤ 63 * 512) :
    s.closeFile.Filed data := by
  have hheader : s.header = leBytes 4 data.length ++
      (cString s.fileName ++ List.replicate 550 0).take 21 := by
    rw [header, hsize, List.append_assoc, List.take_append, leBytes_length,
      List.take_of_length_le (by rw [leBytes_length]; decide)]
  have hrest : ((cString s.fileName ++ List.replicate 550 0).take 21).length ≤
      508 := (List.length_take_le _ _).trans (by decide)
  have hbytes : readBytes s.closeFile.app.device.chip.flash voiceBase
      data.length = data := by
    refine h.readBytes_header hm ?_
    exact (List.length_take_le _ _).trans (by decide)
  have hquery : apiDFdirectoryQuery s.closeFile.app.device .voice =
      data.length := by
    change storedSize (s.app.device.issue (dfWriteFlashDirect soundStartOffset 0
      s.header)).chip soundStartOffset 0 = _
    rw [hheader]
    exact h.storedSize_header (by omega) hrest
  refine ⟨hbytes, hquery, ?_, fun i hi hle => ?_⟩
  · change MediaState.packetTotal (apiDFdirectoryQuery s.closeFile.app.device
      .voice) = _
    rw [hquery, MediaState.packetTotal]
    split <;> omega
  · refine ⟨_, rfl, ?_⟩
    have haddr : (soundStartOffset + i) * 512 + 0 =
        voiceBase + 512 * (i - 1) := by
      rw [voiceBase, soundStartOffset]
      omega
    rw [dfReadFlash_eq _ (by rw [soundStartOffset]; omega) (by decide), haddr,
      List.prefix_iff_getElem?]
    intro j hj
    rw [List.length_take, List.length_drop] at hj
    have hcell := congrArg (fun xs => xs[512 * (i - 1) + j]?) hbytes
    rw [getElem?_readBytes, if_pos (by omega)] at hcell
    rw [getElem?_readBytes, if_pos (by omega), Nat.add_assoc, hcell,
      List.getElem_take, List.getElem_drop]
    exact List.getElem?_eq_getElem _

theorem fetching_receiveMore (hsize : s.filesize = data.length)
    (hread : s.fileRead = 256 * k) (hmore : 256 * k < data.length)
    (hhalf : s.app.media.vocRec.halfPage = if k % 2 = 0 then 0 else 1)
    (hpage : s.app.media.vocRec.currenPageCnt = soundStartOffset + 1 + k / 2)
    (hhex : ∀ i < 256 * (k % 2), ∀ b,
      data[512 * (k / 2) + i]? = some b → s.hex i = b)
    (hflash : StoredTo s.app.device.chip.flash data (512 * (k / 2))) :
    s.receiveMore.Fetching data k :=
  ⟨rfl, hsize, hread, hmore, hhalf, hpage, hhex, hflash⟩

/-- A reply that is not the last. -/
theorem Fetching.next (h : s.Fetching data k) (hlen : data.length ≤ 63 * 512)
    (hmore : 256 * (k + 1) < data.length) (behind : List UInt8) :
    (s.vocRecDataGet (recfget (replyBytes data k) ++ behind)).Fetching data
      (k + 1) := by
  have hread := h.takeHalf_fileRead hlen
  rw [Nat.min_eq_left hmore.le] at hread
  have hhalf := h.takeHalf_halfPage (digits (replyBytes data k))
  have hsize : (s.takeHalf (digits (replyBytes data k))).filesize =
      data.length := h.filesize
  have hnot : ¬ data.length ≤ 256 * (k + 1) := by omega
  rw [vocRecDataGet, if_pos h.sate, rxText_replyBytes]
  dsimp only
  by_cases hk : k % 2 = 0
  · have hodd : ¬ (k + 1) % 2 = 0 := by omega
    have hdiv : (k + 1) / 2 = k / 2 := by omega
    rw [if_neg hodd] at hhalf
    rw [hhalf, hsize, hread, if_neg (not_or.mpr ⟨by decide, hnot⟩), hsize, hread,
      if_neg hnot]
    refine fetching_receiveMore hsize hread hmore ?_ ?_ ?_ ?_
    · rw [if_neg hodd]
      exact hhalf
    · rw [hdiv]
      exact h.page
    · intro i hi b hb
      rw [hdiv] at hb
      exact h.takeHalf_hex i (by omega) b hb
    · rw [hdiv]
      exact h.flash
  · have heven : (k + 1) % 2 = 0 := by omega
    have hdiv : (k + 1) / 2 = k / 2 + 1 := by omega
    rw [if_pos heven] at hhalf
    have hflash := h.writePage_flash hlen (.inl (by omega))
    have hpage : (s.takeHalf (digits (replyBytes data
        k))).app.media.vocRec.currenPageCnt = soundStartOffset + 1 + k / 2 :=
      h.page
    have hnext : (s.takeHalf (digits (replyBytes data
        k))).writePage.app.media.vocRec.currenPageCnt =
          (soundStartOffset + 1 + k / 2 + 1) % 65536 := by
      rw [← hpage]
      rfl
    have hsize' := (writePage_filesize _).trans hsize
    have hread' := (writePage_fileRead _).trans hread
    rw [if_pos (Or.inl hhalf), hsize', hread', if_neg hnot]
    refine fetching_receiveMore hsize' hread' hmore ?_ ?_ ?_ ?_
    · rw [if_pos heven]
      exact hhalf
    · rw [hnext, hdiv, soundStartOffset]
      omega
    · intro i hi
      omega
    · rw [hdiv]
      exact hflash

/-- The last reply. -/
theorem Fetching.last (h : s.Fetching data k) (hlen : data.length ≤ 63 * 512)
    (hlast : data.length ≤ 256 * (k + 1)) (behind : List UInt8) :
    (s.vocRecDataGet (recfget (replyBytes data k) ++ behind)).Filed data := by
  have hmore := h.more
  have hread := h.takeHalf_fileRead hlen
  rw [Nat.min_eq_right hlast] at hread
  have hsize : (s.takeHalf (digits (replyBytes data k))).filesize =
      data.length := h.filesize
  have hflash := h.writePage_flash hlen (.inr hlast)
  have hover : (s.takeHalf (digits (replyBytes data k))).filesize ≤
      (s.takeHalf (digits (replyBytes data k))).fileRead :=
    (hsize.trans hread.symm).le
  have hsize' := (writePage_filesize _).trans hsize
  rw [vocRecDataGet, if_pos h.sate, rxText_replyBytes]
  dsimp only
  rw [if_pos (Or.inr hover), writePage_filesize, writePage_fileRead,
    if_pos hover]
  exact filed_closeFile hflash (by omega) hsize' (by omega)

/-- All the replies behind the first `k`. -/
theorem Fetching.run (hlen : data.length ≤ 63 * 512) (behind : ℕ → List UInt8)
    {n : ℕ} (hn : n + 1 = (data.length + 255) / 256) (h : s.Fetching data 0) :
    ((List.range n).foldl (fun s k =>
      s.vocRecDataGet (recfget (replyBytes data k) ++ behind k)) s).Fetching
        data n := by
  have hmore (k : ℕ) (hk : k ≤ n) : 256 * k < data.length := by omega
  have hrun (k : ℕ) (hk : k ≤ n) :
      ((List.range k).foldl (fun s k =>
        s.vocRecDataGet (recfget (replyBytes data k) ++ behind k)) s).Fetching
          data k := by
    induction k with
    | zero => exact h
    | succ k ih =>
        rw [List.range_succ, List.foldl_append]
        exact (ih (Nat.le_of_succ_le hk)).next hlen (hmore (k + 1) hk) _
  exact hrun n le_rfl

/-- The start and the reply with the size. -/
theorem fetching_start {s : VoiceStore} (rx : ℕ → UInt8)
    (hpower : s.app.link.gsmPowerOver ≠ 0)
    (hidle : s.app.media.vocRec.running = 0)
    (herased : VoiceErased s.app.device.chip.flash) (hpos : 1 ≤ data.length)
    (hlen : data.length ≤ 63 * 512) {seconds : ℕ} (hsec : seconds < 1000000000)
    (behind : List UInt8) :
    ((s.vocRecStart rx).vocRecGetinfolen
      (recstop seconds data.length ++ behind)).Fetching data 0 := by
  have hstart : (s.vocRecStart rx).app = { s.app with media.vocRec := {
      running := 1
      jt808Duration := be16 rx 14
      jt808SaveOrNot := rx 16
      sate := 1
      excuteFlag := 1
      currenPageCnt := 5249
      halfPage := 0 } } := if_pos ⟨hpower, hidle⟩
  have hseconds : (decimal seconds).length ≤ 9 :=
    length_decimal_le (by decide) hsec
  -- the comma is among the characters that are looked at
  have hfront : ∀ c ∈ [0x25, 0x52, 0x45, 0x43, 0x53, 0x54, 0x4f, 0x50, 0x3a,
      0x20] ++ decimal seconds, decide (c ≠ (0x2c : UInt8)) = true := by
    intro c hc
    rw [decide_eq_true_eq]
    rintro rfl
    rcases List.mem_append.mp hc with hc | hc
    · exact absurd hc (by decide)
    · exact notMem_decimal (by decide) hc
  have hcomma : ((recstop seconds data.length ++ behind).take 20).takeWhile
      (· ≠ 0x2c) = [0x25, 0x52, 0x45, 0x43, 0x53, 0x54, 0x4f, 0x50, 0x3a,
        0x20] ++ decimal seconds := by
    obtain ⟨n, hn⟩ : ∃ n, 20 = ([0x25, 0x52, 0x45, 0x43, 0x53, 0x54, 0x4f,
        0x50, 0x3a, 0x20] ++ decimal seconds).length + (n + 1) := by
      refine ⟨9 - (decimal seconds).length, ?_⟩
      rw [List.length_append]
      simp only [List.length_cons, List.length_nil]
      omega
    rw [hn, recstop, List.append_assoc, List.take_length_add_append,
      List.takeWhile_append_of_pos hfront]
    exact List.append_nil _
  have hdrop : (recstop seconds data.length ++ behind).drop
      (([0x25, 0x52, 0x45, 0x43, 0x53, 0x54, 0x4f, 0x50, 0x3a, 0x20] ++
        decimal seconds).length + 1) =
          decimal data.length ++ 0x0d :: 0x0a :: behind := by
    rw [recstop, List.append_assoc, List.drop_length_add_append]
    simp only [List.cons_append, List.append_assoc, List.nil_append,
      List.drop_succ_cons, List.drop_zero]
  have hsate : (s.vocRecStart rx).app.media.vocRec.sate = voicerecRecording := by
    rw [hstart]
  rw [vocRecGetinfolen, if_pos hsate]
  dsimp only
  rw [hcomma, hdrop, scanU_decimal (by omega) (by decide), hstart]
  refine ⟨rfl, rfl, rfl, by omega, rfl, rfl, fun i hi => ?_, ?_⟩
  · exact absurd hi (Nat.not_lt_zero i)
  · exact storedTo_zero herased data

/-- A file that is fetched is stored as it is read. -/
theorem filed_of_fetched {s : VoiceStore} (rx : ℕ → UInt8)
    (hpower : s.app.link.gsmPowerOver ≠ 0)
    (hidle : s.app.media.vocRec.running = 0)
    (herased : VoiceErased s.app.device.chip.flash) (data : List UInt8)
    (hpos : 1 ≤ data.length) (hlen : data.length ≤ 63 * 512) {seconds : ℕ}
    (hsec : seconds < 1000000000) (behindSize : List UInt8)
    (behind : ℕ → List UInt8) :
    (((s.vocRecStart rx).vocRecGetinfolen
      (recstop seconds data.length ++ behindSize)).fetch data behind).Filed
        data := by
  obtain ⟨n, hn⟩ : ∃ n, n + 1 = (data.length + 255) / 256 :=
    ⟨(data.length + 255) / 256 - 1, by omega⟩
  have hstart := fetching_start rx hpower hidle herased hpos hlen hsec
    behindSize
  rw [fetch, ← hn, List.range_succ, List.foldl_append]
  exact (hstart.run hlen behind hn).last hlen (by omega) _

/-- The modem is on and the flash erased. -/
def poweredOn : VoiceStore where
  app := { link.gsmPowerOver := 1 }
  upload := { dev := .initial }

/-- A file of 600 bytes, which come in three replies and fill two pages. -/
def twoPages : List UInt8 := (List.range 600).map UInt8.ofNat

theorem filed_twoPages :
    (((poweredOn.vocRecStart fun _ => 0).vocRecGetinfolen
      (recstop 6 twoPages.length ++ [])).fetch twoPages fun _ => []).Filed
        twoPages := by
  have herased : VoiceErased poweredOn.app.device.chip.flash :=
    fun _ _ _ => rfl
  have hlen : twoPages.length = 600 := by
    rw [twoPages, List.length_map, List.length_range]
  exact filed_of_fetched (fun _ => 0) (by decide) rfl herased twoPages
    (by omega) (by omega) (by decide) [] fun _ => []

end VoiceStore

end VehicleRecorder.Gsm
