import VehicleRecorder.Dataflash.Directory
import VehicleRecorder.Dataflash.RecordNum
import VehicleRecorder.Lib.Runs

/-!
# The picture store

`Pic_Data_Process` stores the packets of a shot from the page behind the first
page of the camera on, and the header with the size into that first page when
the last packet has come.  At the first packet it deletes the directory of the
camera: it erases the 64 KB block that the first page lies in.  For camera 4 it
deletes the directory of camera 3.

Of the four first pages only that of camera 1 is the beginning of a block.  The
module shows which shots of a run leave the pictures of the other cameras alone
and can be read back.
-/

namespace VehicleRecorder.Camera

open NorFlash Bytes Dataflash Runs

/-! ## Storing packets -/

/-- What `Save_MediaIndex` and the file name take from the other parts of the
program. -/
structure Stamp where
  hour : ℕ := 0
  min : ℕ := 0
  sec : ℕ := 0
  msgFloatId : ℕ := 0
  posInfo : List UInt8 := List.replicate 28 0
  deriving DecidableEq, Repr

/-- What `Pic_Data_Process` works on. -/
structure PicState where
  dev : Device
  cameraNumber : ℕ := 1
  stamp : Stamp := {}
  createFlag : Bool := false
  lastPackage : Bool := false
  picSize : ℕ := 0
  pictureName : List UInt8 := List.replicate 40 0

/-- The chain of comparisons for the first page of a camera, which stands in
`Pic_Data_Process` twice. -/
def picFirstPage : ℕ → Option ℕ
  | 1 => some picStartOffset
  | 2 => some picStartOffset2
  | 3 => some picStartOffset3
  | 4 => some picStartOffset4
  | _ => none

/-- The directory of a camera. -/
def cameraName : ℕ → DirectoryName
  | 1 => .camera1
  | 2 => .camera2
  | 3 => .camera3
  | 4 => .camera4
  | _ => .other

/-- The directory that is deleted for a new picture: for camera 4 it is that of
camera 3. -/
def deletedName : ℕ → DirectoryName
  | 1 => .camera1
  | 2 => .camera2
  | 3 => .camera3
  | 4 => .camera3
  | _ => .other

/-- A string in an array of `n` bytes that was zero. -/
def padded (n : ℕ) (s : List UInt8) : List UInt8 :=
  (s ++ List.replicate n 0).take n

/-- `sprintf(PictureName,"%d%d%d-%d.jpg",..)`. -/
def fileName (stamp : Stamp) (cameraNumber : ℕ) : List UInt8 :=
  (toString stamp.hour ++ toString stamp.min ++ toString stamp.sec ++ "-" ++
    toString cameraNumber ++ ".jpg").toList.map fun c => UInt8.ofNat c.toNat

/-- `MediaIndex` as it lies in memory. -/
def mediaIndexBytes (stamp : Stamp) (name : List UInt8) (type id : ℕ)
    (evencode : ℕ) : List UInt8 :=
  [1, 0, 0, 0] ++ leBytes 4 stamp.msgFloatId ++
    [UInt8.ofNat type, UInt8.ofNat id, UInt8.ofNat evencode] ++
    padded 12 name ++ padded 28 stamp.posInfo ++ [0]

/-- `Save_MediaIndex` for a picture: the first record that is not in use, or
record 0. -/
def saveMediaIndex (d : Device) (stamp : Stamp) (name : List UInt8)
    (id evencode : ℕ) : Device :=
  let i := ((List.range 8).find? fun i =>
    (apiRecordNumRead d .picIndex i 52).headD 0 = 0).getD 0
  apiRecordNumWrite d .picIndex i (mediaIndexBytes stamp name 0 id evencode)

/-- The branch of the first packet. -/
def createPicture (s : PicState) : PicState :=
  let d := (dfReadRecordAdd s.dev .photoAdd).1
  let d :=
    match picFirstPage s.cameraNumber with
    | some page =>
        (apiDFdirectoryDelete d (deletedName s.cameraNumber)).1.setCurrentPage
          page
    | none => d
  let d := d.setCurrentPage (d.picCurrentPage + 1)
  let name := padded 40 (fileName s.stamp s.cameraNumber)
  { s with
    dev := saveMediaIndex d s.stamp name s.cameraNumber 0
    createFlag := false
    picSize := 0
    pictureName := name }

/-- `Max_PicNum`. -/
abbrev maxPicNum : ℕ := 400

/-- The header of a picture: the file name, the camera and the size. -/
def header (s : PicState) : List UInt8 :=
  s.pictureName.take 18 ++ [UInt8.ofNat s.cameraNumber] ++ leBytes 4 s.picSize

/-- The picture pointer moved on and recorded. -/
def savePicWrite (d : Device) : Device :=
  let d := { d with picWrite := bump maxPicNum d.picWrite }
  dfWriteRecordAdd d d.picWrite d.picRead .photoAdd

/-- The branch of the last packet, up to the record of the pointer. -/
def closePicture (s : PicState) : PicState :=
  let page := (picFirstPage s.cameraNumber).getD s.dev.picCurrentPage
  let d := (s.dev.issue (dfWriteFlashDirect page 0 (header s))).setCurrentPage
    page
  { s with dev := savePicWrite d }

/-- `_485_content` ends the picture: it is shorter than a page, or ends in
`FF D9` as a picture does. -/
def endsPicture (lastPackage : Bool) (content : List UInt8) : Bool :=
  content.length < pageSize ||
    !lastPackage && content[510]? == some 0xFF && content[511]? == some 0xD9

/-- The first step: whether the packet is the last. -/
def noteLast (s : PicState) (content : List UInt8) : PicState :=
  { s with lastPackage := s.lastPackage || endsPicture s.lastPackage content }

/-- The packet goes to the current page. -/
def writePacket (s : PicState) (content : List UInt8) : PicState :=
  let d := s.dev.issue (dfWriteFlashDirect s.dev.picCurrentPage 0 content)
  { s with
    dev := d.setCurrentPage (d.picCurrentPage + 1)
    picSize := (s.picSize + content.length) % 4294967296 }

/-- `Pic_Data_Process` up to `End_Camera`. -/
def picDataProcess (s : PicState) (content : List UInt8) : PicState :=
  let s := noteLast s content
  let s := if s.createFlag then createPicture s else s
  let s := writePacket s content
  if s.lastPackage then closePicture s else s

/-! ## Shots -/

/-- A shot: the camera and the packets it delivers. -/
structure Shot where
  camera : ℕ
  stamp : Stamp := {}
  packets : List (List UInt8)
  deriving DecidableEq, Repr

/-- The last packet is shorter than a page or ends in `FF D9`, and the others
fill a page and do not. -/
structure Shot.WellFormed (shot : Shot) : Prop where
  camera : 1 ≤ shot.camera ∧ shot.camera ≤ 4
  count : 1 ≤ shot.packets.length ∧ shot.packets.length ≤ 127
  full : ∀ p ∈ shot.packets, p.length ≤ pageSize
  last : ∀ i p, shot.packets[i]? = some p →
    (endsPicture false p = true ↔ i + 1 = shot.packets.length)

/-- A shot that delivers a picture. -/
abbrev CompletedShot := {shot : Shot // shot.WellFormed}

/-- A shot from the command to the camera on: `Send_const485` asks for a new
file. -/
def takeShot (s : PicState) (shot : Shot) : PicState :=
  shot.packets.foldl picDataProcess
    { s with
      cameraNumber := shot.camera
      stamp := shot.stamp
      createFlag := true
      lastPackage := false }

/-- A completed shot. -/
def shotStep (s : PicState) (shot : CompletedShot) : PicState :=
  takeShot s shot.1

/-! ## What a packet does to the flash -/

/-- The sectors that the picture pointer and the picture indices lie in. -/
def Bookkeeping (x : ℕ) : Prop := x / 4096 = 138 ∨ x / 4096 = 185

/-- The first page of the directory that is deleted for a new picture. -/
def deletedPage : ℕ → ℕ
  | 1 => picStartOffset
  | 2 => picStartOffset2
  | _ => picStartOffset3

/-- The flash behind the erase for a new picture of a camera. -/
def blockErased (camera : ℕ) (f : Flash) (x : ℕ) : UInt8 :=
  if x / 65536 = deletedPage camera * 512 / 65536 then 0xFF else f x

/-- What programming the packets of a picture does to a byte. -/
def mask (page : ℕ) (packets : List (List UInt8)) (x : ℕ) : UInt8 :=
  if page + 1 ≤ x / 512 then
    ((packets[x / 512 - (page + 1)]?).bind fun p => p[x % 512]?).getD 0xFF
  else 0xFF

theorem mask_nil (page x : ℕ) : mask page [] x = 0xFF := by
  rw [mask, List.getElem?_nil]
  split_ifs <;> rfl

/-- One more packet, in the page behind the others. -/
theorem mask_concat {page : ℕ} {packets : List (List UInt8)} {p : List UInt8}
    (hp : p.length ≤ pageSize) (x : ℕ) :
    mask page (packets ++ [p]) x =
      mask page packets x &&&
        operand ((page + 1 + packets.length) * 512) p x := by
  have hp : p.length ≤ 512 := hp
  rcases Nat.lt_trichotomy (x / 512) (page + 1 + packets.length) with
    hlt | heq | hgt
  · have hout : operand ((page + 1 + packets.length) * 512) p x = 0xFF :=
      if_neg (by omega)
    rw [hout, and_erased, mask, mask]
    by_cases hin : page + 1 ≤ x / 512
    · rw [if_pos hin, if_pos hin, List.getElem?_append_left (by omega)]
    · rw [if_neg hin, if_neg hin]
  · have hin : page + 1 ≤ x / 512 := by omega
    have hindex : x / 512 - (page + 1) = packets.length := by omega
    have hoff : x - (page + 1 + packets.length) * 512 = x % 512 := by omega
    rw [mask, mask, if_pos hin, if_pos hin, hindex, List.getElem?_concat_length,
      List.getElem?_eq_none (Nat.le_refl _), operand, if_pos (by omega), hoff]
    exact (erased_and _).symm
  · have hin : page + 1 ≤ x / 512 := by omega
    have hout : operand ((page + 1 + packets.length) * 512) p x = 0xFF := by
      rw [operand, List.getElem?_eq_none (by omega)]
      split_ifs <;> rfl
    rw [hout, and_erased, mask, mask, if_pos hin, if_pos hin,
      List.getElem?_eq_none (by rw [List.length_append]; simp; omega),
      List.getElem?_eq_none (by omega)]

theorem flash_dfWriteFlashDirect (d : Device) {page : ℕ} {p : List UInt8}
    (hpage : page < 8192) (hp : p.length ≤ pageSize) (x : ℕ) :
    (d.issue (dfWriteFlashDirect page 0 p)).chip.flash x =
      d.chip.flash x &&& operand (page * 512) p x := by
  have hp : p.length ≤ 512 := hp
  rw [Device.issue_chip, Chip.issue_flash,
    dfWriteFlashDirect_eq hpage (by omega), execAll_programBytes_apply,
    Nat.add_zero]

section Bookkeeping

variable {x : ℕ}

theorem flash_dfWriteRecordAdd (d : Device) (wr rd : ℕ)
    (hx : ¬ Bookkeeping x) :
    (dfWriteRecordAdd d wr rd .photoAdd).chip.flash x = d.chip.flash x := by
  apply execAll_of_untouched
  apply untouched_recordAddCmds
  intro howns
  exact hx (Or.inl howns)

theorem flash_saveMediaIndex (d : Device) (stamp : Stamp) (name : List UInt8)
    (id evencode : ℕ) (hx : x / 4096 ≠ 185) :
    (saveMediaIndex d stamp name id evencode).chip.flash x =
      d.chip.flash x := by
  rw [saveMediaIndex]
  generalize hi : ((List.range 8).find? _).getD 0 = i
  have hlt : i < 8 := by
    rw [← hi]
    cases hfind : (List.range 8).find? fun i =>
        decide ((apiRecordNumRead d .picIndex i 52).headD 0 = 0) with
    | none => exact Nat.zero_lt_succ 7
    | some j => exact List.mem_range.mp (List.mem_of_find?_eq_some hfind)
  have hpage : dfPicIndexPage + i < 8192 := by
    simp only [dfPicIndexPage]
    omega
  have hsector : x / 512 / 8 ≠ (dfPicIndexPage + i) / 8 := by
    intro heq
    simp only [dfPicIndexPage] at heq
    exact hx (by omega)
  have hkeep := pageTable_dfWriteFlash_of_ne d.chip
    (mediaIndexBytes stamp name 0 id evencode) hpage
    (Nat.mod_lt x (by decide)) hsector
  have haddr : x / 512 * 512 + x % 512 = x := Nat.div_add_mod' x 512
  rw [pageTable, pageTable, haddr] at hkeep
  exact hkeep

theorem dfReadRecordAdd_chip (d : Device) :
    (dfReadRecordAdd d .photoAdd).1.chip = d.chip := rfl

end Bookkeeping

theorem picFirstPage_cases {camera page : ℕ}
    (h : picFirstPage camera = some page) :
    camera = 1 ∧ page = 4096 ∨ camera = 2 ∧ page = 4424 ∨
      camera = 3 ∧ page = 4752 ∨ camera = 4 ∧ page = 5080 := by
  rw [picFirstPage.eq_def] at h
  split at h
  case h_5 => exact absurd h (by simp)
  all_goals
    obtain rfl := Option.some.inj h
    decide

theorem picFirstPage_lt {camera page : ℕ}
    (h : picFirstPage camera = some page) : 4096 ≤ page ∧ page ≤ 5080 := by
  have hcases := picFirstPage_cases h
  omega

/-- Every camera but the last deletes its own directory. -/
theorem deletedPage_cases {camera page : ℕ}
    (h : picFirstPage camera = some page) :
    camera ≠ 4 ∧ deletedPage camera = page ∨
      camera = 4 ∧ deletedPage camera = 4752 := by
  rcases picFirstPage_cases h with
    ⟨rfl, rfl⟩ | ⟨rfl, rfl⟩ | ⟨rfl, rfl⟩ | ⟨rfl, rfl⟩ <;> decide

/-- The erase for a new picture. -/
theorem flash_delete {camera page : ℕ} (h : picFirstPage camera = some page)
    (d : Device) (x : ℕ) :
    (apiDFdirectoryDelete d (deletedName camera)).1.chip.flash x =
      blockErased camera d.chip.flash x := by
  rcases picFirstPage_cases h with
    ⟨rfl, rfl⟩ | ⟨rfl, rfl⟩ | ⟨rfl, rfl⟩ | ⟨rfl, rfl⟩ <;>
    exact execAll_blockErase64KByte (by decide) d.chip.flash x

/-- A picture of which some packets are stored, on what the flash held
before. -/
structure Storing (page : ℕ) (f₀ : Flash) (camera : ℕ)
    (packets : List (List UInt8)) (s : PicState) : Prop where
  cameraNumber : s.cameraNumber = camera
  createFlag : s.createFlag = false
  lastPackage : s.lastPackage = false
  picSize : s.picSize = (packets.map List.length).sum
  current : s.dev.picCurrentPage = page + 1 + packets.length
  flash : ∀ x, ¬ Bookkeeping x →
    s.dev.chip.flash x = blockErased camera f₀ x &&& mask page packets x
  pictureName : s.pictureName.length = 40

/-- A picture that is complete. -/
structure Complete (page : ℕ) (f₀ : Flash) (camera : ℕ)
    (packets : List (List UInt8)) (s : PicState) : Prop where
  flash : ∃ name : List UInt8, name.length = 18 ∧ ∀ x, ¬ Bookkeeping x →
    s.dev.chip.flash x = blockErased camera f₀ x &&& mask page packets x &&&
      operand (page * 512) (name ++ [UInt8.ofNat camera] ++
        leBytes 4 (packets.map List.length).sum) x

theorem flash_savePicWrite (d : Device) {x : ℕ} (hx : ¬ Bookkeeping x) :
    (savePicWrite d).chip.flash x = d.chip.flash x :=
  flash_dfWriteRecordAdd _ _ _ hx

theorem flash_createPicture {s : PicState} {page x : ℕ}
    (hpage : picFirstPage s.cameraNumber = some page) (hx : x / 4096 ≠ 185) :
    (createPicture s).dev.chip.flash x =
      blockErased s.cameraNumber s.dev.chip.flash x := by
  rw [createPicture, hpage]
  dsimp only
  rw [flash_saveMediaIndex _ _ _ _ _ hx, Device.setCurrentPage_chip,
    Device.setCurrentPage_chip, flash_delete hpage, dfReadRecordAdd_chip]

theorem picCurrentPage_createPicture {s : PicState} {page : ℕ}
    (hpage : picFirstPage s.cameraNumber = some page) :
    (createPicture s).dev.picCurrentPage = page + 1 := by
  rw [createPicture, hpage]
  rfl

theorem cameraNumber_createPicture (s : PicState) :
    (createPicture s).cameraNumber = s.cameraNumber := by
  simp only [createPicture]

theorem createFlag_createPicture (s : PicState) :
    (createPicture s).createFlag = false := by
  simp only [createPicture]

theorem lastPackage_createPicture (s : PicState) :
    (createPicture s).lastPackage = s.lastPackage := by
  simp only [createPicture]

theorem createPicture_noteLast (s : PicState) (content : List UInt8) :
    createPicture (noteLast s content) =
      noteLast (createPicture s) content := by
  simp only [createPicture, noteLast]

theorem padded_length (n : ℕ) (s : List UInt8) : (padded n s).length = n := by
  rw [padded, List.length_take, List.length_append, List.length_replicate]
  omega

theorem storing_createPicture {s : PicState} {page : ℕ}
    (hpage : picFirstPage s.cameraNumber = some page)
    (hlast : s.lastPackage = false) :
    Storing page s.dev.chip.flash s.cameraNumber [] (createPicture s) := by
  refine ⟨cameraNumber_createPicture s, createFlag_createPicture s,
    (lastPackage_createPicture s).trans hlast, ?_,
    picCurrentPage_createPicture hpage, ?_, ?_⟩
  · simp only [createPicture, List.map_nil, List.sum_nil]
  · intro x hx
    rw [mask_nil, and_erased]
    exact flash_createPicture hpage fun h => hx (Or.inr h)
  · simp only [createPicture, padded_length]

/-- The first packet is stored like the others once the picture is created. -/
theorem picDataProcess_create {s : PicState} (hcreate : s.createFlag = true)
    (content : List UInt8) :
    picDataProcess s content = picDataProcess (createPicture s) content := by
  have hleft : (noteLast s content).createFlag = true := hcreate
  have hright : ¬ (noteLast (createPicture s) content).createFlag = true := by
    rw [← createPicture_noteLast, createFlag_createPicture]
    exact Bool.false_ne_true
  rw [picDataProcess, picDataProcess, if_pos hleft, if_neg hright,
    createPicture_noteLast]

variable {page camera : ℕ} {f₀ : Flash} {packets : List (List UInt8)}
  {s : PicState}

/-- What a packet does, apart from the header. -/
theorem Storing.write (h : Storing page f₀ camera packets s)
    {content : List UInt8} (hlen : content.length ≤ pageSize)
    (hpage : page ≤ 5080) (hcount : packets.length < 127) {x : ℕ}
    (hx : ¬ Bookkeeping x) :
    (writePacket (noteLast s content) content).dev.chip.flash x =
      blockErased camera f₀ x &&& mask page (packets ++ [content]) x := by
  have hcurrent : s.dev.picCurrentPage < 8192 := by
    rw [h.current]
    omega
  rw [mask_concat hlen, ← UInt8.and_assoc, ← h.flash x hx, ← h.current]
  exact flash_dfWriteFlashDirect s.dev hcurrent hlen x

theorem sum_length_le {packets : List (List UInt8)}
    (hfull : ∀ p ∈ packets, p.length ≤ pageSize) :
    (packets.map List.length).sum ≤ packets.length * pageSize := by
  induction packets with
  | nil => exact Nat.le_refl 0
  | cons p packets ih =>
      have hp := hfull p List.mem_cons_self
      have hrest := ih fun q hq => hfull q (List.mem_cons_of_mem p hq)
      rw [List.map_cons, List.sum_cons, List.length_cons, Nat.add_mul,
        Nat.one_mul, Nat.add_comm]
      exact Nat.add_le_add hrest hp

theorem Storing.picSize_write (h : Storing page f₀ camera packets s)
    {content : List UInt8} (hfull : ∀ p ∈ packets ++ [content],
      p.length ≤ pageSize) (hcount : packets.length < 127) :
    (writePacket (noteLast s content) content).picSize =
      ((packets ++ [content]).map List.length).sum := by
  have hsum : ((packets ++ [content]).map List.length).sum =
      s.picSize + content.length := by
    rw [h.picSize, List.map_append, List.sum_append, List.map_singleton,
      List.sum_singleton]
  have hle := sum_length_le hfull
  have hlt : s.picSize + content.length < 4294967296 := by
    rw [hsum, List.length_append, List.length_singleton] at hle
    simp only [pageSize] at hle
    omega
  rw [hsum]
  exact Nat.mod_eq_of_lt hlt

theorem Storing.not_create (h : Storing page f₀ camera packets s)
    (content : List UInt8) : ¬ (noteLast s content).createFlag = true := by
  rw [noteLast, h.createFlag]
  exact Bool.false_ne_true

theorem Storing.lastPackage_write (h : Storing page f₀ camera packets s)
    (content : List UInt8) :
    (writePacket (noteLast s content) content).lastPackage =
      endsPicture false content := by
  rw [writePacket, noteLast, h.lastPackage, Bool.false_or]

/-- A packet is written, and the picture is closed behind the last one. -/
theorem Storing.picDataProcess_eq (h : Storing page f₀ camera packets s)
    (content : List UInt8) : picDataProcess s content =
      if endsPicture false content = true then
        closePicture (writePacket (noteLast s content) content)
      else writePacket (noteLast s content) content := by
  rw [picDataProcess, if_neg (h.not_create content),
    h.lastPackage_write content]

/-- A packet that is not the last. -/
theorem Storing.more (h : Storing page f₀ camera packets s)
    {content : List UInt8} (hfull : ∀ p ∈ packets ++ [content],
      p.length ≤ pageSize) (hpage : page ≤ 5080) (hcount : packets.length < 127)
    (hends : endsPicture false content = false) :
    Storing page f₀ camera (packets ++ [content])
      (picDataProcess s content) := by
  have hlen : content.length ≤ pageSize :=
    hfull content (List.mem_append_right _ (List.mem_singleton_self content))
  have hlast := h.lastPackage_write content
  rw [hends] at hlast
  rw [h.picDataProcess_eq, hends, if_neg Bool.false_ne_true]
  refine ⟨h.cameraNumber, h.createFlag, hlast, h.picSize_write hfull hcount, ?_,
    fun x hx => h.write hlen hpage hcount hx, h.pictureName⟩
  rw [List.length_append, List.length_singleton, ← Nat.add_assoc, ← h.current]
  rfl

/-- The last packet. -/
theorem Storing.close (h : Storing page f₀ camera packets s)
    {content : List UInt8} (hfull : ∀ p ∈ packets ++ [content],
      p.length ≤ pageSize) (hcamera : picFirstPage camera = some page)
    (hcount : packets.length < 127) (hends : endsPicture false content = true) :
    Complete page f₀ camera (packets ++ [content])
      (picDataProcess s content) := by
  have hpage := (picFirstPage_lt hcamera).2
  have hlen : content.length ≤ pageSize :=
    hfull content (List.mem_append_right _ (List.mem_singleton_self content))
  have hsize := h.picSize_write hfull hcount
  have hflash (x : ℕ) (hx : ¬ Bookkeeping x) := h.write hlen hpage hcount hx
  have hnumber : (writePacket (noteLast s content) content).cameraNumber =
      camera := h.cameraNumber
  have hname : (writePacket (noteLast s content) content).pictureName.length =
      40 := h.pictureName
  rw [h.picDataProcess_eq, if_pos hends]
  generalize writePacket (noteLast s content) content = s' at *
  refine ⟨s'.pictureName.take 18, ?_, ?_⟩
  · rw [List.length_take, hname]
    rfl
  · intro x hx
    have hheader : header s' = s'.pictureName.take 18 ++
        [UInt8.ofNat camera] ++
          leBytes 4 ((packets ++ [content]).map List.length).sum := by
      rw [header, hnumber, hsize]
    have hheaderLen : (header s').length ≤ pageSize := by
      rw [header, List.length_append, List.length_append, List.length_take,
        hname, leBytes_length, List.length_singleton]
      decide
    rw [closePicture, hnumber, hcamera, Option.getD_some]
    dsimp only
    rw [flash_savePicWrite _ hx, Device.setCurrentPage_chip,
      flash_dfWriteFlashDirect _ (by omega) hheaderLen, hflash x hx, hheader]

/-- Packets up to the last. -/
theorem Storing.finish (h : Storing page f₀ camera packets s)
    (hcamera : picFirstPage camera = some page) {rest : List (List UInt8)}
    (hne : rest ≠ []) (hfull : ∀ p ∈ packets ++ rest, p.length ≤ pageSize)
    (hcount : packets.length + rest.length ≤ 127)
    (hlast : ∀ i p, rest[i]? = some p →
      (endsPicture false p = true ↔ i + 1 = rest.length)) :
    Complete page f₀ camera (packets ++ rest)
      (rest.foldl picDataProcess s) := by
  induction rest generalizing packets s with
  | nil => exact absurd rfl hne
  | cons p rest ih =>
      have hends := hlast 0 p rfl
      rw [List.length_cons] at hcount hends
      have hfull' : ∀ q ∈ packets ++ [p], q.length ≤ pageSize := by
        intro q hq
        apply hfull
        rcases List.mem_append.mp hq with hq | hq
        · exact List.mem_append_left _ hq
        · rw [List.mem_singleton.mp hq]
          exact List.mem_append_right _ List.mem_cons_self
      cases rest with
      | nil => exact h.close hfull' hcamera (by omega) (hends.mpr rfl)
      | cons q rest =>
          have hnot : endsPicture false p = false := by
            rw [← Bool.not_eq_true, hends, List.length_cons]
            omega
          have hmore := h.more hfull' (picFirstPage_lt hcamera).2 (by omega)
            hnot
          have hassoc : packets ++ p :: q :: rest =
              packets ++ [p] ++ q :: rest := by
            rw [List.append_assoc, List.singleton_append]
          rw [hassoc] at hfull ⊢
          refine ih hmore (List.cons_ne_nil q rest) hfull ?_ ?_
          · rw [List.length_append, List.length_singleton]
            omega
          · intro i r hr
            rw [hlast (i + 1) r hr, List.length_cons, List.length_cons]
            omega

theorem picFirstPage_some {camera : ℕ} (h : 1 ≤ camera ∧ camera ≤ 4) :
    ∃ page, picFirstPage camera = some page := by
  have hcases : camera = 1 ∨ camera = 2 ∨ camera = 3 ∨ camera = 4 := by omega
  rcases hcases with rfl | rfl | rfl | rfl <;> exact ⟨_, rfl⟩

/-- A shot, on what the flash held before. -/
theorem complete_takeShot (s : PicState) {shot : Shot} (hwf : shot.WellFormed)
    (hcamera : picFirstPage shot.camera = some page) :
    Complete page s.dev.chip.flash shot.camera shot.packets
      (takeShot s shot) := by
  have hstart := storing_createPicture (s := { s with
    cameraNumber := shot.camera
    stamp := shot.stamp
    createFlag := true
    lastPackage := false }) hcamera rfl
  have hne : shot.packets ≠ [] := List.ne_nil_of_length_pos hwf.count.1
  have hfinish := hstart.finish hcamera hne hwf.full
    (by simpa using hwf.count.2) hwf.last
  rw [takeShot]
  cases hp : shot.packets with
  | nil => exact absurd hp hne
  | cons p rest =>
      rw [hp] at hfinish
      rw [List.foldl_cons, picDataProcess_create rfl, ← List.foldl_cons]
      exact hfinish

/-! ## What the directory gives back -/

/-- The size in the directory is that of the picture, and each packet is read
back from its place. -/
structure PictureStored (shot : Shot) (s : PicState) : Prop where
  query : apiDFdirectoryQuery s.dev (cameraName shot.camera) =
    (shot.packets.map List.length).sum
  read : ∀ i p, shot.packets[i]? = some p →
    apiDFdirectoryRead s.dev (cameraName shot.camera) p.length 1 (i + 1) =
      (s.dev, some p)

/-- The pages of the pictures, up to the sound file. -/
def PictureArea (x : ℕ) : Prop := 4096 ≤ x / 512 ∧ x / 512 < 5248

/-- The pages of a picture: its header and room for 127 packets. -/
def PicturePages (page x : ℕ) : Prop := page ≤ x / 512 ∧ x / 512 < page + 128

theorem not_bookkeeping {x : ℕ} (h : PictureArea x) : ¬ Bookkeeping x := by
  rw [PictureArea] at h
  rw [Bookkeeping]
  omega

theorem query_eq (hcamera : picFirstPage camera = some page) (d : Device) :
    apiDFdirectoryQuery d (cameraName camera) = storedSize d.chip page 19 := by
  rcases picFirstPage_cases hcamera with
    ⟨rfl, rfl⟩ | ⟨rfl, rfl⟩ | ⟨rfl, rfl⟩ | ⟨rfl, rfl⟩ <;> rfl

theorem read_eq (hcamera : picFirstPage camera = some page) (d : Device)
    (len n : ℕ) :
    apiDFdirectoryRead d (cameraName camera) len 1 n =
      (d, some (dfReadFlash d.chip (page + n) 0 len)) := by
  rcases picFirstPage_cases hcamera with
    ⟨rfl, rfl⟩ | ⟨rfl, rfl⟩ | ⟨rfl, rfl⟩ | ⟨rfl, rfl⟩ <;> rfl

/-- The size stands behind the 19 bytes of the name and the camera. -/
theorem storedSize_eq (chip : Chip) (hpage : page < 8192) :
    storedSize chip page 19 =
      leValue (readBytes chip.flash (page * 512 + 19) 4) := by
  have hsplit := readBytes_add chip.flash (page * 512) 19 4
  rw [storedSize, dfReadFlash_eq chip hpage (by decide), Nat.add_zero, hsplit,
    List.drop_left' (readBytes_length _ _ 19),
    List.take_of_length_le (readBytes_length _ _ 4).le]

theorem mask_packet {packets : List (List UInt8)} {page i j : ℕ}
    {p : List UInt8} (hi : packets[i]? = some p) {b : UInt8}
    (hj : p[j]? = some b) (hp : p.length ≤ pageSize) :
    mask page packets ((page + 1 + i) * 512 + j) = b := by
  have hp : p.length ≤ 512 := hp
  have hlt := (List.getElem?_eq_some_iff.mp hj).1
  have hpage : ((page + 1 + i) * 512 + j) / 512 = page + 1 + i := by omega
  have hoff : ((page + 1 + i) * 512 + j) % 512 = j := by omega
  rw [mask, hpage, hoff, if_pos (by omega), Nat.add_sub_cancel_left, hi,
    Option.bind_some, hj, Option.getD_some]

/-- Behind its header a page is not touched by it. -/
theorem operand_behind {addr x : ℕ} {bs : List UInt8}
    (h : addr + bs.length ≤ x) : operand addr bs x = 0xFF := by
  rw [operand, List.getElem?_eq_none (by omega)]
  split_ifs <;> rfl

/-- The page that a packet was programmed over. -/
theorem Complete.packet (h : Complete page f₀ camera packets s) {i j : ℕ}
    {p : List UInt8} (hpage : 4096 ≤ page ∧ page ≤ 5080)
    (hcount : packets.length ≤ 127) (hi : packets[i]? = some p)
    (hp : p.length ≤ pageSize) {b : UInt8} (hj : p[j]? = some b) :
    s.dev.chip.flash ((page + 1 + i) * 512 + j) =
      blockErased camera f₀ ((page + 1 + i) * 512 + j) &&& b := by
  have hlt := (List.getElem?_eq_some_iff.mp hi).1
  have hlt' := (List.getElem?_eq_some_iff.mp hj).1
  have hp' : p.length ≤ 512 := hp
  obtain ⟨name, hname, hflash⟩ := h.flash
  have harea : PictureArea ((page + 1 + i) * 512 + j) := by
    rw [PictureArea]
    omega
  have hlen : (name ++ [UInt8.ofNat camera] ++
      leBytes 4 (packets.map List.length).sum).length = 23 := by
    rw [List.length_append, List.length_append, hname, leBytes_length,
      List.length_singleton]
  rw [hflash _ (not_bookkeeping harea), operand_behind (by omega), and_erased,
    mask_packet hi hj hp]

/-- What the size was programmed over. -/
theorem Complete.size (h : Complete page f₀ camera packets s)
    (hpage : 4096 ≤ page ∧ page ≤ 5080) {k : ℕ} {b : UInt8}
    (hk : (leBytes 4 (packets.map List.length).sum)[k]? = some b) :
    s.dev.chip.flash (page * 512 + 19 + k) =
      blockErased camera f₀ (page * 512 + 19 + k) &&& b := by
  have hlt := (List.getElem?_eq_some_iff.mp hk).1
  rw [leBytes_length] at hlt
  obtain ⟨name, hname, hflash⟩ := h.flash
  have hfront : (name ++ [UInt8.ofNat camera]).length = 19 := by
    rw [List.length_append, hname, List.length_singleton]
  have hdiv : (page * 512 + 19 + k) / 512 = page := by omega
  have harea : PictureArea (page * 512 + 19 + k) := by
    rw [PictureArea]
    omega
  have hmask : mask page packets (page * 512 + 19 + k) = 0xFF := by
    rw [mask, hdiv]
    exact if_neg (by omega)
  have hback : page * 512 + 19 + k - page * 512 = 19 + k := by omega
  rw [hflash _ (not_bookkeeping harea), hmask, and_erased, operand,
    if_pos (by omega), hback,
    List.getElem?_append_right (by rw [hfront]; exact Nat.le_add_right 19 k),
    hfront, Nat.add_sub_cancel_left, hk, Option.getD_some]

/-- Outside of the erased block every bit that the shot sets is still set, in
the place of the size and in those of the packets. -/
def ShotFits (f : Flash) (shot : Shot) : Prop :=
  ∀ page, picFirstPage shot.camera = some page →
    Fits (blockErased shot.camera f) (page * 512 + 19)
        (leBytes 4 (shot.packets.map List.length).sum) ∧
      ∀ i p, shot.packets[i]? = some p →
        Fits (blockErased shot.camera f) ((page + 1 + i) * 512) p

theorem Shot.WellFormed.size_lt {shot : Shot} (h : shot.WellFormed) :
    (shot.packets.map List.length).sum < 256 ^ 4 := by
  have hcount := h.count.2
  have hle := sum_length_le h.full
  simp only [pageSize] at hle
  omega

/-- The directory gives the size of a complete picture. -/
theorem Complete.query_iff {shot : Shot} (hwf : shot.WellFormed)
    (hcamera : picFirstPage shot.camera = some page)
    (h : Complete page f₀ shot.camera shot.packets s) :
    apiDFdirectoryQuery s.dev (cameraName shot.camera) =
        (shot.packets.map List.length).sum ↔
      Fits (blockErased shot.camera f₀) (page * 512 + 19)
        (leBytes 4 (shot.packets.map List.length).sum) := by
  have hpage := picFirstPage_lt hcamera
  have hvalue : leValue (leBytes 4 (shot.packets.map List.length).sum) =
      (shot.packets.map List.length).sum := by
    rw [leValue_leBytes]
    exact Nat.mod_eq_of_lt hwf.size_lt
  have hfits := readBytes_eq_iff_fits fun k b hk => h.size hpage (b := b) hk
  rw [leBytes_length] at hfits
  rw [query_eq hcamera, storedSize_eq _ (by omega), ← hfits]
  constructor
  · intro heq
    refine leValue_inj ?_ (heq.trans hvalue.symm)
    rw [readBytes_length, leBytes_length]
  · intro heq
    rw [heq, hvalue]

/-- The directory gives a packet of a complete picture. -/
theorem Complete.read_iff {shot : Shot} (hwf : shot.WellFormed)
    (hcamera : picFirstPage shot.camera = some page)
    (h : Complete page f₀ shot.camera shot.packets s) {i : ℕ} {p : List UInt8}
    (hi : shot.packets[i]? = some p) :
    apiDFdirectoryRead s.dev (cameraName shot.camera) p.length 1 (i + 1) =
        (s.dev, some p) ↔
      Fits (blockErased shot.camera f₀) ((page + 1 + i) * 512) p := by
  have hpage := picFirstPage_lt hcamera
  have hcount := hwf.count.2
  have hlt := (List.getElem?_eq_some_iff.mp hi).1
  have hp : p.length ≤ pageSize := hwf.full p (List.mem_of_getElem? hi)
  have hp' : p.length ≤ 512 := hp
  rw [read_eq hcamera, ← Nat.add_assoc, Nat.add_right_comm,
    dfReadFlash_eq s.dev.chip (by omega) (by omega), Nat.add_zero,
    ← readBytes_eq_iff_fits fun j b hj => h.packet hpage hcount hi hp hj]
  simp only [Prod.mk.injEq, true_and, Option.some.injEq]

/-- A complete picture is given back exactly if every bit that it sets was set
before. -/
theorem Complete.stored_iff {shot : Shot} (hwf : shot.WellFormed)
    (hcamera : picFirstPage shot.camera = some page)
    (h : Complete page f₀ shot.camera shot.packets s) :
    PictureStored shot s ↔ ShotFits f₀ shot := by
  constructor
  · intro hstored page' hcamera'
    obtain rfl : page = page' := Option.some.inj (hcamera.symm.trans hcamera')
    exact ⟨(h.query_iff hwf hcamera).mp hstored.query, fun i p hi =>
      (h.read_iff hwf hcamera hi).mp (hstored.read i p hi)⟩
  · intro hfits
    obtain ⟨hsize, hpackets⟩ := hfits page hcamera
    exact ⟨(h.query_iff hwf hcamera).mpr hsize, fun i p hi =>
      (h.read_iff hwf hcamera hi).mpr (hpackets i p hi)⟩

/-! ## What a shot leaves as it is -/

theorem Complete.kept (h : Complete page f₀ camera packets s)
    (hcount : packets.length ≤ 127) {x : ℕ} (hx : ¬ Bookkeeping x)
    (hblock : x / 65536 ≠ deletedPage camera / 128)
    (hpages : ¬ PicturePages page x) : s.dev.chip.flash x = f₀ x := by
  obtain ⟨name, hname, hflash⟩ := h.flash
  have hsame : blockErased camera f₀ x = f₀ x := if_neg (by omega)
  rw [PicturePages] at hpages
  have hmask : mask page packets x = 0xFF := by
    rw [mask]
    split_ifs with hin
    · rw [List.getElem?_eq_none (by omega)]
      rfl
    · rfl
  have hlen : (name ++ [UInt8.ofNat camera] ++
      leBytes 4 (packets.map List.length).sum).length = 23 := by
    rw [List.length_append, List.length_append, hname, leBytes_length,
      List.length_singleton]
  have hheader : operand (page * 512) (name ++ [UInt8.ofNat camera] ++
      leBytes 4 (packets.map List.length).sum) x = 0xFF := by
    by_cases hbelow : x < page * 512
    · exact if_neg (Nat.not_le_of_lt hbelow)
    · exact operand_behind (by omega)
  rw [hflash x hx, hsame, hmask, and_erased, hheader, and_erased]

/-- But for camera 4 and the picture of camera 3, neither the pages nor the
erased block of a camera reach the pages of another. -/
theorem picturePages_other {camera camera' page page' x : ℕ}
    (hcamera : picFirstPage camera = some page)
    (hcamera' : picFirstPage camera' = some page') (hne : camera' ≠ camera)
    (hslip : camera = 4 → camera' ≠ 3) (hx : PicturePages page' x) :
    x / 65536 ≠ deletedPage camera / 128 ∧ ¬ PicturePages page x := by
  have hpage := picFirstPage_cases hcamera
  have hpage' := picFirstPage_cases hcamera'
  have hdeleted := deletedPage_cases hcamera
  rw [PicturePages] at hx ⊢
  omega

theorem pictureArea_of_pages (hcamera : picFirstPage camera = some page) {x : ℕ}
    (hx : PicturePages page x) : PictureArea x := by
  have hpage := picFirstPage_lt hcamera
  rw [PicturePages] at hx
  rw [PictureArea]
  omega

/-- What is erased for a picture lies in the picture area. -/
theorem not_block_of_not_area (hcamera : picFirstPage camera = some page)
    {x : ℕ} (hx : ¬ PictureArea x) :
    x / 65536 ≠ deletedPage camera / 128 ∧ ¬ PicturePages page x := by
  have hpage := picFirstPage_cases hcamera
  have hdeleted := deletedPage_cases hcamera
  rw [PictureArea] at hx
  rw [PicturePages]
  omega

/-- A picture is a matter of its own pages. -/
theorem PictureStored.congr {shot : Shot} {s s' : PicState}
    (hwf : shot.WellFormed) (hcamera : picFirstPage shot.camera = some page)
    (hsame : ∀ x, PicturePages page x →
      s'.dev.chip.flash x = s.dev.chip.flash x)
    (h : PictureStored shot s) : PictureStored shot s' := by
  have hpage := picFirstPage_lt hcamera
  have hcount := hwf.count.2
  have hread (n len : ℕ) (hn : n < 128) (hlen : len ≤ 512) :
      dfReadFlash s'.dev.chip (page + n) 0 len =
        dfReadFlash s.dev.chip (page + n) 0 len := by
    rw [dfReadFlash_eq _ (by omega) (by omega),
      dfReadFlash_eq _ (by omega) (by omega)]
    apply readBytes_congr
    intro x hlo hhi
    apply hsame
    rw [PicturePages]
    omega
  constructor
  · have hquery := h.query
    rw [query_eq hcamera, storedSize] at hquery ⊢
    rw [← hquery]
    exact congrArg (fun bs => leValue ((bs.drop 19).take 4))
      (hread 0 23 (by decide) (by decide))
  · intro i p hi
    have hlt := (List.getElem?_eq_some_iff.mp hi).1
    have hp : p.length ≤ 512 := hwf.full p (List.mem_of_getElem? hi)
    have hbefore := h.read i p hi
    rw [read_eq hcamera] at hbefore ⊢
    rw [hread (i + 1) p.length (by omega) hp, (Prod.mk.inj hbefore).2]

theorem takeShot_keeps {s : PicState} {shot : Shot} (hwf : shot.WellFormed)
    {x : ℕ} (hx : ¬ Bookkeeping x)
    (hout : ∀ page, picFirstPage shot.camera = some page →
      x / 65536 ≠ deletedPage shot.camera / 128 ∧ ¬ PicturePages page x) :
    (takeShot s shot).dev.chip.flash x = s.dev.chip.flash x := by
  obtain ⟨page, hcamera⟩ := picFirstPage_some hwf.camera
  obtain ⟨hblock, hpages⟩ := hout page hcamera
  exact (complete_takeShot s hwf hcamera).kept hwf.count.2 hx hblock hpages

/-- The first packet of camera 4 erases the header of camera 3. -/
theorem Complete.header_erased
    (h : Complete page f₀ 4 packets s) (hpage : page = 5080) {x : ℕ}
    (hx : x / 512 = 4752) : s.dev.chip.flash x = 0xFF := by
  obtain ⟨name, -, hflash⟩ := h.flash
  have harea : PictureArea x := by
    rw [PictureArea]
    omega
  have hblock : blockErased 4 f₀ x = 0xFF := by
    have hthree : deletedPage 4 = 4752 := rfl
    rw [blockErased, hthree]
    exact if_pos (by omega)
  have hmask : mask page packets x = 0xFF := by
    rw [mask]
    exact if_neg (by omega)
  rw [hflash x (not_bookkeeping harea), hblock, hmask, operand,
    if_neg (by omega)]
  rfl

/-- Behind an erased size no picture is stored. -/
theorem not_pictureStored_of_erased {shot : Shot} (hwf : shot.WellFormed)
    (hcamera : picFirstPage shot.camera = some page)
    (herased : Erased s.dev.chip.flash (page * 512 + 19) 4) :
    ¬ PictureStored shot s := by
  intro h
  have hpage := picFirstPage_lt hcamera
  have hquery := h.query
  have hcount := hwf.count.2
  have hle := sum_length_le hwf.full
  rw [query_eq hcamera, storedSize_eq _ (by omega),
    readBytes_of_erased herased] at hquery
  have hvalue : leValue (List.replicate 4 0xFF) = 4294967295 := rfl
  simp only [pageSize] at hle
  omega

/-- A shot of camera 4 leaves no picture of camera 3. -/
theorem not_pictureStored_of_four {shot other : Shot} (hwf : shot.WellFormed)
    (hshot : shot.camera = 4) (hother : other.WellFormed)
    (hthree : other.camera = 3) (s : PicState) :
    ¬ PictureStored other (takeShot s shot) := by
  have hcamera : picFirstPage shot.camera = some 5080 := by
    rw [hshot]
    rfl
  have hcamera' : picFirstPage other.camera = some 4752 := by
    rw [hthree]
    rfl
  have hcomplete := complete_takeShot s hwf hcamera
  rw [hshot] at hcomplete
  refine not_pictureStored_of_erased hother hcamera' ?_
  intro x hlo hhi
  exact hcomplete.header_erased rfl (by omega)

/-! ## Runs of shots -/

/-- What a shot has to do: its picture is given back, the pictures stored for
the other cameras still are, and outside of the picture area nothing has changed
but the pointer and the indices. -/
structure Isolated (s : PicState) (shot : Shot) (s' : PicState) : Prop where
  stored : PictureStored shot s'
  others : ∀ other : Shot, other.WellFormed → other.camera ≠ shot.camera →
    PictureStored other s → PictureStored other s'
  outside : ∀ x, ¬ PictureArea x → ¬ Bookkeeping x →
    s'.dev.chip.flash x = s.dev.chip.flash x

/-- Camera 4 is shot while no picture of camera 3 is stored, and every bit that
a shot sets outside of the erased block is still set. -/
def Spares (s : PicState) (shot : CompletedShot) : Prop :=
  ShotFits s.dev.chip.flash shot.1 ∧
    (shot.1.camera = 4 → ∀ other : Shot, other.WellFormed →
      other.camera = 3 → ¬ PictureStored other s)

theorem stored_takeShot_iff (s : PicState) {shot : Shot}
    (hwf : shot.WellFormed) :
    PictureStored shot (takeShot s shot) ↔ ShotFits s.dev.chip.flash shot := by
  obtain ⟨page, hcamera⟩ := picFirstPage_some hwf.camera
  exact (complete_takeShot s hwf hcamera).stored_iff hwf hcamera

theorem stored_takeShot_other {s : PicState} {shot other : Shot}
    (hwf : shot.WellFormed) (hother : other.WellFormed)
    (hne : other.camera ≠ shot.camera)
    (hslip : shot.camera = 4 → other.camera ≠ 3)
    (h : PictureStored other s) : PictureStored other (takeShot s shot) := by
  obtain ⟨page', hcamera'⟩ := picFirstPage_some hother.camera
  refine h.congr hother hcamera' fun x hx => ?_
  refine takeShot_keeps hwf (not_bookkeeping (pictureArea_of_pages hcamera' hx))
    fun page hcamera => ?_
  exact picturePages_other hcamera hcamera' hne hslip hx

theorem isolated_iff (s : PicState) (shot : CompletedShot) :
    Isolated s shot.1 (shotStep s shot) ↔ Spares s shot := by
  obtain ⟨shot, hwf⟩ := shot
  constructor
  · intro h
    refine ⟨(stored_takeShot_iff s hwf).mp h.stored, ?_⟩
    intro hfour other hother hthree hstored
    have hne : other.camera ≠ shot.camera := by
      rw [hfour, hthree]
      decide
    exact not_pictureStored_of_four hwf hfour hother hthree s
      (h.others other hother hne hstored)
  · rintro ⟨hfits, hslip⟩
    refine ⟨(stored_takeShot_iff s hwf).mpr hfits, ?_, ?_⟩
    · intro other hother hne hstored
      exact stored_takeShot_other hwf hother hne
        (fun hfour hthree => hslip hfour other hother hthree hstored) hstored
    · intro x harea hbook
      exact takeShot_keeps hwf hbook fun page hcamera =>
        not_block_of_not_area hcamera harea

/-- Every shot of a run is isolated from what was stored before. -/
def ShotsIsolated (s : PicState) (shots : List CompletedShot) : Prop :=
  Throughout shotStep (fun s shot => Isolated s shot.1 (shotStep s shot)) s
    shots

/-- The last shot of a camera in a run. -/
def lastShot (camera : ℕ) (shots : List CompletedShot) : Option CompletedShot :=
  (shots.filter fun shot => shot.1.camera = camera).getLast?

theorem lastShot_concat (camera : ℕ) (shots : List CompletedShot)
    (shot : CompletedShot) :
    lastShot camera (shots ++ [shot]) =
      if shot.1.camera = camera then some shot else lastShot camera shots := by
  rw [lastShot, List.filter_append]
  by_cases hcamera : shot.1.camera = camera
  · simp [hcamera]
  · simp [hcamera, lastShot]

/-- Behind a run of isolated shots every camera gives back its last picture. -/
theorem ShotsIsolated.stored {s : PicState} {shots : List CompletedShot}
    (h : ShotsIsolated s shots) {camera : ℕ} {last : CompletedShot}
    (hlast : lastShot camera shots = some last) :
    PictureStored last.1 (shots.foldl shotStep s) := by
  induction shots using List.reverseRecOn with
  | nil => exact absurd hlast (by simp [lastShot])
  | append_singleton shots shot ih =>
      have hshot := h shots shot List.prefix_rfl
      have hbefore : ShotsIsolated s shots := fun es e hpre =>
        h es e (hpre.trans (List.prefix_append _ _))
      rw [List.foldl_concat]
      rw [lastShot_concat] at hlast
      split_ifs at hlast with hsame
      · rw [← Option.some.inj hlast]
        exact hshot.stored
      · have hmem := List.mem_of_getLast? hlast
        have hcamera : last.1.camera = camera := by
          simpa using (List.mem_filter.mp hmem).2
        exact hshot.others last.1 last.2 (by rw [hcamera]; exact Ne.symm hsame)
          (ih hbefore hlast)

/-! ## Two shots of one camera -/

/-- A picture of 55 full packets and one byte. -/
def longShot (camera : ℕ) (b : UInt8) : Shot where
  camera := camera
  packets := List.replicate 55 (List.replicate 512 0) ++ [[b]]

theorem longShot_length (camera : ℕ) (b : UInt8) :
    (longShot camera b).packets.length = 56 := by
  rw [longShot, List.length_append, List.length_replicate,
    List.length_singleton]

theorem getElem?_longShot_last (camera : ℕ) (b : UInt8) :
    (longShot camera b).packets[55]? = some [b] := by
  rw [longShot, List.getElem?_append_right (by rw [List.length_replicate]),
    List.length_replicate]
  rfl

theorem getElem?_longShot_full (camera : ℕ) (b : UInt8) {i : ℕ} (hi : i < 55) :
    (longShot camera b).packets[i]? = some (List.replicate 512 0) := by
  have hfull : i < (List.replicate 55
      (List.replicate 512 (0 : UInt8))).length := by
    rw [List.length_replicate]
    exact hi
  rw [longShot, List.getElem?_append_left hfull,
    List.getElem?_replicate_of_lt hi]

theorem longShot_wellFormed {camera : ℕ} (h : 1 ≤ camera ∧ camera ≤ 4)
    (b : UInt8) : (longShot camera b).WellFormed := by
  have hpackets (i : ℕ) (p : List UInt8)
      (hi : (longShot camera b).packets[i]? = some p) :
      i < 55 ∧ p = List.replicate 512 0 ∨ i = 55 ∧ p = [b] := by
    have hlt := (List.getElem?_eq_some_iff.mp hi).1
    rw [longShot_length] at hlt
    by_cases hlast : i = 55
    · subst hlast
      rw [getElem?_longShot_last] at hi
      exact Or.inr ⟨rfl, (Option.some.inj hi).symm⟩
    · have hfull : i < 55 := by omega
      rw [getElem?_longShot_full camera b hfull] at hi
      exact Or.inl ⟨hfull, (Option.some.inj hi).symm⟩
  refine ⟨h, by rw [longShot_length]; decide, ?_, ?_⟩
  · intro p hp
    obtain ⟨i, hi⟩ := List.mem_iff_getElem?.mp hp
    rcases hpackets i p hi with ⟨-, rfl⟩ | ⟨-, rfl⟩
    · rw [List.length_replicate]
    · exact Nat.succ_le_of_lt (by decide)
  · intro i p hi
    rw [longShot_length]
    rcases hpackets i p hi with ⟨hlt, rfl⟩ | ⟨rfl, rfl⟩
    · have hends : endsPicture false (List.replicate 512 0) = false := by
        decide +kernel
      rw [hends]
      exact iff_of_false Bool.false_ne_true (by omega)
    · exact iff_of_true rfl rfl

/-- The last packet of a long picture of camera 2 lies behind the erased block. -/
theorem flash_longShot (s : PicState) (b : UInt8) :
    (takeShot s (longShot 2 b)).dev.chip.flash 2293760 =
      s.dev.chip.flash 2293760 &&& b := by
  have hwf := longShot_wellFormed (by decide : 1 ≤ 2 ∧ 2 ≤ 4) b
  have hcamera : picFirstPage (longShot 2 b).camera = some 4424 := rfl
  have h := (complete_takeShot s hwf hcamera).packet (by decide) hwf.count.2
    (getElem?_longShot_last 2 b) (Nat.succ_le_of_lt (by decide))
    (j := 0) rfl
  have hold : blockErased (longShot 2 b).camera s.dev.chip.flash 2293760 =
      s.dev.chip.flash 2293760 := by
    have hdeleted : deletedPage (longShot 2 b).camera = 4424 := rfl
    rw [blockErased, hdeleted]
    rfl
  rw [show (4424 + 1 + 55) * 512 + 0 = 2293760 from rfl, hold] at h
  exact h

/-- A record goes into the sector of its log. -/
theorem not_logErased_dfWriteRecordAdd {d : Device} {type : RecordType}
    (h : LogErased d.chip type) (wr rd : ℕ) :
    ¬ LogErased (dfWriteRecordAdd d wr rd type).chip type := by
  intro herased
  have hbefore := FlagLog.filled_zero_of_erased type.layout h
  have hafter := hbefore.commit _ (Nat.le_of_eq (pairBytes_length wr rd))
  have hnone := FlagLog.filled_zero_of_erased type.layout herased
  rw [dfWriteRecordAdd, Device.issue_chip, Chip.issue_flash,
    recordAddCmds_eq] at hnone
  have hused := FlagLog.used_of_filled _ hafter
  have hzero := FlagLog.used_of_filled _ hnone
  exact absurd (hzero.symm.trans hused) (by simp [FlagLog.advance])

/-- A picture that is one byte long. -/
def shortShot (camera : ℕ) (b : UInt8) : Shot where
  camera := camera
  packets := [[b]]

theorem shortShot_wellFormed {camera : ℕ} (h : 1 ≤ camera ∧ camera ≤ 4)
    (b : UInt8) : (shortShot camera b).WellFormed := by
  have hpackets : (shortShot camera b).packets.length = 1 := rfl
  refine ⟨h, by rw [hpackets]; decide, ?_, ?_⟩
  · intro p hp
    rw [List.mem_singleton.mp hp]
    exact Nat.succ_le_of_lt (by decide)
  · intro i p hi
    have hlt : i < 1 := (List.getElem?_eq_some_iff.mp hi).1
    obtain rfl : i = 0 := by omega
    obtain rfl := Option.some.inj hi
    exact iff_of_true rfl rfl

theorem operand_below {addr x : ℕ} (h : x < addr) (bs : List UInt8) :
    operand addr bs x = 0xFF := if_neg (by omega)

/-- Up to the record of the pointer a picture of one packet leaves the sector of
the pointer as it is. -/
theorem picDataProcess_single {s : PicState} (hcreate : s.createFlag = true)
    (hlastPackage : s.lastPackage = false)
    (hcamera : picFirstPage s.cameraNumber = some 4096) (b : UInt8) :
    ∃ d, (picDataProcess s [b]).dev = savePicWrite d ∧
      ∀ x, x / 4096 = 138 → d.chip.flash x = s.dev.chip.flash x := by
  have hstored := storing_createPicture hcamera hlastPackage
  have hcreated (x : ℕ) (hx : x / 4096 ≠ 185) :=
    flash_createPicture hcamera hx
  rw [picDataProcess_create hcreate]
  generalize createPicture s = s' at hstored hcreated ⊢
  have hlast : (writePacket (noteLast s' [b]) [b]).lastPackage = true :=
    hstored.lastPackage_write [b]
  have hclose : picDataProcess s' [b] =
      closePicture (writePacket (noteLast s' [b]) [b]) := by
    rw [picDataProcess, if_neg (hstored.not_create [b]), if_pos hlast]
  have hpage : picFirstPage (writePacket (noteLast s' [b]) [b]).cameraNumber =
      some 4096 := by
    rw [← hcamera]
    exact congrArg picFirstPage hstored.cameraNumber
  have hheader : (header (writePacket (noteLast s' [b]) [b])).length ≤
      pageSize := by
    rw [header, List.length_append, List.length_append, List.length_take,
      leBytes_length, List.length_singleton]
    simp only [pageSize]
    omega
  rw [hclose, closePicture, hpage, Option.getD_some]
  refine ⟨_, rfl, ?_⟩
  intro x hx
  have hbelow : x < 2097152 := by omega
  have hone : deletedPage s.cameraNumber = 4096 := by
    have hcases := picFirstPage_cases hcamera
    obtain ⟨-, hdeleted⟩ | ⟨hfour, -⟩ := deletedPage_cases hcamera
    · exact hdeleted
    · omega
  have hblock : blockErased s.cameraNumber s.dev.chip.flash x =
      s.dev.chip.flash x := if_neg (by omega)
  have hcurrent : s'.dev.picCurrentPage = 4097 := hstored.current
  have hlt : s'.dev.picCurrentPage < 8192 := by omega
  have hpacket : (writePacket (noteLast s' [b]) [b]).dev.chip.flash x =
      s'.dev.chip.flash x &&& operand (s'.dev.picCurrentPage * 512) [b] x :=
    flash_dfWriteFlashDirect s'.dev hlt (Nat.succ_le_of_lt (by decide)) x
  rw [Device.setCurrentPage_chip,
    flash_dfWriteFlashDirect _ (by decide) hheader, operand_below hbelow,
    and_erased, hpacket, operand_below (by omega), and_erased,
    hcreated x (by omega), hblock]

/-- A picture is recorded in the sector of the picture pointer. -/
theorem pointer_changed {s : PicState}
    (herased : LogErased s.dev.chip .photoAdd) (b : UInt8) :
    ∃ x, x / 4096 = 138 ∧
      (takeShot s (shortShot 1 b)).dev.chip.flash x ≠ s.dev.chip.flash x := by
  obtain ⟨s', hs', d, hd, hsame⟩ : ∃ s', takeShot s (shortShot 1 b) = s' ∧
      ∃ d, s'.dev = savePicWrite d ∧
        ∀ x, x / 4096 = 138 → d.chip.flash x = s.dev.chip.flash x :=
    ⟨_, rfl, picDataProcess_single (s := { s with
      cameraNumber := (shortShot 1 b).camera
      stamp := (shortShot 1 b).stamp
      createFlag := true
      lastPackage := false }) rfl rfl rfl b⟩
  rw [hs']
  by_contra hnone
  have hkept (x : ℕ) (hx : x / 4096 = 138) :
      s'.dev.chip.flash x = s.dev.chip.flash x := by
    by_contra hne
    exact hnone ⟨x, hx, hne⟩
  have hbefore : LogErased d.chip .photoAdd := by
    intro x hx
    rw [hsame x hx]
    exact herased x hx
  refine not_logErased_dfWriteRecordAdd hbefore (bump maxPicNum d.picWrite)
    d.picRead ?_
  intro x hx
  have hafter := hkept x hx
  rw [hd] at hafter
  exact hafter.trans (herased x hx)

/-! ## The picture store -/

/-- Over any run of shots, each is isolated from what was stored before exactly
when camera 4 is not shot while a picture of camera 3 is stored, and what a shot
writes outside of the erased block finds every bit that it sets. -/
theorem shotsIsolated_iff (s : PicState) (shots : List CompletedShot) :
    ShotsIsolated s shots ↔ Meeting shotStep Spares s shots :=
  throughout_iff_meeting isolated_iff s shots

/-- A device on which nothing has been stored. -/
def blank : PicState where
  dev := .initial

/-- A picture of one byte. -/
def oneByte (camera : ℕ) (h : 1 ≤ camera ∧ camera ≤ 4) (b : UInt8) :
    CompletedShot := ⟨shortShot camera b, shortShot_wellFormed h b⟩

/-- A picture of 56 packets. -/
def manyPackets (camera : ℕ) (h : 1 ≤ camera ∧ camera ≤ 4) (b : UInt8) :
    CompletedShot := ⟨longShot camera b, longShot_wellFormed h b⟩

theorem shotFits_of_erased {f : Flash} (shot : CompletedShot)
    (h : ∀ page, picFirstPage shot.1.camera = some page →
      ∀ x, PicturePages page x → blockErased shot.1.camera f x = 0xFF) :
    ShotFits f shot.1 := by
  obtain ⟨shot, hwf⟩ := shot
  intro page hcamera
  have hcount := hwf.count.2
  constructor
  · apply Erased.fits
    intro x hlo hhi
    rw [leBytes_length] at hhi
    apply h page hcamera
    rw [PicturePages]
    omega
  · intro i p hi
    have hlt : i < shot.packets.length := (List.getElem?_eq_some_iff.mp hi).1
    have hp : p.length ≤ 512 := hwf.full p (List.mem_of_getElem? hi)
    apply Erased.fits
    intro x hlo hhi
    apply h page hcamera
    rw [PicturePages]
    omega

/-- The erased block holds every picture of camera 1. -/
theorem shotFits_one (f : Flash) {shot : CompletedShot}
    (hone : shot.1.camera = 1) : ShotFits f shot.1 := by
  refine shotFits_of_erased shot fun page hcamera x hx => ?_
  have hdeleted : deletedPage shot.1.camera = 4096 := by
    rw [hone]
    rfl
  have hpage := picFirstPage_cases hcamera
  rw [PicturePages] at hx
  rw [blockErased, hdeleted]
  exact if_pos (by omega)

/-- The pages of the pictures of a camera are erased. -/
def NoPicture (camera : ℕ) (s : PicState) : Prop :=
  ∀ page, picFirstPage camera = some page → ∀ x, PicturePages page x →
    s.dev.chip.flash x = 0xFF

theorem NoPicture.fits {s : PicState} {shot : CompletedShot}
    (h : NoPicture shot.1.camera s) : ShotFits s.dev.chip.flash shot.1 := by
  refine shotFits_of_erased shot fun page hcamera x hx => ?_
  rw [blockErased]
  split_ifs
  · rfl
  · exact h page hcamera x hx

theorem NoPicture.shotStep {s : PicState} {camera : ℕ} (h : NoPicture camera s)
    {shot : CompletedShot} (hne : camera ≠ shot.1.camera)
    (hslip : shot.1.camera = 4 → camera ≠ 3) :
    NoPicture camera (Camera.shotStep s shot) := by
  intro page' hcamera' x hx
  rw [← h page' hcamera' x hx]
  refine takeShot_keeps shot.2
    (not_bookkeeping (pictureArea_of_pages hcamera' hx)) fun page hcamera => ?_
  exact picturePages_other hcamera hcamera' hne hslip hx

theorem NoPicture.not_stored {s : PicState} {shot : Shot}
    (h : NoPicture shot.camera s) (hwf : shot.WellFormed) :
    ¬ PictureStored shot s := by
  obtain ⟨page, hcamera⟩ := picFirstPage_some hwf.camera
  refine not_pictureStored_of_erased hwf hcamera ?_
  intro x hlo hhi
  apply h page hcamera
  rw [PicturePages]
  omega

theorem noPicture_blank (camera : ℕ) : NoPicture camera blank :=
  fun _ _ _ _ => rfl

/-- A picture of 56 packets of camera 2, one of camera 1, one of camera 4, and
another one of camera 1. -/
theorem shotsIsolated_iff_blank :
    ShotsIsolated blank [manyPackets 2 (by decide) 0xAA,
      oneByte 1 (by decide) 5, oneByte 4 (by decide) 7,
      oneByte 1 (by decide) 9] := by
  refine (shotsIsolated_iff blank _).mpr ⟨⟨(noPicture_blank 2).fits, ?_⟩,
    ⟨shotFits_one _ rfl, ?_⟩, ⟨?_, ?_⟩, ⟨shotFits_one _ rfl, ?_⟩, trivial⟩
  · exact fun h => absurd h (by decide)
  · exact fun h => absurd h (by decide)
  · apply NoPicture.fits
    apply NoPicture.shotStep
    · exact (noPicture_blank 4).shotStep (by decide) (by decide)
    · decide
    · decide
  · intro _ other hother hthree
    apply NoPicture.not_stored _ hother
    rw [hthree]
    apply NoPicture.shotStep
    · exact (noPicture_blank 3).shotStep (by decide) (by decide)
    · decide
    · decide
  · exact fun h => absurd h (by decide)

/-- The first packet of camera 4 erases the picture of camera 3, and a second
long picture of camera 2 is programmed over the first.  A picture of one byte
changes the sector of the pointer. -/
theorem not_shotsIsolated :
    ¬ ShotsIsolated blank
        [oneByte 3 (by decide) 0, oneByte 4 (by decide) 0] ∧
      ¬ ShotsIsolated blank
        [manyPackets 2 (by decide) 0, manyPackets 2 (by decide) 1] ∧
      ∃ x, ¬ PictureArea x ∧
        (shotStep blank (oneByte 1 (by decide) 0)).dev.chip.flash x ≠
          blank.dev.chip.flash x := by
  refine ⟨?_, ?_, ?_⟩
  · intro h
    have hnone : NoPicture (oneByte 3 (by decide) 0).1.camera blank :=
      noPicture_blank 3
    have hfirst : PictureStored (shortShot 3 0)
        (takeShot blank (shortShot 3 0)) :=
      (stored_takeShot_iff blank (shortShot_wellFormed (by decide) 0)).mpr
        hnone.fits
    have hsecond := h [oneByte 3 (by decide) 0] (oneByte 4 (by decide) 0)
      List.prefix_rfl
    exact not_pictureStored_of_four (shortShot_wellFormed (by decide) 0) rfl
      (shortShot_wellFormed (by decide) 0) rfl _
      (hsecond.others (shortShot 3 0) (shortShot_wellFormed (by decide) 0)
        (by decide) hfirst)
  · intro h
    have hsecond := h [manyPackets 2 (by decide) 0] (manyPackets 2 (by decide) 1)
      List.prefix_rfl
    rw [List.foldl_cons, List.foldl_nil] at hsecond
    have hfits := (isolated_iff _ _).mp hsecond
    have hlast := (hfits.1 4424 rfl).2 55 [1] (getElem?_longShot_last 2 1) 0 1
      rfl
    have hflash := flash_longShot blank 0
    have hstep : shotStep blank (manyPackets 2 (by decide) 0) =
        takeShot blank (longShot 2 0) := rfl
    rw [← hstep] at hflash
    generalize shotStep blank (manyPackets 2 (by decide) 0) = s' at *
    have hdeleted : deletedPage (manyPackets 2 (by decide) 1).1.camera = 4424 :=
      rfl
    rw [blockErased, hdeleted, show (4424 + 1 + 55) * 512 + 0 = 2293760 from rfl,
      if_neg (by decide), hflash, UInt8.and_zero] at hlast
    exact absurd hlast (by decide)
  · obtain ⟨x, hx, hne⟩ := pointer_changed (s := blank) (fun _ _ => rfl) 0
    have harea : ¬ PictureArea x := by
      rw [PictureArea]
      omega
    exact ⟨x, harea, hne⟩

end VehicleRecorder.Camera
