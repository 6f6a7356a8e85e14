import VehicleRecorder.Camera.Media
import VehicleRecorder.Camera.PicStore

/-!
# Uploads packet by packet

The sending of a picture or of the sound, with the bytes that are sent.  A
packet is read from the page of its own number behind the first page; how much
of the page is sent is computed from the place of the packet in the file, and
this place is a number of 16 bits.

Video is not uploaded: the code that reads it is commented out.
-/

namespace VehicleRecorder.Camera

open NorFlash Bytes Dataflash

/-! ## State -/

/-- `Media_Type`. -/
inductive MediaType
  | picture
  | sound
  deriving DecidableEq, Repr

/-- A packet: the number and the total of its head, and the bytes behind the
heads. -/
structure DataPacket where
  num : ℕ
  total : ℕ
  payload : List UInt8
  deriving DecidableEq, Repr

/-- What the sending of a picture or of the sound works on. -/
structure UploadState where
  dev : Device
  mediaType : MediaType := .picture
  core : MediaState := {}
  /-- `Sound_sdState`. -/
  sound : PhotoSdState := {}
  srcFileSize : ℕ := 0
  /-- What `Original_info` holds from the cursor on. -/
  originalInfo : List UInt8 := []
  sent : List DataPacket := []

namespace UploadState

/-- `Photo_sdState` or `Sound_sdState`. -/
def sd (u : UploadState) : PhotoSdState :=
  match u.mediaType with
  | .picture => u.core.photo
  | .sound => u.sound

def setSd (u : UploadState) (sd : PhotoSdState) : UploadState :=
  match u.mediaType with
  | .picture => { u with core := { u.core with photo := sd } }
  | .sound => { u with sound := sd }

/-- `PicFileSize` or `SrcFileSize`. -/
def fileSize (u : UploadState) : ℕ :=
  match u.mediaType with
  | .picture => u.core.picFileSize
  | .sound => u.srcFileSize

/-- The directory that the packets are read from. -/
def directory (u : UploadState) : DirectoryName :=
  match u.mediaType with
  | .picture => cameraName u.core.cameraNumber
  | .sound => .voice

def rsdState (u : UploadState) : RsdState := u.core.media.rsdState

/-! ## Starting -/

/-- `Photo_send_start` for a camera. -/
def photoSendStart (u : UploadState) (camera : ℕ) : UploadState :=
  { u with
    mediaType := .picture
    core := MediaState.photoSendStart { u.core with
      cameraNumber := camera
      stored := fun k => apiDFdirectoryQuery u.dev (cameraName k) } }

/-- `Sound_send_start`. -/
def soundSendStart (u : UploadState) : UploadState :=
  let size := apiDFdirectoryQuery u.dev .voice
  { u with
    mediaType := .sound
    srcFileSize := size
    sound := { u.sound with
      photoSending := .off
      sdFlag := false
      sdPacketNum := 1
      exeptionTimer := 0
      totalPacketNum := MediaState.packetTotal size }
    core := u.core.mediaStartInit }

/-- `Multimedia_0800H_ACK_process`. -/
def multimedia0800HAckProcess (u : UploadState) : UploadState :=
  match u.mediaType with
  | .picture => { u with core := u.core.multimedia0800HAckProcess }
  | .sound =>
      let core := u.core.mediaClearState
      { u with
        core := { core with
          media := { core.media with transmittingFlag := .position } }
        sound := { u.sound with photoSending := .enable, sdPacketNum := 1 } }

/-! ## Sending -/

/-- The counts of `Photo_Timer` and `Sound_Timer`. -/
def timerLimit : MediaType → ℕ
  | .picture => 12
  | .sound => 14

/-- `Photo_Timer` or `Sound_Timer`. -/
def sdTimer (u : UploadState) : UploadState :=
  if u.sd.photoSending = .enable ∧
      u.sd.sdPacketNum ≤ u.sd.totalPacketNum + 1 ∧ u.rsdState ≠ .waiting then
    if u.sd.dataSdCounter + 1 > timerLimit u.mediaType then
      let u := u.setSd { u.sd with
        dataSdCounter := 0
        exeptionTimer := 0
        sdFlag := true }
      { u with core := { u.core with
          media := { u.core.media with sdDataFlag := true } } }
    else u.setSd { u.sd with dataSdCounter := u.sd.dataSdCounter + 1 }
  else u

/-- The numbers in the head of a packet (`Protocol_Head`). -/
def protocolHead (u : UploadState) : UploadState :=
  { u with core := { u.core with media := { u.core.media with
      totalPacketNum := u.sd.totalPacketNum
      currentPacketNum := u.sd.sdPacketNum } } }

/-- The content of a packet: a page is read, and of it as much is kept as the
file holds from `inadd` on. -/
def content (u : UploadState) : List UInt8 :=
  let page := (apiDFdirectoryRead u.dev u.directory 512 1
    u.core.media.currentPacketNum).2.getD u.originalInfo
  page.take (min 512 (u.fileSize - MediaState.inadd u.sd.sdPacketNum))

/-- The packet handed to `Protocol_End`. -/
def sendPacket (u : UploadState) : UploadState :=
  { u with sent := u.sent ++ [{
      num := u.core.media.currentPacketNum
      total := u.core.media.totalPacketNum
      payload := u.content }] }

/-- `SD_packetNum++` for an upload that is being sent. -/
def nextNum (sd : PhotoSdState) : PhotoSdState :=
  if sd.photoSending = .enable then
    { sd with sdPacketNum := (sd.sdPacketNum + 1) % 65536 }
  else sd

/-- The end of `Stuff_MultiMedia_Data_0801H`: the state behind the packet. -/
def nextPacket (u : UploadState) : UploadState :=
  let media := u.core.media
  let media :=
    if media.totalPacketNum ≤ media.currentPacketNum ∧ media.rsdState = .off
    then { media with rsdState := .waiting, rsdTimer := 0 }
    else media
  match media.rsdState with
  | .off =>
      if media.currentPacketNum < media.totalPacketNum then
        { u with
          core := { u.core with media, photo := nextNum u.core.photo }
          sound := nextNum u.sound }
      else { u with core := { u.core with media } }
  | .resend =>
      let reader := (media.rsdReader + 1) % 256
      { u with core := { u.core with media := { media with
          rsdReader := reader
          rsdState :=
            if reader = media.rsdTotal then .waiting else .resend } } }
  | .waiting => { u with core := { u.core with media } }

/-- The packet is sent if the file reaches up to it and its number is not past
the total. -/
def sendContent (u : UploadState) : UploadState :=
  if MediaState.inadd u.sd.sdPacketNum < u.fileSize ∧
      u.core.media.currentPacketNum ≤ u.core.media.totalPacketNum then
    u.sendPacket.nextPacket
  else u

/-- `Stuff_MultiMedia_Data_0801H` for a picture or the sound. -/
def stuffMultiMediaData0801H (u : UploadState) : UploadState :=
  let u := u.protocolHead
  if u.sd.photoSending = .enable ∧ u.sd.sdFlag then
    (u.setSd { u.sd with sdFlag := false }).sendContent
  else u

/-! ## The uploads of pictures

For a picture the functions do what those on the state of the shots do. -/

variable {u : UploadState}

theorem sd_picture (h : u.mediaType = .picture) : u.sd = u.core.photo := by
  rw [sd, h]

theorem setSd_picture (h : u.mediaType = .picture) (sd : PhotoSdState) :
    u.setSd sd = { u with core := { u.core with photo := sd } } := by
  rw [setSd, h]

theorem fileSize_picture (h : u.mediaType = .picture) :
    u.fileSize = u.core.picFileSize := by
  rw [fileSize, h]

theorem core_sdTimer (h : u.mediaType = .picture) :
    u.sdTimer.core = u.core.photoTimer := by
  rw [sdTimer, MediaState.photoTimer]
  simp only [sd_picture h, setSd_picture h]
  rw [h, apply_ite UploadState.core, apply_ite UploadState.core]
  rfl

theorem core_nextPacket :
    u.nextPacket.core = u.core.nextPacket := by
  rw [nextPacket, MediaState.nextPacket]
  dsimp only
  by_cases hlast : u.core.media.totalPacketNum ≤
      u.core.media.currentPacketNum ∧ u.core.media.rsdState = .off
  · rw [if_pos hlast, if_pos hlast]
  · rw [if_neg hlast, if_neg hlast]
    cases hstate : u.core.media.rsdState with
    | off =>
        dsimp only
        by_cases hmore : u.core.media.currentPacketNum <
            u.core.media.totalPacketNum
        · by_cases hsending : u.core.photo.photoSending = .enable
          · rw [if_pos hmore, if_pos ⟨hmore, hsending⟩, nextNum,
              if_pos hsending]
          · rw [if_pos hmore, if_neg fun h => hsending h.2, nextNum,
              if_neg hsending]
        · rw [if_neg hmore, if_neg fun h => hmore h.1]
    | resend => rfl
    | waiting => rfl

theorem nextPacket_packets (s : MediaState) (packets : List MediaPacket) :
    MediaState.nextPacket { s with packets } =
      { s.nextPacket with packets } := by
  rw [MediaState.nextPacket, MediaState.nextPacket]
  by_cases hlast : s.media.totalPacketNum ≤ s.media.currentPacketNum ∧
      s.media.rsdState = .off
  · rw [if_pos hlast, if_pos hlast]
  · rw [if_neg hlast, if_neg hlast]
    dsimp only
    cases hstate : s.media.rsdState with
    | off => split_ifs <;> rfl
    | resend => rfl
    | waiting => rfl

theorem core_sendContent (h : u.mediaType = .picture) :
    u.sendContent.core =
      { (if MediaState.inadd u.core.photo.sdPacketNum < u.core.picFileSize ∧
            u.core.media.currentPacketNum ≤ u.core.media.totalPacketNum
          then u.core.sendPacket.nextPacket
          else u.core : MediaState) with packets := u.core.packets } := by
  rw [sendContent, sd_picture h, fileSize_picture h]
  by_cases hfits : MediaState.inadd u.core.photo.sdPacketNum <
      u.core.picFileSize ∧
        u.core.media.currentPacketNum ≤ u.core.media.totalPacketNum
  · have hsend : u.core.sendPacket.nextPacket = { u.core.nextPacket with
        packets := u.core.sendPacket.packets } :=
      nextPacket_packets u.core u.core.sendPacket.packets
    rw [if_pos hfits, if_pos hfits, core_nextPacket, hsend]
    exact nextPacket_packets u.core u.core.packets
  · rw [if_neg hfits, if_neg hfits]

/-- The packets are logged apart, the state is the same. -/
theorem core_stuffMultiMediaData0801H (h : u.mediaType = .picture) :
    u.stuffMultiMediaData0801H.core =
      { u.core.stuffMultiMediaData0801H with packets := u.core.packets } := by
  have hhead : u.protocolHead.mediaType = .picture := h
  have hcore : u.protocolHead.core = u.core.protocolHead := by
    rw [protocolHead, sd_picture h, MediaState.protocolHead]
  rw [stuffMultiMediaData0801H, MediaState.stuffMultiMediaData0801H]
  dsimp only
  rw [sd_picture hhead, hcore]
  by_cases hready : u.core.protocolHead.photo.photoSending = .enable ∧
      u.core.protocolHead.photo.sdFlag
  · rw [if_pos hready, if_pos hready, setSd_picture hhead, hcore]
    exact core_sendContent (u := { u.protocolHead with
      core := { u.core.protocolHead with
        photo := { u.core.protocolHead.photo with sdFlag := false } } }) h
  · rw [if_neg hready, if_neg hready, hcore]
    rfl

end UploadState

/-! ## The stored files -/

/-- A file that can be uploaded: the picture of camera `k+1`, or the sound. -/
inductive Medium
  | picture (k : Fin 4)
  | sound
  deriving DecidableEq, Repr

namespace Medium

def mediaType : Medium → MediaType
  | .picture _ => .picture
  | .sound => .sound

def directory : Medium → DirectoryName
  | .picture k => cameraName (k + 1)
  | .sound => .voice

/-- The page with the header. -/
def headerPage : Medium → ℕ
  | .picture k => (picFirstPage (k + 1)).getD 0
  | .sound => soundStartOffset

/-- The size in the header. -/
def size (m : Medium) (d : Device) : ℕ := apiDFdirectoryQuery d m.directory

/-- A byte of the flash under an address of three bytes. -/
def flashByte (d : Device) (addr : ℕ) : UInt8 := sst25vByteRead d.chip addr

/-- The bytes from the page behind the header on. -/
def bytes (m : Medium) (d : Device) (n : ℕ) : List UInt8 :=
  readBytes (flashByte d) ((m.headerPage + 1) * 512) n

/-- A packet is read from the page of its number. -/
theorem read (m : Medium) (d : Device) (n : ℕ) :
    (apiDFdirectoryRead d m.directory 512 1 n).2 =
      some (dfReadFlash d.chip (m.headerPage + n) 0 512) := by
  match m with
  | .picture 0 => rfl
  | .picture 1 => rfl
  | .picture 2 => rfl
  | .picture 3 => rfl
  | .sound => rfl

theorem dfReadFlash_page (d : Device) (page : ℕ) :
    dfReadFlash d.chip page 0 512 =
      readBytes (flashByte d) (page * 512) 512 := by
  apply List.ext_getElem?
  intro i
  rw [getElem?_readBytes, dfReadFlash, List.getElem?_map]
  by_cases hi : i < 512
  · have haddr : spiAddress (u16 page * pageSize + (u16 0 + i)) =
        spiAddress (page * 512 + i) := by
      simp only [spiAddress, u16, pageSize]
      omega
    rw [if_pos hi, List.getElem?_range hi, Option.map_some, sst25vByteRead,
      haddr, flashByte, sst25vByteRead]
  · rw [if_neg hi, List.getElem?_eq_none (by simp [u16]; omega),
      Option.map_none]

theorem take_page (m : Medium) (d : Device) (n len : ℕ) :
    (dfReadFlash d.chip (m.headerPage + (n + 1)) 0 512).take (min 512 len) =
      readBytes (flashByte d) ((m.headerPage + 1) * 512 + n * 512)
        (min 512 len) := by
  have haddr : (m.headerPage + (n + 1)) * 512 =
      (m.headerPage + 1) * 512 + n * 512 := by ring
  have hsplit := readBytes_add (flashByte d)
    ((m.headerPage + 1) * 512 + n * 512) (min 512 len) (512 - min 512 len)
  have hlen : min 512 len + (512 - min 512 len) = 512 := by omega
  rw [hlen] at hsplit
  rw [dfReadFlash_page, haddr, hsplit, List.take_left' (readBytes_length _ _ _)]

end Medium

namespace UploadState

/-! ## A run of packets -/

/-- The upload of a file: it is started, and the event message is answered. -/
def startUpload (u : UploadState) (m : Medium) : UploadState :=
  let u := { u with sent := [] }
  match m with
  | .picture k => (u.photoSendStart (k + 1)).multimedia0800HAckProcess
  | .sound => u.soundSendStart.multimedia0800HAckProcess

/-- The timer and the calls that send, in any order. -/
inductive SendEvent
  | sdTimer
  | stuffMultiMediaData0801H
  deriving DecidableEq, Repr

def sendStep (u : UploadState) : SendEvent → UploadState
  | .sdTimer => u.sdTimer
  | .stuffMultiMediaData0801H => u.stuffMultiMediaData0801H

/-- A packet of a file of `size` bytes, as it is sent. -/
def packetAt (m : Medium) (d : Device) (size n : ℕ) : DataPacket where
  num := n + 1
  total := MediaState.packetTotal size
  payload := readBytes (Medium.flashByte d)
    ((m.headerPage + 1) * 512 + n * 512)
    (min 512 (size - MediaState.inadd (n + 1)))

/-- `k` packets of a file have been sent. -/
structure Sending (m : Medium) (d : Device) (size k : ℕ) (u : UploadState) :
    Prop where
  dev : u.dev = d
  mediaType : u.mediaType = m.mediaType
  directory : u.directory = m.directory
  fileSize : u.fileSize = size
  sending : u.sd.photoSending = .enable
  total : u.sd.totalPacketNum = MediaState.packetTotal size
  count : k ≤ MediaState.packetTotal size
  num : u.sd.sdPacketNum = min (k + 1) (MediaState.packetTotal size)
  state : u.rsdState =
    if k = MediaState.packetTotal size then .waiting else .off
  flag : k = MediaState.packetTotal size → u.sd.sdFlag = false
  sent : u.sent = (List.range k).map (packetAt m d size)

/-- The packets of a file can be counted. -/
def Countable (size : ℕ) : Prop := 1 ≤ size ∧ size ≤ 65535 * 512

variable {m : Medium} {d : Device} {size k : ℕ}

theorem packetTotal_of_countable (h : Countable size) :
    MediaState.packetTotal size = (size + 511) / 512 := by
  rw [Countable] at h
  rw [MediaState.packetTotal]
  split_ifs <;> omega

/-- A picture whose size is not zero is ready to be sent once the event message
is answered. -/
structure Ready (size : ℕ) (s : MediaState) : Prop where
  sending : s.photo.photoSending = .enable
  num : s.photo.sdPacketNum = 1
  total : s.photo.totalPacketNum = MediaState.packetTotal size
  size : s.picFileSize = size
  state : s.media.rsdState = .off

theorem ready_photoSendStart {s : MediaState}
    (hcamera : 1 ≤ s.cameraNumber ∧ s.cameraNumber ≤ 4)
    (htotal : MediaState.packetTotal (s.stored s.cameraNumber) ≠ 0) :
    Ready (s.stored s.cameraNumber)
      s.photoSendStart.multimedia0800HAckProcess ∧
      s.photoSendStart.multimedia0800HAckProcess.cameraNumber =
        s.cameraNumber := by
  have hsize : s.queriedSize = s.stored s.cameraNumber := if_pos hcamera
  have hgo : ¬ (s.cameraNumber = 0 ∨
      MediaState.packetTotal (s.stored s.cameraNumber) = 0) := by
    rintro (hzero | hzero)
    · omega
    · exact htotal hzero
  rw [MediaState.photoSendStart]
  dsimp only
  rw [hsize, if_neg hgo]
  exact ⟨⟨rfl, rfl, rfl, rfl, rfl⟩, rfl⟩

theorem startUpload_sending (u : UploadState) (m : Medium)
    (h : Countable (m.size u.dev)) :
    Sending m u.dev (m.size u.dev) 0 (u.startUpload m) := by
  have htotal := packetTotal_of_countable h
  have hpos : 1 ≤ MediaState.packetTotal (m.size u.dev) := by
    rw [htotal]
    rw [Countable] at h
    omega
  have hnum : 1 = min (0 + 1) (MediaState.packetTotal (m.size u.dev)) := by
    omega
  have hstate : RsdState.off =
      if 0 = MediaState.packetTotal (m.size u.dev) then .waiting else .off :=
    (if_neg (by omega)).symm
  cases m with
  | picture k =>
      have hk := k.isLt
      obtain ⟨hready, hcamera⟩ := ready_photoSendStart (s := { u.core with
        cameraNumber := k + 1
        stored := fun j => apiDFdirectoryQuery u.dev (cameraName j) })
        ⟨Nat.le_add_left 1 k, hk⟩ (Nat.ne_of_gt hpos)
      exact
        { dev := rfl
          mediaType := rfl
          directory := congrArg cameraName hcamera
          fileSize := hready.size
          sending := hready.sending
          total := hready.total
          count := Nat.zero_le _
          num := hready.num.trans hnum
          state := hready.state.trans hstate
          flag := fun hzero => absurd hzero (by omega)
          sent := rfl }
  | sound =>
      exact
        { dev := rfl
          mediaType := rfl
          directory := rfl
          fileSize := rfl
          sending := rfl
          total := rfl
          count := Nat.zero_le _
          num := hnum
          state := hstate
          flag := fun hzero => absurd hzero (by omega)
          sent := rfl }

/-! ## Steps of the run -/

/-- What `setSd` leaves as it is. -/
theorem setSd_keeps (u : UploadState) (sd : PhotoSdState) :
    (u.setSd sd).dev = u.dev ∧ (u.setSd sd).mediaType = u.mediaType ∧
      (u.setSd sd).directory = u.directory ∧
      (u.setSd sd).fileSize = u.fileSize ∧ (u.setSd sd).sd = sd ∧
      (u.setSd sd).core.media = u.core.media ∧ (u.setSd sd).sent = u.sent := by
  obtain ⟨dev, mediaType, core, sound, size, info, sent⟩ := u
  cases mediaType <;> exact ⟨rfl, rfl, rfl, rfl, rfl, rfl, rfl⟩

variable {u : UploadState}

/-- The sending goes on when neither its numbers nor what has been sent
change. -/
theorem Sending.setSd (h : Sending m d size k u) (sd : PhotoSdState)
    (hsending : sd.photoSending = u.sd.photoSending)
    (htotal : sd.totalPacketNum = u.sd.totalPacketNum)
    (hnum : sd.sdPacketNum = u.sd.sdPacketNum)
    (hflag : k = MediaState.packetTotal size → sd.sdFlag = false) :
    Sending m d size k (u.setSd sd) := by
  obtain ⟨hdev, htype, hdir, hsize, hsd, hmedia, hsent⟩ := u.setSd_keeps sd
  exact
    { dev := hdev.trans h.dev
      mediaType := htype.trans h.mediaType
      directory := hdir.trans h.directory
      fileSize := hsize.trans h.fileSize
      sending := by rw [hsd, hsending, h.sending]
      total := by rw [hsd, htotal, h.total]
      count := h.count
      num := by rw [hsd, hnum, h.num]
      state := by rw [rsdState, hmedia]; exact h.state
      flag := by rw [hsd]; exact hflag
      sent := hsent.trans h.sent }

/-- The sending goes on when other members of `MediaObj` change. -/
theorem Sending.setMedia (h : Sending m d size k u) {media : MultiMedia}
    (hstate : media.rsdState = u.core.media.rsdState) :
    Sending m d size k { u with core := { u.core with media } } where
  dev := h.dev
  mediaType := h.mediaType
  directory := h.directory
  fileSize := h.fileSize
  sending := h.sending
  total := h.total
  count := h.count
  num := h.num
  state := hstate.trans h.state
  flag := h.flag
  sent := h.sent

theorem Sending.sdTimer (h : Sending m d size k u) :
    Sending m d size k u.sdTimer := by
  rw [UploadState.sdTimer]
  split_ifs with hready
  · have hk : k ≠ MediaState.packetTotal size := by
      intro heq
      exact hready.2.2 (h.state.trans (if_pos heq))
    have hraised := h.setSd { u.sd with
      dataSdCounter := 0
      exeptionTimer := 0
      sdFlag := true } rfl rfl rfl fun heq => absurd heq hk
    exact hraised.setMedia rfl
  · exact h.setSd _ rfl rfl rfl h.flag
  · exact h

theorem Sending.content (h : Sending m d size k u)
    (hk : k < MediaState.packetTotal size)
    (hcurrent : u.core.media.currentPacketNum = u.sd.sdPacketNum) :
    u.content = (packetAt m d size k).payload := by
  have hnum : u.sd.sdPacketNum = k + 1 := by
    rw [h.num]
    omega
  rw [UploadState.content, hcurrent, hnum, h.dev, h.directory, h.fileSize,
    m.read, Option.getD_some, m.take_page, packetAt]

theorem nextPacket_of_last (hstate : u.rsdState = .off)
    (hlast : u.core.media.totalPacketNum ≤ u.core.media.currentPacketNum) :
    u.nextPacket = { u with core := { u.core with media := { u.core.media with
      rsdState := .waiting
      rsdTimer := 0 } } } := by
  rw [nextPacket]
  dsimp only
  rw [if_pos ⟨hlast, hstate⟩]

theorem nextPacket_of_more (hstate : u.rsdState = .off)
    (hmore : u.core.media.currentPacketNum < u.core.media.totalPacketNum) :
    u.nextPacket = { u with
      core := { u.core with photo := nextNum u.core.photo }
      sound := nextNum u.sound } := by
  have hlast : ¬ (u.core.media.totalPacketNum ≤ u.core.media.currentPacketNum ∧
      u.core.media.rsdState = .off) := fun h => Nat.not_le_of_lt hmore h.1
  have hoff : u.core.media.rsdState = .off := hstate
  rw [nextPacket]
  dsimp only
  rw [if_neg hlast, hoff]
  dsimp only
  rw [if_pos hmore]

theorem nextNum_of_enable {sd : PhotoSdState} (h : sd.photoSending = .enable) :
    nextNum sd = { sd with sdPacketNum := (sd.sdPacketNum + 1) % 65536 } :=
  if_pos h

/-- Both numbers are moved on, whatever is uploaded. -/
theorem nextNums_keeps (u : UploadState) :
    let u' : UploadState := { u with
      core := { u.core with photo := nextNum u.core.photo }
      sound := nextNum u.sound }
    u'.sd = nextNum u.sd ∧ u'.directory = u.directory ∧
      u'.fileSize = u.fileSize := by
  obtain ⟨dev, mediaType, core, sound, size, info, sent⟩ := u
  cases mediaType <;> exact ⟨rfl, rfl, rfl⟩

/-- One more packet is sent. -/
theorem Sending.sendContent (h : Sending m d size k u) (hcount : Countable size)
    (hk : k < MediaState.packetTotal size)
    (hcurrent : u.core.media.currentPacketNum = u.sd.sdPacketNum)
    (htotal : u.core.media.totalPacketNum = u.sd.totalPacketNum)
    (hflag : u.sd.sdFlag = false) :
    Sending m d size (k + 1) u.sendContent := by
  have hT := packetTotal_of_countable hcount
  rw [Countable] at hcount
  have hnum : u.sd.sdPacketNum = k + 1 := by
    rw [h.num]
    omega
  have hstate : u.sendPacket.rsdState = .off :=
    h.state.trans (if_neg (by omega))
  have hfits : MediaState.inadd u.sd.sdPacketNum < u.fileSize ∧
      u.core.media.currentPacketNum ≤ u.core.media.totalPacketNum := by
    rw [hcurrent, htotal, h.total, h.fileSize, hnum, MediaState.inadd]
    omega
  have hsent : u.sendPacket.sent =
      (List.range (k + 1)).map (packetAt m d size) := by
    have hpacket : (⟨u.core.media.currentPacketNum,
        u.core.media.totalPacketNum, u.content⟩ : DataPacket) =
          packetAt m d size k := by
      rw [h.content hk hcurrent, hcurrent, htotal, h.total, hnum, packetAt]
    rw [sendPacket, hpacket, h.sent, List.range_succ, List.map_append,
      List.map_singleton]
  rw [UploadState.sendContent, if_pos hfits]
  by_cases hlast : k + 1 = MediaState.packetTotal size
  · have hle : u.sendPacket.core.media.totalPacketNum ≤
        u.sendPacket.core.media.currentPacketNum := by
      change u.core.media.totalPacketNum ≤ u.core.media.currentPacketNum
      rw [hcurrent, htotal, h.total, hnum, hlast]
    rw [nextPacket_of_last hstate hle]
    exact
      { dev := h.dev
        mediaType := h.mediaType
        directory := h.directory
        fileSize := h.fileSize
        sending := h.sending
        total := h.total
        count := Nat.le_of_eq hlast
        num := h.num.trans (by omega)
        state := (if_pos hlast).symm
        flag := fun _ => hflag
        sent := hsent }
  · have hlt : u.sendPacket.core.media.currentPacketNum <
        u.sendPacket.core.media.totalPacketNum := by
      change u.core.media.currentPacketNum < u.core.media.totalPacketNum
      rw [hcurrent, htotal, h.total, hnum]
      omega
    obtain ⟨hsd, hdir, hsize⟩ := nextNums_keeps u.sendPacket
    have hnext : nextNum u.sendPacket.sd =
        { u.sd with sdPacketNum := (u.sd.sdPacketNum + 1) % 65536 } :=
      nextNum_of_enable h.sending
    rw [hnext] at hsd
    rw [nextPacket_of_more hstate hlt]
    exact
      { dev := h.dev
        mediaType := h.mediaType
        directory := hdir.trans h.directory
        fileSize := hsize.trans h.fileSize
        sending := by rw [hsd]; exact h.sending
        total := by rw [hsd]; exact h.total
        count := by omega
        num := by
          rw [hsd]
          dsimp only
          rw [hnum]
          omega
        state := hstate.trans (if_neg hlast).symm
        flag := fun heq => absurd heq hlast
        sent := hsent }

theorem Sending.protocolHead (h : Sending m d size k u) :
    Sending m d size k u.protocolHead :=
  h.setMedia rfl

theorem protocolHead_sd (u : UploadState) : u.protocolHead.sd = u.sd := by
  obtain ⟨dev, mediaType, core, sound, size, info, sent⟩ := u
  cases mediaType <;> rfl

/-- A call sends the next packet if the flag is up, and nothing otherwise. -/
theorem Sending.stuff (h : Sending m d size k u) (hcount : Countable size) :
    Sending m d size (if u.sd.sdFlag then k + 1 else k)
      u.stuffMultiMediaData0801H := by
  have hhead := h.protocolHead
  have hsending := h.sending
  rw [stuffMultiMediaData0801H]
  dsimp only
  rw [protocolHead_sd]
  by_cases hflag : u.sd.sdFlag
  · rw [if_pos hflag, if_pos ⟨hsending, hflag⟩]
    have hk : k < MediaState.packetTotal size := by
      have hne : k ≠ MediaState.packetTotal size := by
        intro heq
        rw [h.flag heq] at hflag
        exact absurd hflag (by decide)
      exact Nat.lt_of_le_of_ne h.count hne
    have hsend := hhead.setSd { u.sd with sdFlag := false }
      (by rw [protocolHead_sd]) (by rw [protocolHead_sd])
      (by rw [protocolHead_sd]) fun _ => rfl
    obtain ⟨-, -, -, -, hsd, hmedia, -⟩ :=
      u.protocolHead.setSd_keeps { u.sd with sdFlag := false }
    refine hsend.sendContent hcount hk ?_ ?_ ?_
    · rw [hsd, hmedia]
      rfl
    · rw [hsd, hmedia]
      rfl
    · rw [hsd]
  · rw [if_neg hflag, if_neg fun hready => hflag hready.2]
    exact hhead

/-! ## Whole runs -/

def runSending (es : List SendEvent) (u : UploadState) : UploadState :=
  es.foldl sendStep u

theorem runSending_append (es es' : List SendEvent) (u : UploadState) :
    runSending (es ++ es') u = runSending es' (runSending es u) :=
  List.foldl_append

/-- In every run as many packets have been sent as there were calls with the
flag up. -/
theorem exists_sending (hcount : Countable size) (h : Sending m d size k u)
    (es : List SendEvent) :
    ∃ k', Sending m d size k' (runSending es u) := by
  induction es generalizing k u with
  | nil => exact ⟨k, h⟩
  | cons e es ih =>
      cases e with
      | sdTimer => exact ih h.sdTimer
      | stuffMultiMediaData0801H => exact ih (h.stuff hcount)

/-- The timer puts the flag up or counts. -/
theorem Sending.sdTimer_counts (h : Sending m d size k u)
    (hk : k < MediaState.packetTotal size) :
    u.sdTimer.sd.sdFlag = true ∨
      u.sd.dataSdCounter < timerLimit m.mediaType ∧
        u.sdTimer.sd.dataSdCounter = u.sd.dataSdCounter + 1 := by
  have hready : u.sd.photoSending = .enable ∧
      u.sd.sdPacketNum ≤ u.sd.totalPacketNum + 1 ∧ u.rsdState ≠ .waiting := by
    refine ⟨h.sending, ?_, ?_⟩
    · rw [h.num, h.total]
      omega
    · rw [h.state, if_neg (Nat.ne_of_lt hk)]
      decide
  rw [UploadState.sdTimer, if_pos hready, h.mediaType]
  by_cases hover : u.sd.dataSdCounter + 1 > timerLimit m.mediaType
  · left
    rw [if_pos hover]
    obtain ⟨-, -, -, -, hsd, -, -⟩ := u.setSd_keeps { u.sd with
      dataSdCounter := 0
      exeptionTimer := 0
      sdFlag := true }
    obtain ⟨dev, mediaType, core, sound, size, info, sent⟩ := u
    cases mediaType <;> rfl
  · right
    rw [if_neg hover]
    obtain ⟨-, -, -, -, hsd, -, -⟩ := u.setSd_keeps { u.sd with
      dataSdCounter := u.sd.dataSdCounter + 1 }
    rw [hsd]
    exact ⟨by omega, rfl⟩

theorem Sending.exists_flag (h : Sending m d size k u)
    (hk : k < MediaState.packetTotal size) :
    ∃ es, Sending m d size k (runSending es u) ∧
      (runSending es u).sd.sdFlag = true := by
  -- by the ticks that are left until the counter is over
  generalize hn : timerLimit m.mediaType - u.sd.dataSdCounter = n
  induction n generalizing u with
  | zero =>
      refine ⟨[.sdTimer], h.sdTimer, ?_⟩
      rcases h.sdTimer_counts hk with hflag | ⟨hlt, -⟩
      · exact hflag
      · omega
  | succ n ih =>
      rcases h.sdTimer_counts hk with hflag | ⟨hlt, hnext⟩
      · exact ⟨[.sdTimer], h.sdTimer, hflag⟩
      · obtain ⟨es, hsending, hflag⟩ := ih h.sdTimer (by omega)
        exact ⟨.sdTimer :: es, hsending, hflag⟩

/-- Every run can be continued until the last packet has been sent. -/
theorem Sending.exists_complete (h : Sending m d size k u)
    (hcount : Countable size) :
    ∃ es, Sending m d size (MediaState.packetTotal size)
      (runSending es u) := by
  generalize hn : MediaState.packetTotal size - k = n
  induction n generalizing k u with
  | zero =>
      have hk := h.count
      obtain rfl : k = MediaState.packetTotal size := by omega
      exact ⟨[], h⟩
  | succ n ih =>
      obtain ⟨es, hsending, hflag⟩ := h.exists_flag (by omega)
      have hnext := hsending.stuff hcount
      rw [if_pos hflag] at hnext
      obtain ⟨es', hcomplete⟩ := ih hnext (by omega)
      refine ⟨es ++ .stuffMultiMediaData0801H :: es', ?_⟩
      rw [runSending_append]
      exact hcomplete

/-- The packets are numbered in order, the list is waited for exactly when the
last one has been sent, and then they carry the file. -/
structure Carried (m : Medium) (d : Device) (size : ℕ) (u : UploadState) :
    Prop where
  nums : u.sent.map DataPacket.num = List.range' 1 u.sent.length
  totals : ∀ p ∈ u.sent, p.total = (size + 511) / 512
  count : u.sent.length ≤ (size + 511) / 512
  waiting : u.rsdState = .waiting ↔ u.sent.length = (size + 511) / 512
  file : u.sent.length = (size + 511) / 512 →
    u.sent.flatMap DataPacket.payload = m.bytes d size

/-- Every run sends a beginning of the packets, and can be continued to the
last of them. -/
def CarriesFile (m : Medium) (d : Device) (size : ℕ) (u : UploadState) : Prop :=
  (∀ es, Carried m d size (runSending es u)) ∧
    ∀ es, ∃ es',
      (runSending (es ++ es') u).sent.length = (size + 511) / 512

/-- The places of the packets are numbers of 16 bits, or all packets are
full. -/
def PlacesFit (size : ℕ) : Prop := size ≤ 65536 ∨ size % 512 = 0

/-- The payloads of all packets. -/
theorem flatMap_payload_iff (m : Medium) (d : Device) (hcount : Countable size) :
    (List.range ((size + 511) / 512)).flatMap
        (fun n => (packetAt m d size n).payload) = m.bytes d size ↔
      PlacesFit size := by
  rw [Countable] at hcount
  constructor
  · intro h
    by_contra hfit
    rw [PlacesFit, not_or] at hfit
    have hfull : ∀ n ∈ List.range ((size + 511) / 512),
        ((packetAt m d size n).payload).length = 512 := by
      intro n hn
      have hlt := List.mem_range.mp hn
      rw [packetAt, readBytes_length, MediaState.inadd]
      omega
    have hlen := congrArg List.length h
    rw [List.length_flatMap, List.map_congr_left hfull, List.map_const',
      List.sum_replicate_nat, List.length_range, Medium.bytes, readBytes_length]
      at hlen
    omega
  · intro hfit
    rw [PlacesFit] at hfit
    have hpieces := flatMap_readBytes (Medium.flashByte d)
      ((m.headerPage + 1) * 512) 512 size ((size + 511) / 512)
    have hall : min ((size + 511) / 512 * 512) size = size := by omega
    rw [hall] at hpieces
    rw [Medium.bytes, ← hpieces]
    apply List.flatMap_congr
    intro n hn
    have hlt := List.mem_range.mp hn
    have hlen : min 512 (size - MediaState.inadd (n + 1)) =
        min 512 (size - n * 512) := by
      rw [MediaState.inadd]
      omega
    rw [packetAt, hlen]

/-- What has been sent of a file, apart from the payloads. -/
theorem Sending.carried (h : Sending m d size k u) (hcount : Countable size)
    (hfile : k = (size + 511) / 512 →
      u.sent.flatMap DataPacket.payload = m.bytes d size) :
    Carried m d size u := by
  have hT := packetTotal_of_countable hcount
  have hlen : u.sent.length = k := by
    rw [h.sent, List.length_map, List.length_range]
  have hk := h.count
  rw [hT] at hk
  refine ⟨?_, ?_, ?_, ?_, ?_⟩
  · rw [hlen, h.sent, List.map_map, List.range'_eq_map_range]
    apply List.map_congr_left
    intro n _
    exact Nat.add_comm n 1
  · intro p hp
    rw [h.sent] at hp
    obtain ⟨n, -, rfl⟩ := List.mem_map.mp hp
    exact hT
  · rw [hlen]
    exact hk
  · rw [hlen, h.state, hT]
    split_ifs with hlast
    · exact iff_of_true rfl hlast
    · exact iff_of_false nofun hlast
  · rw [hlen]
    exact hfile

theorem Sending.payloads (h : Sending m d size k u) :
    u.sent.flatMap DataPacket.payload =
      (List.range k).flatMap fun n => (packetAt m d size n).payload := by
  rw [h.sent, List.flatMap_map]

theorem carriesFile_iff_of_sending (h : Sending m d size 0 u)
    (hcount : Countable size) : CarriesFile m d size u ↔ PlacesFit size := by
  have hT := packetTotal_of_countable hcount
  rw [← flatMap_payload_iff m d hcount]
  constructor
  · rintro ⟨hruns, -⟩
    obtain ⟨es, hcomplete⟩ := h.exists_complete hcount
    rw [hT] at hcomplete
    have hlen : (runSending es u).sent.length = (size + 511) / 512 := by
      rw [hcomplete.sent, List.length_map, List.length_range]
    rw [← hcomplete.payloads]
    exact (hruns es).file hlen
  · intro hfile
    constructor
    · intro es
      obtain ⟨k, hk⟩ := exists_sending hcount h es
      refine hk.carried hcount ?_
      rintro rfl
      rw [hk.payloads]
      exact hfile
    · intro es
      obtain ⟨k, hk⟩ := exists_sending hcount h es
      obtain ⟨es', hcomplete⟩ := hk.exists_complete hcount
      refine ⟨es', ?_⟩
      rw [runSending_append, hcomplete.sent, List.length_map, List.length_range,
        hT]

/-- The upload of a file whose packets can be counted carries it, in every
order of the timer and the calls, exactly when the file ends within 64 KB or with
a full packet. -/
theorem carriesFile_iff (u : UploadState) (m : Medium)
    (h : Countable (m.size u.dev)) :
    CarriesFile m u.dev (m.size u.dev) (u.startUpload m) ↔
      PlacesFit (m.size u.dev) :=
  carriesFile_iff_of_sending (startUpload_sending u m h) h

/-- A flash with a picture of camera 1 of `n` bytes that are all zero. -/
def withPicture (n : ℕ) : UploadState where
  dev := { Device.initial with
    chip := { Device.initial.chip with
      flash := fun x =>
        if picStartOffset * 512 + 19 ≤ x then
          (leBytes 4 n).getD (x - (picStartOffset * 512 + 19)) 0
        else 0 } }

theorem carriesFile_iff_withPicture :
    CarriesFile (.picture 0) (withPicture 700).dev (Medium.size (.picture 0)
        (withPicture 700).dev) ((withPicture 700).startUpload (.picture 0)) ↔
      PlacesFit (Medium.size (.picture 0) (withPicture 700).dev) :=
  carriesFile_iff (withPicture 700) (.picture 0) ⟨by decide, by decide⟩

/-- Of the last packet of a picture of 66000 bytes a whole page is sent. -/
theorem not_carriesFile :
    ¬ CarriesFile (.picture 0) (withPicture 66000).dev 66000
      ((withPicture 66000).startUpload (.picture 0)) := by
  have hsize : Medium.size (.picture 0) (withPicture 66000).dev = 66000 := by
    decide
  have hcount : Countable (Medium.size (.picture 0) (withPicture 66000).dev) := by
    rw [hsize]
    exact ⟨by decide, by decide⟩
  have hsending := startUpload_sending (withPicture 66000) (.picture 0) hcount
  rw [hsize] at hsending hcount
  rw [carriesFile_iff_of_sending hsending hcount, PlacesFit]
  decide

end UploadState

end VehicleRecorder.Camera
