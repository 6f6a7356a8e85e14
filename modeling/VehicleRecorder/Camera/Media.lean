import VehicleRecorder.Lib.Bytes

/-!
# Shots and uploads

The state that the shots of the cameras and the upload of a picture share, and
the functions that work on it.  A run over all cameras (`MultiTake_Start`) takes
the pictures one after the other and then uploads them one after the other;
`Check_MultiTakeResult_b4Trans` starts the next upload.

Sound and video are not uploaded here: `Media_Type` is that of a picture.
-/

namespace VehicleRecorder.Camera

open Bytes

/-! ## State -/

/-- `photo_sending`: off, `enable` while packets are sent, and `other` from
`Photo_send_start` on. -/
inductive Sending
  | off
  | enable
  | other
  deriving DecidableEq, Repr

/-- `_Media_SD_state` of the pictures. -/
structure PhotoSdState where
  sdFlag : Bool := false
  photoSending : Sending := .off
  sdPacketNum : ℕ := 0
  totalPacketNum : ℕ := 0
  dataSdCounter : ℕ := 0
  exeptionTimer : ℕ := 0
  deriving DecidableEq, Repr

/-- `SD_media_Flag`: the event message is to be sent, or has been. -/
inductive MediaFlag
  | off
  | send
  | sent
  deriving DecidableEq, Repr

/-- `Media_transmittingFlag`: a position goes before the packets. -/
inductive Transmitting
  | off
  | position
  | data
  deriving DecidableEq, Repr

/-- `RSD_State`: packets are sent in order, or from the list of the centre, or
the list is waited for. -/
inductive RsdState
  | off
  | resend
  | waiting
  deriving DecidableEq, Repr

/-- `MediaObj`. -/
structure MultiMedia where
  sdEventstate : Bool := false
  sdMediaFlag : MediaFlag := .off
  sdDataFlag : Bool := false
  sdTimer : ℕ := 0
  maxSdCounter : ℕ := 0
  transmittingFlag : Transmitting := .off
  totalPacketNum : ℕ := 0
  currentPacketNum : ℕ := 0
  rsdState : RsdState := .off
  rsdTimer : ℕ := 0
  rsdReader : ℕ := 0
  rsdTotal : ℕ := 0
  /-- The numbers of the list that lie in `Media_ReSdList[10]`. -/
  reSdList : List UInt8 := []
  deriving DecidableEq, Repr

/-- `Take_idle`, `Take_Success` and `Take_Fail`. -/
inductive TakeResult
  | idle
  | success
  | fail
  deriving DecidableEq, Repr

/-- `_MultiTake`; the result of camera `k` is `takeResult (k-1)`. -/
structure MultiTake where
  taking : Bool := false
  transfering : Bool := false
  curretCameraNum : ℕ := 0
  takeResult : ℕ → TakeResult := fun _ => .idle
  takeRetry : ℕ := 0
  takeSuccessCounter : ℕ := 0

/-- The states of a shot. -/
inductive CameraStatus
  | enable
  | transfer
  | other
  deriving DecidableEq, Repr

/-- `Camera_state`. -/
structure CameraState where
  cameraRunning : Bool := false
  timeoutCounter : ℕ := 0
  status : CameraStatus := .other
  operateFlag : Bool := false
  createFlag : Bool := false
  deriving DecidableEq, Repr

/-- A packet as it is handed to `Protocol_End`: the number and the total of its
head, the length of its payload, and the size of the picture it is read from. -/
structure MediaPacket where
  camera : ℕ
  num : ℕ
  total : ℕ
  readsize : ℕ
  size : ℕ
  deriving DecidableEq, Repr

/-- What the shots and the uploads work on. -/
structure MediaState where
  photo : PhotoSdState := {}
  media : MultiMedia := {}
  multi : MultiTake := {}
  camera : CameraState := {}
  cameraNumber : ℕ := 1
  picFileSize : ℕ := 0
  picCurrentPage : ℕ := 0
  /-- The size that the directory gives for the picture of a camera. -/
  stored : ℕ → ℕ := fun _ => 0xFFFFFFFF
  /-- The bytes behind `Media_ReSdList`, which are not of `MediaObj`. -/
  behind : ℕ → UInt8 := fun _ => 0
  tx485constEnable : Bool := false
  singleCameraTakeRetry : ℕ := 0
  singleCamraTakeResualtBd : Bool := false
  ispRunning : Bool := false
  openDoorStartTakeFlag : Bool := false
  opendoorTransFlag : ℕ := 2
  /-- The cameras of the shots that were started. -/
  shots : List ℕ := []
  /-- The cameras of the pictures that were completed. -/
  completed : List ℕ := []
  /-- The cameras of the uploads that were started. -/
  uploads : List ℕ := []
  packets : List MediaPacket := []

/-- `Max_CameraNum`. -/
abbrev maxCameraNum : ℕ := 4

namespace MediaState

/-! ## The upload of a picture -/

/-- `Media_Clear_State`. -/
def mediaClearState (s : MediaState) : MediaState :=
  { s with media := { s.media with
      maxSdCounter := 0
      sdEventstate := false
      sdTimer := 0
      sdMediaFlag := .off
      sdDataFlag := false
      rsdState := .off
      rsdTimer := 0
      rsdTotal := 0
      rsdReader := 0
      transmittingFlag := .off } }

/-- `Media_Start_Init(0,0)`. -/
def mediaStartInit (s : MediaState) : MediaState :=
  { s with media := { s.media with
      sdMediaFlag := .send
      sdEventstate := true
      rsdState := .off
      rsdTimer := 0
      rsdTotal := 0
      rsdReader := 0
      sdDataFlag := false
      transmittingFlag := .off } }

/-- `Photo_send_end`. -/
def photoSendEnd (s : MediaState) : MediaState :=
  mediaClearState { s with photo := { s.photo with
    photoSending := .off
    sdFlag := false
    sdPacketNum := 0
    totalPacketNum := 0
    exeptionTimer := 0 } }

/-- The number of packets of a picture, as it is computed in 16 bits. -/
def packetTotal (size : ℕ) : ℕ :=
  (if size % 512 ≠ 0 then size / 512 + 1 else size / 512) % 65536

/-- The size that `Photo_send_start` asks the directory for. -/
def queriedSize (s : MediaState) : ℕ :=
  if 1 ≤ s.cameraNumber ∧ s.cameraNumber ≤ 4 then s.stored s.cameraNumber
  else s.picFileSize

/-- `Photo_send_start`. -/
def photoSendStart (s : MediaState) : MediaState :=
  let s :=
    { s with
      photo := { s.photo with
        photoSending := .other
        sdFlag := false
        sdPacketNum := 1
        exeptionTimer := 0
        totalPacketNum := packetTotal s.queriedSize }
      picFileSize := s.queriedSize
      uploads := s.uploads ++ [s.cameraNumber] }
  let s :=
    if s.cameraNumber = 0 ∨ s.photo.totalPacketNum = 0 then s.photoSendEnd
    else s
  s.mediaStartInit

/-- `Multimedia_0800H_ACK_process`. -/
def multimedia0800HAckProcess (s : MediaState) : MediaState :=
  let s := s.mediaClearState
  { s with
    media := { s.media with transmittingFlag := .position }
    photo := { s.photo with photoSending := .enable, sdPacketNum := 1 } }

/-- `MultiTake_End`. -/
def multiTakeEnd (s : MediaState) : MediaState :=
  { s with multi := { s.multi with
      taking := false
      transfering := false
      curretCameraNum := 1
      takeResult := fun _ => .idle
      takeRetry := 0
      takeSuccessCounter := 0 } }

/-- The first camera with a picture to upload, less 1. -/
def firstSuccess (s : MediaState) : Option ℕ :=
  (List.range maxCameraNum).find? fun i => s.multi.takeResult i = .success

/-- The number of pictures to upload. -/
def successCount (s : MediaState) : ℕ :=
  (List.range maxCameraNum).countP fun i => s.multi.takeResult i = .success

/-- `Check_MultiTakeResult_b4Trans`. -/
def checkMultiTakeResult (s : MediaState) : MediaState :=
  match s.firstSuccess with
  | some i =>
      photoSendStart
        { s with
          multi := { s.multi with
            transfering := true
            takeSuccessCounter := s.successCount - 1
            takeResult := fun j =>
              if j = i then .idle else s.multi.takeResult j }
          cameraNumber := i + 1 }
  | none => s.multiTakeEnd

/-- `Photo_Timer`. -/
def photoTimer (s : MediaState) : MediaState :=
  if s.photo.photoSending = .enable ∧
      s.photo.sdPacketNum ≤ s.photo.totalPacketNum + 1 ∧
      s.media.rsdState ≠ .waiting then
    if s.photo.dataSdCounter + 1 > 12 then
      { s with
        photo := { s.photo with
          dataSdCounter := 0
          exeptionTimer := 0
          sdFlag := true }
        media := { s.media with sdDataFlag := true } }
    else
      { s with photo := { s.photo with
          dataSdCounter := s.photo.dataSdCounter + 1 } }
  else s

/-- `Media_ReSdList[i]`. -/
def mediaReSdList (s : MediaState) (i : ℕ) : UInt8 :=
  if i < 10 then (s.media.reSdList[i]?).getD 0 else s.behind (i - 10)

/-- `Media_RSdMode_Timer`. -/
def mediaRSdModeTimer (s : MediaState) : MediaState :=
  match s.media.rsdState with
  | .off => s
  | .resend =>
      if s.media.rsdTimer + 1 > 10 then
        { s with
          media := { s.media with rsdTimer := 0, sdDataFlag := true }
          photo := { s.photo with
            sdPacketNum := (s.mediaReSdList s.media.rsdReader).toNat
            sdFlag := true } }
      else { s with media := { s.media with rsdTimer := s.media.rsdTimer + 1 } }
  | .waiting =>
      if s.media.rsdTimer + 1 > 120 then
        s.photoSendEnd.mediaClearState.checkMultiTakeResult
      else { s with media := { s.media with rsdTimer := s.media.rsdTimer + 1 } }

/-- `Media_Timer_Service`, with the link online. -/
def mediaTimerService (s : MediaState) : MediaState :=
  s.photoTimer.mediaRSdModeTimer

/-- `Media_Timer`. -/
def mediaTimer (s : MediaState) : MediaState :=
  if s.media.sdEventstate then
    if s.media.sdTimer + 1 > 6 then
      let s :=
        { s with media := { s.media with
            sdTimer := 0
            sdMediaFlag := .send
            maxSdCounter := s.media.maxSdCounter + 1 } }
      if s.media.maxSdCounter > 5 then s.mediaClearState else s
    else { s with media := { s.media with sdTimer := s.media.sdTimer + 1 } }
  else s

/-- `Meida_Trans_Exception`. -/
def meidaTransException (s : MediaState) : MediaState :=
  if s.photo.photoSending = .enable then
    if s.photo.exeptionTimer > 50 then s.photoSendEnd
    else
      { s with photo := { s.photo with
          exeptionTimer := s.photo.exeptionTimer + 1 } }
  else s

/-- `inadd` of a packet: its place in the picture in 16 bits. -/
def inadd (num : ℕ) : ℕ := (num + 65535) * 512 % 65536

/-- The head of a packet (`Protocol_Head`). -/
def protocolHead (s : MediaState) : MediaState :=
  { s with media := { s.media with
      totalPacketNum := s.photo.totalPacketNum
      currentPacketNum := s.photo.sdPacketNum } }

/-- The packet handed to `Protocol_End`. -/
def sendPacket (s : MediaState) : MediaState :=
  { s with packets := s.packets ++ [{
      camera := s.cameraNumber
      num := s.media.currentPacketNum
      total := s.media.totalPacketNum
      readsize := min 512 (s.picFileSize - inadd s.photo.sdPacketNum)
      size := s.stored s.cameraNumber }] }

/-- The end of `Stuff_MultiMedia_Data_0801H`: the state behind the packet. -/
def nextPacket (s : MediaState) : MediaState :=
  let s :=
    if s.media.totalPacketNum ≤ s.media.currentPacketNum ∧
        s.media.rsdState = .off then
      { s with media := { s.media with rsdState := .waiting, rsdTimer := 0 } }
    else s
  match s.media.rsdState with
  | .off =>
      if s.media.currentPacketNum < s.media.totalPacketNum ∧
          s.photo.photoSending = .enable then
        { s with photo := { s.photo with
            sdPacketNum := (s.photo.sdPacketNum + 1) % 65536 } }
      else s
  | .resend =>
      let reader := (s.media.rsdReader + 1) % 256
      { s with media := { s.media with
          rsdReader := reader
          rsdState :=
            if reader = s.media.rsdTotal then .waiting else .resend } }
  | .waiting => s

/-- `Stuff_MultiMedia_Data_0801H` for a picture. -/
def stuffMultiMediaData0801H (s : MediaState) : MediaState :=
  let s := s.protocolHead
  if s.photo.photoSending = .enable ∧ s.photo.sdFlag then
    let s := { s with photo := { s.photo with sdFlag := false } }
    if inadd s.photo.sdPacketNum < s.picFileSize ∧
        s.media.currentPacketNum ≤ s.media.totalPacketNum then
      s.sendPacket.nextPacket
    else s
  else s

/-- `case 0x8800` of `TCP_RX_Process`: the list follows its number.  The array
has room for ten numbers, but 125 bytes are cleared and all numbers are copied:
those from the eleventh on lie behind it. -/
def rx8800 (s : MediaState) (infolen : ℕ) (rx : ℕ → UInt8) : MediaState :=
  if infolen = 5 then s.photoSendEnd.mediaClearState
  else if rx 17 ≠ 0 then
    { s with
      media := { s.media with
        rsdState := .resend
        rsdTimer := 0
        rsdReader := 0
        rsdTotal := (rx 17).toNat
        reSdList := readBytes rx 18 (min 10 (rx 17).toNat) }
      behind := fun i =>
        if i < (rx 17).toNat - 10 then rx (28 + i)
        else if i < 115 then 0
        else s.behind i }
  else s

/-! ## Steps of an upload -/

/-- What an upload is driven by: the calls of the functions above under the
conditions of their callers. -/
inductive UploadEvent
  | photoSendStart (camera : ℕ)
  | photoSendEnd
  | mediaTimer
  | mediaTimerService
  | meidaTransException
  /-- `Do_SendGPSReport_GPRS` sends the event message. -/
  | infoSent
  /-- The time for the answer to the event message is over. -/
  | infoAnswered
  /-- The position before the packets has been sent. -/
  | positionSent
  /-- `Do_SendGPSReport_GPRS` sends a packet. -/
  | dataSent
  | rx8800 (infolen : ℕ) (rx : ℕ → UInt8)
  /-- What lies behind `MediaObj` is written. -/
  | behind (bytes : ℕ → UInt8)

/-- What an event does. -/
def uploadStep (s : MediaState) : UploadEvent → MediaState
  | .photoSendStart camera => photoSendStart { s with cameraNumber := camera }
  | .photoSendEnd => s.photoSendEnd
  | .mediaTimer => s.mediaTimer
  | .mediaTimerService => s.mediaTimerService
  | .meidaTransException => s.meidaTransException
  | .infoSent =>
      if s.media.sdMediaFlag = .send then
        { s with media := { s.media with sdMediaFlag := .sent } }
      else s
  | .infoAnswered =>
      if s.media.sdMediaFlag = .sent then s.multimedia0800HAckProcess else s
  | .positionSent =>
      if s.media.transmittingFlag = .position then
        { s with media := { s.media with transmittingFlag := .data } }
      else s
  | .dataSent =>
      if s.media.transmittingFlag = .data ∧ s.media.sdDataFlag then
        let s := s.stuffMultiMediaData0801H
        { s with media := { s.media with sdDataFlag := false } }
      else s
  | .rx8800 infolen rx => s.rx8800 infolen rx
  | .behind bytes => { s with behind := bytes }

end MediaState

end VehicleRecorder.Camera
