import VehicleRecorder.Camera.Media
import VehicleRecorder.Camera.PicStore
import VehicleRecorder.Lib.Runs
import Mathlib.Tactic.SplitIfs

/-!
# A run over all cameras

`MultiTake_Start` takes the picture of camera 1.  A shot that times out is
repeated up to twice, and then, or when its picture is complete, the next camera
takes its turn.  Behind the last camera the pictures are uploaded one after the
other: `Check_MultiTakeResult_b4Trans` starts the next upload or ends the run.

Of the three functions that end an upload only `Media_RSdMode_Timer` calls it,
and the first packet of camera 4 deletes the directory of camera 3.  The module
shows what holds in a run in which no other one ends an upload and no picture of
camera 3 is lost.
-/

namespace VehicleRecorder.Camera.MediaState

/-! ## Shots -/

/-- `Start_Camera`. -/
def startCamera (s : MediaState) (camera : ℕ) : MediaState :=
  if s.ispRunning then s
  else
    let s := { s with camera := { s.camera with createFlag := false } }
    if s.camera.cameraRunning = false ∧ s.photo.photoSending = .off then
      { s with
        camera := { s.camera with cameraRunning := true, status := .enable }
        tx485constEnable := true
        shots := s.shots ++ [camera] }
    else { s with camera := { s.camera with status := .other } }

/-- `End_Camera`. -/
def endCamera (s : MediaState) : MediaState :=
  { s with camera := { s.camera with
      status := .other
      cameraRunning := false
      timeoutCounter := 0
      operateFlag := false
      createFlag := false } }

/-- The result of the camera whose turn it is, and no retries yet. -/
def noteResult (s : MediaState) (result : TakeResult) : MediaState :=
  { s with multi := { s.multi with
      takeResult := fun i =>
        if i + 1 = s.cameraNumber then result else s.multi.takeResult i
      takeRetry := 0 } }

/-- The next camera takes its turn. -/
def nextCamera (s : MediaState) : MediaState :=
  startCamera { s with cameraNumber := s.cameraNumber + 1 }
    (s.cameraNumber + 1)

/-- The pictures are taken. -/
def endTaking (s : MediaState) : MediaState :=
  { s with multi := { s.multi with taking := false } }

/-- `MultiTake_Exception`; the cases of the cameras before the last differ in
the camera alone. -/
def multiTakeException (s : MediaState) : MediaState :=
  if 1 ≤ s.cameraNumber ∧ s.cameraNumber ≤ maxCameraNum then
    let s := { s with multi := { s.multi with
      takeRetry := (s.multi.takeRetry + 1) % 256 } }
    if 3 ≤ s.multi.takeRetry then
      let s := s.noteResult .fail
      if s.cameraNumber < maxCameraNum then s.nextCamera
      else s.endTaking.checkMultiTakeResult
    else s.startCamera s.cameraNumber
  else s.multiTakeEnd

/-- `CHKendTake_ReadyToSend`, with what it returns. -/
def chkEndTakeReadyToSend (s : MediaState) : MediaState × Bool :=
  if s.cameraNumber = maxCameraNum then
    let s := s.endTaking
    if s.openDoorStartTakeFlag ∧ s.opendoorTransFlag = 0 then
      ({ s.multiTakeEnd with openDoorStartTakeFlag := false }, true)
    else (s.checkMultiTakeResult, true)
  else (s, false)

/-- A second without an answer of the camera (`Camra_Take_Exception`). -/
def camraTakeException (s : MediaState) : MediaState :=
  if s.camera.cameraRunning then
    let c := s.camera.timeoutCounter
    let s := { s with camera := { s.camera with
      timeoutCounter := (c + 1) % 65536 } }
    if 3 ≤ c ∧ s.camera.timeoutCounter = 7 then
      let s := s.endCamera
      if s.multi.taking then s.multiTakeException
      else
        let s := { s with
          singleCameraTakeRetry := (s.singleCameraTakeRetry + 1) % 256 }
        if 3 ≤ s.singleCameraTakeRetry then
          { s with
            singleCameraTakeRetry := 0
            singleCamraTakeResualtBd := true }
        else s.startCamera s.cameraNumber
    else s
  else s

/-- The camera whose directory is deleted for a new picture. -/
def deletedCamera : ℕ → Option ℕ
  | 1 => some 1
  | 2 => some 2
  | 3 => some 3
  | 4 => some 3
  | _ => none

/-- The branch of the first packet, with the size that it leaves in the
directory. -/
def createPicture (s : MediaState) : MediaState :=
  if s.camera.createFlag then
    { s with
      camera := { s.camera with createFlag := false }
      picCurrentPage :=
        (picFirstPage s.cameraNumber).getD s.picCurrentPage + 1
      stored := fun k =>
        if deletedCamera s.cameraNumber = some k then 0xFFFFFFFF
        else s.stored k }
  else s

/-- The end of a picture, up to `End_Camera`: its size is programmed over what
the directory holds. -/
def pictureEnded (s : MediaState) (size : ℕ) : MediaState :=
  endCamera { s with
    picCurrentPage := (picFirstPage s.cameraNumber).getD (s.picCurrentPage + 1)
    stored := fun k =>
      if k = s.cameraNumber then s.stored k &&& size else s.stored k
    singleCamraTakeResualtBd := false
    completed := s.completed ++ [s.cameraNumber] }

/-- `Pic_Data_Process` on the last packet of a picture of the size. -/
def pictureComplete (s : MediaState) (size : ℕ) : MediaState :=
  let s := s.createPicture.pictureEnded size
  if s.multi.taking then
    if 1 ≤ s.cameraNumber ∧ s.cameraNumber ≤ maxCameraNum then
      let (s, done) := (s.noteResult .success).chkEndTakeReadyToSend
      if done then s else s.nextCamera
    else s.multiTakeEnd
  else if s.multi.transfering = false then
    if s.openDoorStartTakeFlag ∧ s.opendoorTransFlag = 0 then
      { s.multiTakeEnd with openDoorStartTakeFlag := false }
    else s.photoSendStart
  else s

/-- `Send_const485`: the command to take a picture, or to deliver the next
packet. -/
def sendConst485 (s : MediaState) : MediaState :=
  if s.tx485constEnable then
    let s := { s with tx485constEnable := false }
    match s.camera.status with
    | .enable =>
        { s with camera := { s.camera with
            operateFlag := true
            createFlag := true
            timeoutCounter := 0 } }
    | .transfer =>
        { s with camera := { s.camera with
            operateFlag := true
            timeoutCounter := 0 } }
    | .other => s
  else s

/-- `Pic_Data_Process` on a packet that is not the last, up to the command for
the next. -/
def nextPicturePacket (s : MediaState) : MediaState :=
  let s := s.createPicture
  { s with
    picCurrentPage := s.picCurrentPage + 1
    camera := { s.camera with status := .transfer, operateFlag := false }
    tx485constEnable := true }

/-- `MultiTake_Start`. -/
def multiTakeStart (s : MediaState) : MediaState :=
  let s := startCamera
    { s with
      multi := {
        taking := true
        transfering := false
        curretCameraNum := 1
        takeResult := fun _ => .idle
        takeRetry := 0
        takeSuccessCounter := 0 }
      cameraNumber := 1 } 1
  { s with singleCameraTakeRetry := 0 }

/-- `Camera_Take_Enable`. -/
def CameraTakeEnable (s : MediaState) : Prop :=
  s.camera.status = .other ∧ s.multi.taking = false ∧
    s.multi.transfering = false

/-! ## Runs -/

/-- What happens in a run. -/
inductive RunEvent
  /-- A second has passed. -/
  | second
  /-- The shot that is running delivers its last packet. -/
  | pictureComplete (size : ℕ)
  /-- The shot that is running delivers another packet. -/
  | picturePacket
  | sendConst485
  /-- A remote update begins or ends. -/
  | isp (running : Bool)
  | upload (e : UploadEvent)

/-- What an event does. -/
def runStep (s : MediaState) : RunEvent → MediaState
  | .second => s.camraTakeException
  | .pictureComplete size =>
      if s.camera.cameraRunning then s.pictureComplete size else s
  | .picturePacket =>
      if s.camera.cameraRunning then s.nextPicturePacket else s
  | .sendConst485 => s.sendConst485
  | .isp running => { s with ispRunning := running }
  | .upload e => s.uploadStep e

/-- What the claim about a run says of a state. -/
structure InOrder (s : MediaState) : Prop where
  /-- The cameras are tried in order, each at most three times. -/
  order : s.shots.Pairwise (· ≤ ·)
  tries : ∀ k, s.shots.count k ≤ 3
  cameras : ∀ k ∈ s.shots, 1 ≤ k ∧ k ≤ maxCameraNum
  /-- Behind the shots every camera has been tried. -/
  tried : s.multi.taking = false →
    ∀ k, 1 ≤ k → k ≤ maxCameraNum → k ∈ s.shots
  /-- Only pictures that were completed are uploaded, each at most once. -/
  once : s.uploads.Nodup
  succeeded : ∀ k ∈ s.uploads, k ∈ s.completed
  /-- With no shot running and no upload in progress everything is uploaded, and
  a picture may be taken. -/
  ended : s.camera.cameraRunning = false → s.photo.photoSending = .off →
    s.CameraTakeEnable ∧ ∀ k ∈ s.completed, k ∈ s.uploads

/-! ## The shots that were started -/

/-- The cameras up to `n` have been tried in order, each at most three times. -/
structure Tried (shots : List ℕ) (n : ℕ) : Prop where
  order : shots.Pairwise (· ≤ ·)
  tries : ∀ k, shots.count k ≤ 3
  cameras : ∀ k ∈ shots, 1 ≤ k ∧ k ≤ n
  all : ∀ k, 1 ≤ k → k ≤ n → k ∈ shots

theorem tried_nil : Tried [] 0 where
  order := List.Pairwise.nil
  tries := fun _ => Nat.zero_le 3
  cameras := fun k hk => nomatch hk
  all := fun k hlo hhi => absurd (Nat.le_trans hlo hhi) (by decide)

/-- One more camera, tried up to three times. -/
theorem Tried.next {shots : List ℕ} {n r : ℕ} (h : Tried shots n) (hr : r ≤ 2) :
    Tried (shots ++ List.replicate (r + 1) (n + 1)) (n + 1) where
  order := by
    refine List.pairwise_append.mpr ⟨h.order, ?_, ?_⟩
    · exact List.pairwise_replicate.mpr (Or.inr (Nat.le_refl _))
    · intro a ha b hb
      rw [List.eq_of_mem_replicate hb]
      have hle := (h.cameras a ha).2
      omega
  tries := by
    intro k
    rw [List.count_append, List.count_replicate]
    split_ifs with hk
    · have hk : n + 1 = k := by simpa using hk
      have hnone : shots.count k = 0 := by
        rw [List.count_eq_zero]
        intro hmem
        have hle := (h.cameras k hmem).2
        omega
      omega
    · exact h.tries k
  cameras := by
    intro k hk
    rcases List.mem_append.mp hk with hold | hnew
    · have hle := h.cameras k hold
      omega
    · rw [List.eq_of_mem_replicate hnew]
      omega
  all := by
    intro k hlo hhi
    by_cases hk : k = n + 1
    · rw [hk]
      exact List.mem_append_right _
        (List.mem_replicate.mpr ⟨Nat.succ_ne_zero r, rfl⟩)
    · exact List.mem_append_left _ (h.all k hlo (by omega))

/-! ## The pictures that are to be uploaded -/

/-- The first element that passes is the first of those that pass. -/
theorem filter_of_find? {α : Type*} [DecidableEq α] {p : α → Bool}
    {l : List α} {a : α} (hl : l.Nodup) (h : l.find? p = some a) :
    l.filter p = a :: l.filter fun x => decide (x ≠ a) && p x := by
  induction l with
  | nil => exact absurd h (by simp)
  | cons x l ih =>
      rw [List.nodup_cons] at hl
      rw [List.find?_cons] at h
      cases hp : p x with
      | true =>
          rw [hp] at h
          obtain rfl : x = a := Option.some.inj h
          rw [List.filter_cons_of_pos hp,
            List.filter_cons_of_neg (by simp)]
          refine congrArg (x :: ·) (List.filter_congr ?_)
          intro y hy
          have hne : y ≠ x := fun heq => hl.1 (heq ▸ hy)
          simp [hne]
      | false =>
          rw [hp] at h
          rw [List.filter_cons_of_neg (by simp [hp]),
            List.filter_cons_of_neg (by simp [hp])]
          exact ih hl.2 h

/-- The cameras whose pictures are to be uploaded. -/
def remaining (s : MediaState) : List ℕ :=
  ((List.range maxCameraNum).filter fun i =>
    s.multi.takeResult i = .success).map (· + 1)

variable {s s' : MediaState}

/-- What has been uploaded and what is to be is what was completed. -/
structure Books (s : MediaState) : Prop where
  completed : s.completed = s.uploads ++ s.remaining
  nodup : s.completed.Nodup
  sizes : ∀ k ∈ s.remaining, packetTotal (s.stored k) ≠ 0
  door : s.openDoorStartTakeFlag = false

/-- Nothing is uploaded, and nothing is to be. -/
structure Quiet (s : MediaState) : Prop where
  sending : s.photo.photoSending = .off
  mediaFlag : s.media.sdMediaFlag = .off
  eventstate : s.media.sdEventstate = false
  rsd : s.media.rsdState ≠ .waiting

/-- It is the turn of a camera. -/
structure Turn (s : MediaState) : Prop where
  taking : s.multi.taking = true
  transfering : s.multi.transfering = false
  quiet : s.Quiet
  camera : 1 ≤ s.cameraNumber ∧ s.cameraNumber ≤ maxCameraNum
  retry : s.multi.takeRetry ≤ 2
  shots : ∃ prior, Tried prior (s.cameraNumber - 1) ∧ s.shots =
    prior ++ List.replicate (s.multi.takeRetry + 1) s.cameraNumber
  results : ∀ i, s.cameraNumber ≤ i + 1 → s.multi.takeResult i = .idle
  uploads : s.uploads = []
  books : s.Books

/-- The shot of a camera is running. -/
structure Shooting (s : MediaState) : Prop extends Turn s where
  running : s.camera.cameraRunning = true

/-- The shot of a camera has ended, and its result is noted. -/
structure Noted (s : MediaState) : Prop where
  taking : s.multi.taking = true
  transfering : s.multi.transfering = false
  running : s.camera.cameraRunning = false
  status : s.camera.status = .other
  quiet : s.Quiet
  camera : 1 ≤ s.cameraNumber ∧ s.cameraNumber ≤ maxCameraNum
  retry : s.multi.takeRetry = 0
  shots : Tried s.shots s.cameraNumber
  results : ∀ i, s.cameraNumber ≤ i → s.multi.takeResult i = .idle
  uploads : s.uploads = []
  books : s.Books

/-- The shots are over. -/
structure Taken (s : MediaState) : Prop where
  shots : Tried s.shots maxCameraNum
  taking : s.multi.taking = false
  running : s.camera.cameraRunning = false
  status : s.camera.status = .other
  books : s.Books

/-- A picture is being uploaded. -/
structure Uploading (s : MediaState) : Prop extends Taken s where
  sending : s.photo.photoSending ≠ .off

/-- The run is over. -/
structure Over (s : MediaState) : Prop extends Taken s where
  transfering : s.multi.transfering = false
  quiet : s.Quiet
  remaining : s.remaining = []

/-- Where a run is. -/
def InRun (s : MediaState) : Prop := s.Shooting ∨ s.Uploading ∨ s.Over

theorem Turn.tried (h : s.Turn) : Tried s.shots s.cameraNumber := by
  obtain ⟨prior, hprior, hshots⟩ := h.shots
  have hcamera : s.cameraNumber - 1 + 1 = s.cameraNumber :=
    Nat.sub_add_cancel h.camera.1
  have hnext := hprior.next h.retry
  rw [hcamera] at hnext
  rw [hshots]
  exact hnext

theorem Shooting.inOrder (h : s.Shooting) : s.InOrder where
  order := h.tried.order
  tries := h.tried.tries
  cameras := by
    intro k hk
    have hle := h.tried.cameras k hk
    exact ⟨hle.1, Nat.le_trans hle.2 h.camera.2⟩
  tried := fun hover => absurd (h.taking.symm.trans hover) (by decide)
  once := by
    rw [h.uploads]
    exact List.nodup_nil
  succeeded := by
    rw [h.uploads]
    exact fun k hk => nomatch hk
  ended := fun hover => absurd (h.running.symm.trans hover) (by decide)

/-- What is left to show behind the shots. -/
theorem Taken.inOrder (h : s.Taken)
    (hover : s.photo.photoSending = .off →
      s.multi.transfering = false ∧ s.remaining = []) : s.InOrder where
  order := h.shots.order
  tries := h.shots.tries
  cameras := h.shots.cameras
  tried := fun _ => h.shots.all
  once := by
    have hnodup := h.books.nodup
    rw [h.books.completed] at hnodup
    exact (List.nodup_append.mp hnodup).1
  succeeded := by
    intro k hk
    rw [h.books.completed]
    exact List.mem_append_left _ hk
  ended := by
    intro _ hoff
    obtain ⟨htransfering, hnone⟩ := hover hoff
    refine ⟨⟨h.status, h.taking, htransfering⟩, ?_⟩
    rw [h.books.completed, hnone, List.append_nil]
    exact fun _ hk => hk

theorem InRun.inOrder (h : s.InRun) : s.InOrder := by
  rcases h with hshooting | huploading | hover
  · exact hshooting.inOrder
  · exact huploading.toTaken.inOrder fun hoff => absurd hoff huploading.sending
  · exact hover.toTaken.inOrder fun _ => ⟨hover.transfering, hover.remaining⟩

/-! ## The next upload -/

theorem firstSuccess_some {i : ℕ} (h : s.firstSuccess = some i) :
    s.remaining = (i + 1) :: ((List.range maxCameraNum).filter fun j =>
      decide (j ≠ i) &&
        decide (s.multi.takeResult j = .success)).map (· + 1) := by
  rw [remaining, filter_of_find? List.nodup_range h, List.map_cons]

theorem firstSuccess_none (h : s.firstSuccess = none) : s.remaining = [] := by
  rw [remaining, List.map_eq_nil_iff, List.filter_eq_nil_iff]
  exact List.find?_eq_none.mp h

/-- A started upload. -/
theorem photoSendStart_eq (htotal : packetTotal (s.stored s.cameraNumber) ≠ 0)
    (hcamera : 1 ≤ s.cameraNumber ∧ s.cameraNumber ≤ maxCameraNum) :
    s.photoSendStart.photo.photoSending = .other ∧
      s.photoSendStart.uploads = s.uploads ++ [s.cameraNumber] ∧
      s.photoSendStart.multi = s.multi ∧ s.photoSendStart.camera = s.camera ∧
      s.photoSendStart.shots = s.shots ∧
      s.photoSendStart.completed = s.completed ∧
      s.photoSendStart.stored = s.stored ∧
      s.photoSendStart.openDoorStartTakeFlag = s.openDoorStartTakeFlag := by
  have hsize : s.queriedSize = s.stored s.cameraNumber := if_pos hcamera
  rw [photoSendStart]
  dsimp only
  rw [hsize, if_neg (by omega)]
  exact ⟨rfl, rfl, rfl, rfl, rfl, rfl, rfl, rfl⟩

/-- Behind the shots, and behind every upload, the next upload is started or the
run is over. -/
theorem inRun_check (h : s.Taken) (hquiet : s.Quiet) :
    s.checkMultiTakeResult.InRun := by
  rw [checkMultiTakeResult]
  cases hfirst : s.firstSuccess with
  | none =>
      have hnone := firstSuccess_none hfirst
      have hclear : s.multiTakeEnd.remaining = [] := by
        simp [remaining, multiTakeEnd]
      refine Or.inr (Or.inr ⟨⟨h.shots, rfl, h.running, h.status, ?_⟩, rfl,
        ⟨hquiet.sending, hquiet.mediaFlag, hquiet.eventstate, hquiet.rsd⟩,
        hclear⟩)
      refine ⟨?_, h.books.nodup, ?_, h.books.door⟩
      · rw [hclear, ← hnone]
        exact h.books.completed
      · rw [hclear]
        exact fun k hk => nomatch hk
  | some i =>
      have hremaining := firstSuccess_some hfirst
      have hlt : i < maxCameraNum :=
        List.mem_range.mp (List.mem_of_find?_eq_some hfirst)
      have htotal : packetTotal (s.stored (i + 1)) ≠ 0 := by
        apply h.books.sizes
        rw [hremaining]
        exact List.mem_cons_self
      dsimp only
      generalize hnext : { s with
        multi := { s.multi with
          transfering := true
          takeSuccessCounter := s.successCount - 1
          takeResult := fun j =>
            if j = i then .idle else s.multi.takeResult j }
        cameraNumber := i + 1 } = next
      have hrest : s.remaining = (i + 1) :: next.remaining := by
        rw [hremaining, ← hnext, remaining]
        refine congrArg (fun l => (i + 1) :: List.map (· + 1) l)
          (List.filter_congr ?_)
        intro j _
        by_cases hj : j = i <;> simp [hj]
      have hcamera : next.cameraNumber = i + 1 := by rw [← hnext]
      have hstored : next.stored = s.stored := by rw [← hnext]
      obtain ⟨hsending, huploads, hmulti, hstate, hshots, hcompleted, hsizes,
        hdoor⟩ := photoSendStart_eq (s := next)
          (by rw [hcamera, hstored]; exact htotal)
          (by rw [hcamera]; exact ⟨Nat.le_add_left 1 i, hlt⟩)
      have hsame : next.photoSendStart.remaining = next.remaining := by
        rw [remaining, hmulti, remaining]
      have hbooks : next.photoSendStart.Books := by
        refine ⟨?_, ?_, ?_, ?_⟩
        · rw [hcompleted, huploads, hsame, hcamera, List.append_assoc,
            List.singleton_append, ← hrest, ← hnext]
          exact h.books.completed
        · rw [hcompleted, ← hnext]
          exact h.books.nodup
        · intro k hk
          rw [hsizes, hstored]
          apply h.books.sizes
          rw [hrest]
          rw [hsame] at hk
          exact List.mem_cons_of_mem _ hk
        · rw [hdoor, ← hnext]
          exact h.books.door
      refine Or.inr (Or.inl ⟨⟨?_, ?_, ?_, ?_, hbooks⟩, ?_⟩)
      · rw [hshots, ← hnext]
        exact h.shots
      · rw [hmulti, ← hnext]
        exact h.taking
      · rw [hstate, ← hnext]
        exact h.running
      · rw [hstate, ← hnext]
        exact h.status
      · rw [hsending]
        decide

/-! ## Shots -/

theorem startCamera_of_ready {camera : ℕ} (hisp : s.ispRunning = false)
    (hrunning : s.camera.cameraRunning = false)
    (hsending : s.photo.photoSending = .off) :
    s.startCamera camera =
      { s with
        camera := { s.camera with
          createFlag := false
          cameraRunning := true
          status := .enable }
        tx485constEnable := true
        shots := s.shots ++ [camera] } := by
  rw [startCamera, if_neg (by rw [hisp]; decide)]
  exact if_pos ⟨hrunning, hsending⟩

/-- The shot of a camera is started. -/
theorem shooting_startCamera (hisp : s.ispRunning = false)
    (htaking : s.multi.taking = true)
    (htransfering : s.multi.transfering = false)
    (hrunning : s.camera.cameraRunning = false) (hquiet : s.Quiet)
    (hcamera : 1 ≤ s.cameraNumber ∧ s.cameraNumber ≤ maxCameraNum)
    (hretry : s.multi.takeRetry ≤ 2)
    (hshots : ∃ prior, Tried prior (s.cameraNumber - 1) ∧ s.shots =
      prior ++ List.replicate s.multi.takeRetry s.cameraNumber)
    (hresults : ∀ i, s.cameraNumber ≤ i + 1 → s.multi.takeResult i = .idle)
    (huploads : s.uploads = []) (hbooks : s.Books) :
    (s.startCamera s.cameraNumber).Shooting := by
  rw [startCamera_of_ready hisp hrunning hquiet.sending]
  obtain ⟨prior, hprior, hshots⟩ := hshots
  exact
    { taking := htaking
      transfering := htransfering
      running := rfl
      quiet := ⟨hquiet.sending, hquiet.mediaFlag, hquiet.eventstate, hquiet.rsd⟩
      camera := hcamera
      retry := hretry
      shots := by
        refine ⟨prior, hprior, ?_⟩
        dsimp only
        rw [hshots, List.append_assoc, ← List.replicate_succ']
      results := hresults
      uploads := huploads
      books := ⟨hbooks.completed, hbooks.nodup, hbooks.sizes, hbooks.door⟩ }

/-- The next camera takes its turn. -/
theorem Noted.next (h : s.Noted) (hisp : s.ispRunning = false)
    (hmore : s.cameraNumber < maxCameraNum) : s.nextCamera.Shooting := by
  refine shooting_startCamera (s := { s with
    cameraNumber := s.cameraNumber + 1 }) hisp h.taking h.transfering h.running
    ⟨h.quiet.sending, h.quiet.mediaFlag, h.quiet.eventstate, h.quiet.rsd⟩
    ⟨Nat.le_add_left 1 _, hmore⟩ ?_ ⟨s.shots, h.shots, ?_⟩ ?_ h.uploads
    ⟨h.books.completed, h.books.nodup, h.books.sizes, h.books.door⟩
  · dsimp only
    rw [h.retry]
    exact Nat.zero_le 2
  · dsimp only
    rw [h.retry, List.replicate_zero, List.append_nil]
  · intro i hi
    exact h.results i (Nat.le_of_succ_le_succ hi)

/-- Behind the last camera the pictures are uploaded. -/
theorem Noted.last (h : s.Noted) (hlast : s.cameraNumber = maxCameraNum) :
    s.endTaking.checkMultiTakeResult.InRun := by
  have hshots := h.shots
  rw [hlast] at hshots
  exact inRun_check ⟨hshots, rfl, h.running, h.status, ⟨h.books.completed,
    h.books.nodup, h.books.sizes, h.books.door⟩⟩
    ⟨h.quiet.sending, h.quiet.mediaFlag, h.quiet.eventstate, h.quiet.rsd⟩

/-- Nothing behind `a` passes. -/
theorem filter_range {p : ℕ → Bool} {a : ℕ} (hrest : ∀ i, a < i → p i = false)
    (m : ℕ) : (List.range (a + 1 + m)).filter p =
      (List.range a).filter p ++ if p a then [a] else [] := by
  induction m with
  | zero =>
      rw [Nat.add_zero, List.range_succ, List.filter_append,
        List.filter_singleton]
      cases p a <;> rfl
  | succ m ih =>
      have hlast : p (a + 1 + m) = false := hrest _ (by omega)
      rw [← Nat.add_assoc, List.range_succ, List.filter_append, ih,
        List.filter_singleton, hlast]
      exact List.append_nil _

/-- A failed shot is not uploaded, a successful one comes last. -/
theorem remaining_noteResult
    (hcamera : 1 ≤ s.cameraNumber ∧ s.cameraNumber ≤ maxCameraNum)
    (hresults : ∀ i, s.cameraNumber ≤ i + 1 → s.multi.takeResult i = .idle)
    (result : TakeResult) :
    (s.noteResult result).remaining =
      s.remaining ++ if result = .success then [s.cameraNumber] else [] := by
  obtain ⟨a, ha⟩ : ∃ a, s.cameraNumber = a + 1 :=
    ⟨s.cameraNumber - 1, by omega⟩
  obtain ⟨m, hm⟩ : ∃ m, maxCameraNum = a + 1 + m :=
    ⟨maxCameraNum - (a + 1), by omega⟩
  have hidle (i : ℕ) (hi : a ≤ i) : s.multi.takeResult i = .idle :=
    hresults i (by omega)
  have hbefore := filter_range (a := a)
    (p := fun i => decide (s.multi.takeResult i = .success))
    (fun i hi => by simp [hidle i (Nat.le_of_lt hi)]) m
  have hafter := filter_range (a := a)
    (p := fun i => decide ((s.noteResult result).multi.takeResult i = .success))
    (fun i hi => by
      have hne : i ≠ a := by omega
      simp [noteResult, ha, hne, hidle i (Nat.le_of_lt hi)]) m
  have hsame : (List.range a).filter (fun i =>
      decide ((s.noteResult result).multi.takeResult i = .success)) =
        (List.range a).filter fun i =>
          decide (s.multi.takeResult i = .success) := by
    apply List.filter_congr
    intro i hi
    have hne : i ≠ a := Nat.ne_of_lt (List.mem_range.mp hi)
    simp [noteResult, ha, hne]
  have hself : (s.noteResult result).multi.takeResult a = result := by
    simp [noteResult, ha]
  rw [remaining, remaining, hm, hbefore, hafter, hsame, hself, ha]
  by_cases hresult : result = .success <;>
    simp [hresult, hidle a (Nat.le_refl a)]

/-- The shot has failed for good. -/
theorem Turn.noted_fail (h : s.Turn) (hrunning : s.camera.cameraRunning = false)
    (hstatus : s.camera.status = .other) : (s.noteResult .fail).Noted := by
  have hremaining : (s.noteResult .fail).remaining = s.remaining := by
    rw [remaining_noteResult h.camera h.results, if_neg (by decide),
      List.append_nil]
  refine ⟨h.taking, h.transfering, hrunning, hstatus, ⟨h.quiet.sending,
    h.quiet.mediaFlag, h.quiet.eventstate, h.quiet.rsd⟩, h.camera, rfl,
    h.tried, ?_, h.uploads, ?_, h.books.nodup, ?_, h.books.door⟩
  · intro i hi
    have hi : s.cameraNumber ≤ i := hi
    have hne : i + 1 ≠ s.cameraNumber := by omega
    exact (if_neg hne).trans (h.results i (by omega))
  · rw [hremaining]
    exact h.books.completed
  · rw [hremaining]
    exact h.books.sizes

theorem Turn.endCamera (h : s.Turn) : s.endCamera.Turn :=
  ⟨h.taking, h.transfering, ⟨h.quiet.sending, h.quiet.mediaFlag,
    h.quiet.eventstate, h.quiet.rsd⟩, h.camera, h.retry, h.shots, h.results,
    h.uploads, ⟨h.books.completed, h.books.nodup, h.books.sizes, h.books.door⟩⟩

/-- A shot that timed out is repeated, or the next camera takes its turn. -/
theorem Turn.exception (h : s.Turn) (hrunning : s.camera.cameraRunning = false)
    (hstatus : s.camera.status = .other)
    (hisp : s.cameraNumber = maxCameraNum ∧ s.multi.takeRetry = 2 ∨
      s.ispRunning = false) : s.multiTakeException.InRun := by
  have hretry := h.retry
  have hcamera := h.camera
  have hcount : (s.multi.takeRetry + 1) % 256 = s.multi.takeRetry + 1 :=
    Nat.mod_eq_of_lt (by omega)
  rw [multiTakeException, if_pos hcamera]
  dsimp only
  rw [hcount]
  have hnote : noteResult { s with multi := { s.multi with
      takeRetry := s.multi.takeRetry + 1 } } .fail = s.noteResult .fail := rfl
  have hnoted := h.noted_fail hrunning hstatus
  rw [hnote]
  split_ifs with hfailed hmore
  · have hmore : s.cameraNumber < maxCameraNum := hmore
    have hisp := hisp.resolve_left fun hlast => absurd hlast.1 (by omega)
    exact Or.inl (hnoted.next hisp hmore)
  · have hlast : s.cameraNumber = maxCameraNum :=
      Nat.le_antisymm hcamera.2 (Nat.le_of_not_lt hmore)
    exact hnoted.last hlast
  · have hisp := hisp.resolve_left fun hlast => absurd hlast.2 (by omega)
    obtain ⟨hsending, hflag, hstate, hrsd⟩ := h.quiet
    obtain ⟨hcompleted, hnodup, hsizes, hdoor⟩ := h.books
    have hagain : Shooting (startCamera { s with multi := { s.multi with
        takeRetry := s.multi.takeRetry + 1 } } s.cameraNumber) :=
      shooting_startCamera hisp h.taking h.transfering hrunning
        ⟨hsending, hflag, hstate, hrsd⟩ hcamera (by dsimp only; omega) h.shots
        h.results h.uploads ⟨hcompleted, hnodup, hsizes, hdoor⟩
    exact Or.inl hagain

/-- A camera whose turn it is has no picture yet. -/
theorem Turn.not_mem_remaining (h : s.Turn) : s.cameraNumber ∉ s.remaining := by
  intro hmem
  rw [remaining, List.mem_map] at hmem
  obtain ⟨i, hi, hcamera⟩ := hmem
  have hidle := h.results i (Nat.le_of_eq hcamera.symm)
  have hsuccess := (List.mem_filter.mp hi).2
  simp [hidle] at hsuccess

/-- The first packet of a picture deletes no picture that is to be uploaded. -/
def SparesThird (s : MediaState) : Prop :=
  s.camera.createFlag → s.cameraNumber = maxCameraNum →
    s.multi.takeResult 2 ≠ .success

instance (s : MediaState) : Decidable s.SparesThird :=
  inferInstanceAs (Decidable (_ → _))

/-- The directory that is deleted is of no picture that is to be uploaded. -/
theorem Turn.deleted_not_mem (h : s.Turn) (hspares : s.SparesThird)
    (hcreate : s.camera.createFlag) {k : ℕ}
    (hk : deletedCamera s.cameraNumber = some k) : k ∉ s.remaining := by
  by_cases hlast : s.cameraNumber = maxCameraNum
  · rw [hlast] at hk
    obtain rfl : 3 = k := Option.some.inj hk
    intro hmem
    rw [remaining, List.mem_map] at hmem
    obtain ⟨i, hi, hthird⟩ := hmem
    obtain rfl : i = 2 := by omega
    exact hspares hcreate hlast (by simpa using (List.mem_filter.mp hi).2)
  · have hown : deletedCamera s.cameraNumber = some s.cameraNumber := by
      obtain ⟨hlo, hhi⟩ := h.camera
      have hmax : maxCameraNum = 4 := rfl
      have hcases : s.cameraNumber = 1 ∨ s.cameraNumber = 2 ∨
          s.cameraNumber = 3 := by omega
      rcases hcases with hone | htwo | hthree
      · rw [hone, deletedCamera]
      · rw [htwo, deletedCamera]
      · rw [hthree, deletedCamera]
    rw [hown] at hk
    rw [← Option.some.inj hk]
    exact h.not_mem_remaining

theorem Turn.createPicture (h : s.Turn) (hspares : s.SparesThird) :
    s.createPicture.Turn := by
  rw [MediaState.createPicture]
  split_ifs with hcreate
  · refine ⟨h.taking, h.transfering, ⟨h.quiet.sending, h.quiet.mediaFlag,
      h.quiet.eventstate, h.quiet.rsd⟩, h.camera, h.retry, h.shots, h.results,
      h.uploads, ⟨h.books.completed, h.books.nodup, ?_, h.books.door⟩⟩
    intro k hk
    have hkept : deletedCamera s.cameraNumber ≠ some k := fun hdeleted =>
      h.deleted_not_mem hspares hcreate hdeleted hk
    dsimp only
    rw [if_neg hkept]
    exact h.books.sizes k hk
  · exact h

theorem createPicture_keeps (s : MediaState) :
    s.createPicture.multi = s.multi ∧
      s.createPicture.cameraNumber = s.cameraNumber ∧
      s.createPicture.ispRunning = s.ispRunning ∧
      s.createPicture.camera.cameraRunning = s.camera.cameraRunning := by
  rw [MediaState.createPicture]
  split_ifs
  · exact ⟨rfl, rfl, rfl, rfl⟩
  · exact ⟨rfl, rfl, rfl, rfl⟩

/-- The shot was successful. -/
theorem Turn.noted_success (h : s.Turn) {size : ℕ}
    (hsize : packetTotal (s.stored s.cameraNumber &&& size) ≠ 0) :
    ((s.pictureEnded size).noteResult .success).Noted := by
  have hremaining : ((s.pictureEnded size).noteResult .success).remaining =
      s.remaining ++ [s.cameraNumber] :=
    remaining_noteResult h.camera h.results .success
  have hbooks := h.books
  refine ⟨h.taking, h.transfering, rfl, rfl, ⟨h.quiet.sending,
    h.quiet.mediaFlag, h.quiet.eventstate, h.quiet.rsd⟩, h.camera, rfl,
    h.tried, ?_, h.uploads, ?_, ?_, ?_, hbooks.door⟩
  · intro i hi
    have hi : s.cameraNumber ≤ i := hi
    have hne : i + 1 ≠ s.cameraNumber := by omega
    exact (if_neg hne).trans (h.results i (by omega))
  · rw [hremaining, ← List.append_assoc]
    exact congrArg (· ++ [s.cameraNumber]) hbooks.completed
  · have hnew : s.cameraNumber ∉ s.completed := by
      rw [hbooks.completed, h.uploads, List.nil_append]
      exact h.not_mem_remaining
    refine List.nodup_append.mpr ⟨hbooks.nodup, by simp, ?_⟩
    intro k hk k' hk' heq
    rw [List.mem_singleton.mp hk'] at heq
    exact hnew (heq ▸ hk)
  · intro k hk
    rw [hremaining] at hk
    have hstored : ((s.pictureEnded size).noteResult .success).stored k =
        if k = s.cameraNumber then s.stored k &&& size else s.stored k := rfl
    rw [hstored]
    rcases List.mem_append.mp hk with hold | hnew
    · have hne : k ≠ s.cameraNumber := fun heq =>
        h.not_mem_remaining (heq ▸ hold)
      rw [if_neg hne]
      exact hbooks.sizes k hold
    · rw [if_pos (List.mem_singleton.mp hnew), List.mem_singleton.mp hnew]
      exact hsize

theorem pictureComplete_eq (h : s.createPicture.Turn) (size : ℕ) :
    s.pictureComplete size =
      let (s, done) := ((s.createPicture.pictureEnded size).noteResult
        .success).chkEndTakeReadyToSend
      if done then s else s.nextCamera := by
  have htaking : (s.createPicture.pictureEnded size).multi.taking = true :=
    h.taking
  have hcamera : 1 ≤ (s.createPicture.pictureEnded size).cameraNumber ∧
      (s.createPicture.pictureEnded size).cameraNumber ≤ maxCameraNum :=
    h.camera
  exact (if_pos htaking).trans (if_pos hcamera)

/-- A picture is complete, and the next camera takes its turn. -/
theorem Turn.complete (h : s.Turn) (hspares : s.SparesThird) {size : ℕ}
    (hsize : packetTotal
      (s.createPicture.stored s.cameraNumber &&& size) ≠ 0)
    (hisp : s.cameraNumber = maxCameraNum ∨ s.ispRunning = false) :
    (s.pictureComplete size).InRun := by
  have hcreated := h.createPicture hspares
  obtain ⟨-, hcamera, hsame, -⟩ := createPicture_keeps s
  have hnoted := hcreated.noted_success (by rw [hcamera]; exact hsize)
  rw [pictureComplete_eq hcreated]
  generalize hs' : (s.createPicture.pictureEnded size).noteResult .success =
    s' at hnoted ⊢
  have hnumber : s'.cameraNumber = s.cameraNumber := by
    rw [← hs']
    exact hcamera
  have hisp' : s'.ispRunning = s.ispRunning := by
    rw [← hs']
    exact hsame
  by_cases hlast : s'.cameraNumber = maxCameraNum
  · have hdoor : ¬ (s'.endTaking.openDoorStartTakeFlag ∧
        s'.endTaking.opendoorTransFlag = 0) := by
      intro hdoor
      exact absurd (hnoted.books.door.symm.trans hdoor.1) (by decide)
    have hcheck : s'.chkEndTakeReadyToSend =
        (s'.endTaking.checkMultiTakeResult, true) := by
      rw [chkEndTakeReadyToSend, if_pos hlast]
      dsimp only
      rw [if_neg hdoor]
    rw [hcheck]
    exact hnoted.last hlast
  · have hcheck : s'.chkEndTakeReadyToSend = (s', false) := if_neg hlast
    rw [hcheck]
    have hmore : s'.cameraNumber < maxCameraNum := by
      have hle := h.camera.2
      omega
    rw [hnumber] at hlast
    exact Or.inl (hnoted.next (hisp'.trans (hisp.resolve_left hlast)) hmore)

/-- A second without an answer. -/
theorem Shooting.second (h : s.Shooting)
    (hisp : (s.camera.timeoutCounter + 1) % 65536 = 7 →
      s.cameraNumber = maxCameraNum ∧ s.multi.takeRetry = 2 ∨
        s.ispRunning = false) : s.camraTakeException.InRun := by
  obtain ⟨⟨htaking, htransfering, ⟨hsending, hflag, hstate, hrsd⟩, hcamera,
    hretry, hshots, hresults, huploads, ⟨hcompleted, hnodup, hsizes, hdoor⟩⟩,
    hrunning⟩ := h
  have hturn : Turn { s with camera := { s.camera with
      timeoutCounter := (s.camera.timeoutCounter + 1) % 65536 } } :=
    ⟨htaking, htransfering, ⟨hsending, hflag, hstate, hrsd⟩, hcamera, hretry,
      hshots, hresults, huploads, ⟨hcompleted, hnodup, hsizes, hdoor⟩⟩
  rw [camraTakeException, if_pos hrunning]
  dsimp only
  by_cases hover : 3 ≤ s.camera.timeoutCounter ∧
      (s.camera.timeoutCounter + 1) % 65536 = 7
  · rw [if_pos hover]
    have htaking' : (MediaState.endCamera { s with camera := { s.camera with
        timeoutCounter := (s.camera.timeoutCounter + 1) % 65536
          } }).multi.taking = true := htaking
    rw [if_pos htaking']
    exact hturn.endCamera.exception rfl rfl (hisp hover.2)
  · rw [if_neg hover]
    exact Or.inl ⟨hturn, hrunning⟩

/-! ## Uploads -/

/-- The shots, their results and the books are left alone. -/
structure SameShots (s s' : MediaState) : Prop where
  multi : s'.multi = s.multi
  running : s'.camera.cameraRunning = s.camera.cameraRunning
  status : s'.camera.status = s.camera.status
  cameraNumber : s'.cameraNumber = s.cameraNumber
  shots : s'.shots = s.shots
  completed : s'.completed = s.completed
  uploads : s'.uploads = s.uploads
  stored : s'.stored = s.stored
  door : s'.openDoorStartTakeFlag = s.openDoorStartTakeFlag

/-- The fields are compared at once. -/
theorem SameShots.of_eq
    (h : (s'.multi, s'.camera.cameraRunning, s'.camera.status, s'.cameraNumber,
      s'.shots, s'.completed, s'.uploads, s'.stored,
      s'.openDoorStartTakeFlag) =
        (s.multi, s.camera.cameraRunning, s.camera.status, s.cameraNumber,
          s.shots, s.completed, s.uploads, s.stored,
          s.openDoorStartTakeFlag)) : SameShots s s' := by
  simp only [Prod.mk.injEq] at h
  obtain ⟨hmulti, hrunning, hstatus, hnumber, hshots, hcompleted, huploads,
    hstored, hdoor⟩ := h
  exact ⟨hmulti, hrunning, hstatus, hnumber, hshots, hcompleted, huploads,
    hstored, hdoor⟩

theorem SameShots.remaining (h : SameShots s s') :
    s'.remaining = s.remaining := by
  rw [MediaState.remaining, h.multi, MediaState.remaining]

theorem SameShots.books (h : SameShots s s') (hbooks : s.Books) :
    s'.Books where
  completed := by
    rw [h.completed, h.uploads, h.remaining]
    exact hbooks.completed
  nodup := by
    rw [h.completed]
    exact hbooks.nodup
  sizes := by
    rw [h.remaining, h.stored]
    exact hbooks.sizes
  door := by
    rw [h.door]
    exact hbooks.door

theorem SameShots.turn (h : SameShots s s') (hturn : s.Turn)
    (hquiet : s'.Quiet) : s'.Turn where
  taking := by
    rw [h.multi]
    exact hturn.taking
  transfering := by
    rw [h.multi]
    exact hturn.transfering
  quiet := hquiet
  camera := by
    rw [h.cameraNumber]
    exact hturn.camera
  retry := by
    rw [h.multi]
    exact hturn.retry
  shots := by
    rw [h.cameraNumber, h.shots, h.multi]
    exact hturn.shots
  results := by
    rw [h.cameraNumber, h.multi]
    exact hturn.results
  uploads := by
    rw [h.uploads]
    exact hturn.uploads
  books := h.books hturn.books

theorem SameShots.taken (h : SameShots s s') (htaken : s.Taken) :
    s'.Taken where
  shots := by
    rw [h.shots]
    exact htaken.shots
  taking := by
    rw [h.multi]
    exact htaken.taking
  running := by
    rw [h.running]
    exact htaken.running
  status := by
    rw [h.status]
    exact htaken.status
  books := h.books htaken.books

/-- An event of the uploads that may occur in a run: no other upload is started
or ended, and none ends by a completion or by an exception. -/
def UploadMeets (s : MediaState) : UploadEvent → Prop
  | .photoSendStart _ => False
  | .photoSendEnd => False
  | .meidaTransException =>
      s.photo.photoSending = .enable → s.photo.exeptionTimer ≤ 50
  | .rx8800 infolen _ => infolen = 5 → s.photo.photoSending = .off
  | _ => True

instance (s : MediaState) : (e : UploadEvent) → Decidable (s.UploadMeets e)
  | .photoSendStart _ | .photoSendEnd => inferInstanceAs (Decidable False)
  | .meidaTransException => inferInstanceAs (Decidable (_ → _))
  | .rx8800 _ _ => inferInstanceAs (Decidable (_ → _))
  | .mediaTimer | .mediaTimerService | .infoSent | .infoAnswered
  | .positionSent | .dataSent | .behind _ => inferInstanceAs (Decidable True)

/-- Without an upload nothing is started. -/
theorem Quiet.uploadStep (h : s.Quiet) {e : UploadEvent}
    (hmeets : s.UploadMeets e) :
    SameShots s (s.uploadStep e) ∧ (s.uploadStep e).Quiet := by
  obtain ⟨hsending, hflag, hstate, hrsd⟩ := h
  have hne : s.photo.photoSending ≠ .enable := by
    rw [hsending]
    decide
  have hsame : SameShots s s := .of_eq rfl
  cases e with
  | photoSendStart camera => exact hmeets.elim
  | photoSendEnd => exact hmeets.elim
  | mediaTimer =>
      have hstep : s.mediaTimer = s := if_neg (by rw [hstate]; decide)
      rw [MediaState.uploadStep, hstep]
      exact ⟨hsame, ⟨hsending, hflag, hstate, hrsd⟩⟩
  | mediaTimerService =>
      have hphoto : s.photoTimer = s := if_neg fun hand => hne hand.1
      rw [MediaState.uploadStep, mediaTimerService, hphoto, mediaRSdModeTimer]
      cases hcase : s.media.rsdState with
      | off => exact ⟨hsame, ⟨hsending, hflag, hstate, hrsd⟩⟩
      | resend =>
          dsimp only
          split_ifs
          · exact ⟨.of_eq rfl, ⟨hsending, hflag, hstate, hrsd⟩⟩
          · exact ⟨.of_eq rfl, ⟨hsending, hflag, hstate, hrsd⟩⟩
      | waiting => exact absurd hcase hrsd
  | meidaTransException =>
      have hstep : s.meidaTransException = s := if_neg hne
      rw [MediaState.uploadStep, hstep]
      exact ⟨hsame, ⟨hsending, hflag, hstate, hrsd⟩⟩
  | infoSent =>
      have hstep : s.uploadStep .infoSent = s :=
        if_neg (by rw [hflag]; decide)
      rw [hstep]
      exact ⟨hsame, ⟨hsending, hflag, hstate, hrsd⟩⟩
  | infoAnswered =>
      have hstep : s.uploadStep .infoAnswered = s :=
        if_neg (by rw [hflag]; decide)
      rw [hstep]
      exact ⟨hsame, ⟨hsending, hflag, hstate, hrsd⟩⟩
  | positionSent =>
      rw [MediaState.uploadStep]
      split_ifs
      · exact ⟨.of_eq rfl, ⟨hsending, hflag, hstate, hrsd⟩⟩
      · exact ⟨hsame, ⟨hsending, hflag, hstate, hrsd⟩⟩
  | dataSent =>
      have hstuff : s.stuffMultiMediaData0801H = s.protocolHead :=
        if_neg fun hand => hne hand.1
      rw [MediaState.uploadStep, hstuff]
      split_ifs
      · exact ⟨.of_eq rfl, ⟨hsending, hflag, hstate, hrsd⟩⟩
      · exact ⟨hsame, ⟨hsending, hflag, hstate, hrsd⟩⟩
  | rx8800 infolen rx =>
      rw [MediaState.uploadStep, MediaState.rx8800]
      split_ifs
      · exact ⟨.of_eq rfl, ⟨rfl, rfl, rfl, by simp [mediaClearState]⟩⟩
      · exact ⟨.of_eq rfl, ⟨hsending, hflag, hstate, by simp⟩⟩
      · exact ⟨hsame, ⟨hsending, hflag, hstate, hrsd⟩⟩
  | behind bytes => exact ⟨.of_eq rfl, ⟨hsending, hflag, hstate, hrsd⟩⟩

theorem SameShots.trans {t u : MediaState} (h : SameShots s t)
    (h' : SameShots t u) : SameShots s u :=
  ⟨h'.multi.trans h.multi, h'.running.trans h.running,
    h'.status.trans h.status,
    h'.cameraNumber.trans h.cameraNumber, h'.shots.trans h.shots,
    h'.completed.trans h.completed, h'.uploads.trans h.uploads,
    h'.stored.trans h.stored, h'.door.trans h.door⟩

theorem photoTimer_same (s : MediaState) : SameShots s s.photoTimer ∧
    s.photoTimer.photo.photoSending = s.photo.photoSending := by
  rw [photoTimer]
  split_ifs
  · exact ⟨.of_eq rfl, rfl⟩
  · exact ⟨.of_eq rfl, rfl⟩
  · exact ⟨.of_eq rfl, rfl⟩

theorem mediaTimer_same (s : MediaState) : SameShots s s.mediaTimer ∧
    s.mediaTimer.photo.photoSending = s.photo.photoSending := by
  rw [mediaTimer]
  split_ifs
  · dsimp only
    split_ifs
    · exact ⟨.of_eq rfl, rfl⟩
    · exact ⟨.of_eq rfl, rfl⟩
  · exact ⟨.of_eq rfl, rfl⟩
  · exact ⟨.of_eq rfl, rfl⟩

theorem nextPacket_same (s : MediaState) : SameShots s s.nextPacket ∧
    s.nextPacket.photo.photoSending = s.photo.photoSending := by
  rw [nextPacket]
  by_cases hlast : s.media.totalPacketNum ≤ s.media.currentPacketNum ∧
      s.media.rsdState = .off
  · rw [if_pos hlast]
    exact ⟨.of_eq rfl, rfl⟩
  · rw [if_neg hlast]
    dsimp only
    cases s.media.rsdState with
    | off =>
        dsimp only
        split_ifs
        · exact ⟨.of_eq rfl, rfl⟩
        · exact ⟨.of_eq rfl, rfl⟩
    | resend => exact ⟨.of_eq rfl, rfl⟩
    | waiting => exact ⟨.of_eq rfl, rfl⟩

theorem stuffMultiMediaData0801H_same (s : MediaState) :
    SameShots s s.stuffMultiMediaData0801H ∧
      s.stuffMultiMediaData0801H.photo.photoSending =
        s.photo.photoSending := by
  rw [stuffMultiMediaData0801H]
  dsimp only
  split_ifs
  · have hhead : SameShots s (sendPacket { s.protocolHead with
        photo := { s.protocolHead.photo with sdFlag := false } }) :=
      .of_eq rfl
    have hsending : (sendPacket { s.protocolHead with
        photo := { s.protocolHead.photo with
          sdFlag := false } }).photo.photoSending = s.photo.photoSending := rfl
    generalize sendPacket _ = t at hhead hsending ⊢
    obtain ⟨hsame, heq⟩ := nextPacket_same t
    exact ⟨hhead.trans hsame, heq.trans hsending⟩
  · exact ⟨.of_eq rfl, rfl⟩
  · exact ⟨.of_eq rfl, rfl⟩

/-- The upload goes on, or the wait for the list of the centre is over and the
next upload may be started. -/
theorem uploadStep_cases (hsending : s.photo.photoSending ≠ .off)
    {e : UploadEvent} (hmeets : s.UploadMeets e) :
    SameShots s (s.uploadStep e) ∧
        (s.uploadStep e).photo.photoSending ≠ .off ∨
      ∃ t, s.uploadStep e = t.checkMultiTakeResult ∧ SameShots s t ∧
        t.Quiet := by
  cases e with
  | photoSendStart camera => exact hmeets.elim
  | photoSendEnd => exact hmeets.elim
  | mediaTimer =>
      obtain ⟨hsame, heq⟩ := mediaTimer_same s
      exact Or.inl ⟨hsame, by rw [MediaState.uploadStep, heq]; exact hsending⟩
  | mediaTimerService =>
      obtain ⟨hsame, heq⟩ := photoTimer_same s
      rw [MediaState.uploadStep, mediaTimerService]
      generalize s.photoTimer = t at hsame heq
      rw [← heq] at hsending
      rw [mediaRSdModeTimer]
      cases t.media.rsdState with
      | off => exact Or.inl ⟨hsame, hsending⟩
      | resend =>
          dsimp only
          split_ifs
          · exact Or.inl ⟨hsame.trans (.of_eq rfl), hsending⟩
          · exact Or.inl ⟨hsame.trans (.of_eq rfl), hsending⟩
      | waiting =>
          dsimp only
          split_ifs
          · exact Or.inr ⟨_, rfl,
              hsame.trans (.of_eq rfl),
              ⟨rfl, rfl, rfl, by simp [mediaClearState]⟩⟩
          · exact Or.inl ⟨hsame.trans (.of_eq rfl), hsending⟩
  | meidaTransException =>
      rw [MediaState.uploadStep, meidaTransException]
      split_ifs with henable hover
      · exact absurd (hmeets henable) (Nat.not_le_of_lt hover)
      · exact Or.inl ⟨.of_eq rfl, hsending⟩
      · exact Or.inl ⟨.of_eq rfl, hsending⟩
  | infoSent =>
      rw [MediaState.uploadStep]
      split_ifs
      · exact Or.inl ⟨.of_eq rfl, hsending⟩
      · exact Or.inl ⟨.of_eq rfl, hsending⟩
  | infoAnswered =>
      rw [MediaState.uploadStep]
      split_ifs
      · have henable : Sending.enable ≠ .off := by decide
        exact Or.inl ⟨.of_eq rfl, henable⟩
      · exact Or.inl ⟨.of_eq rfl, hsending⟩
  | positionSent =>
      rw [MediaState.uploadStep]
      split_ifs
      · exact Or.inl ⟨.of_eq rfl, hsending⟩
      · exact Or.inl ⟨.of_eq rfl, hsending⟩
  | dataSent =>
      rw [MediaState.uploadStep]
      split_ifs
      · obtain ⟨hsame, heq⟩ := stuffMultiMediaData0801H_same s
        rw [← heq] at hsending
        exact Or.inl ⟨hsame.trans (.of_eq rfl), hsending⟩
      · exact Or.inl ⟨.of_eq rfl, hsending⟩
  | rx8800 infolen rx =>
      rw [MediaState.uploadStep, MediaState.rx8800]
      split_ifs with hdone
      · exact absurd (hmeets hdone) hsending
      · exact Or.inl ⟨.of_eq rfl, hsending⟩
      · exact Or.inl ⟨.of_eq rfl, hsending⟩
  | behind bytes => exact Or.inl ⟨.of_eq rfl, hsending⟩

/-! ## Runs in order -/

/-- The next packet is stored behind the first page of its camera, and in front
of that of the next one: a picture has room for 327 packets. -/
def PageFits (s : MediaState) : Prop :=
  ∃ page ∈ picFirstPage s.cameraNumber, page < s.createPicture.picCurrentPage ∧
    s.createPicture.picCurrentPage < page + 328

instance (s : MediaState) : Decidable s.PageFits :=
  inferInstanceAs (Decidable (∃ page ∈ picFirstPage s.cameraNumber, _))

/-- The condition on an event: no remote update holds up the next shot, a packet
leaves the pictures that are to be uploaded and the directories alone, the size
of a picture is not lost, and an upload ends with the wait for the list of the
centre. -/
def RunMeets (s : MediaState) : RunEvent → Prop
  | .second => (s.camera.timeoutCounter + 1) % 65536 = 7 →
      s.cameraNumber = maxCameraNum ∧ s.multi.takeRetry = 2 ∨
        s.ispRunning = false
  | .picturePacket => s.camera.cameraRunning → s.SparesThird ∧ s.PageFits
  | .pictureComplete size => s.camera.cameraRunning →
      (s.SparesThird ∧ s.PageFits) ∧
        packetTotal (s.createPicture.stored s.cameraNumber &&& size) ≠ 0 ∧
          (s.cameraNumber = maxCameraNum ∨ s.ispRunning = false)
  | .upload e => s.UploadMeets e
  | _ => True

theorem sendConst485_same (s : MediaState) : SameShots s s.sendConst485 ∧
    s.sendConst485.photo = s.photo ∧ s.sendConst485.media = s.media := by
  rw [sendConst485]
  split_ifs
  · dsimp only
    cases hstatus : s.camera.status with
    | enable =>
        exact ⟨⟨rfl, rfl, hstatus.symm, rfl, rfl, rfl, rfl, rfl, rfl⟩, rfl, rfl⟩
    | transfer =>
        exact ⟨⟨rfl, rfl, hstatus.symm, rfl, rfl, rfl, rfl, rfl, rfl⟩, rfl, rfl⟩
    | other =>
        exact ⟨.of_eq rfl, rfl, rfl⟩
  · exact ⟨.of_eq rfl, rfl, rfl⟩

theorem Quiet.congr (h : s.Quiet) (hphoto : s'.photo = s.photo)
    (hmedia : s'.media = s.media) : s'.Quiet where
  sending := by
    rw [hphoto]
    exact h.sending
  mediaFlag := by
    rw [hmedia]
    exact h.mediaFlag
  eventstate := by
    rw [hmedia]
    exact h.eventstate
  rsd := by
    rw [hmedia]
    exact h.rsd

instance (s : MediaState) : (e : RunEvent) → Decidable (s.RunMeets e)
  | .second => inferInstanceAs (Decidable (_ → _))
  | .picturePacket | .pictureComplete _ => inferInstanceAs (Decidable (_ → _))
  | .upload e => inferInstanceAs (Decidable (s.UploadMeets e))
  | .sendConst485 | .isp _ => inferInstanceAs (Decidable True)

theorem Shooting.step (h : s.Shooting) {e : RunEvent}
    (hmeets : s.RunMeets e) : (s.runStep e).InRun := by
  have hturn := h.toTurn
  cases e with
  | second => exact h.second hmeets
  | pictureComplete size =>
      rw [runStep, if_pos h.running]
      obtain ⟨⟨hspares, -⟩, hsize, hisp⟩ := hmeets h.running
      exact hturn.complete hspares hsize hisp
  | picturePacket =>
      rw [runStep, if_pos h.running]
      obtain ⟨-, -, -, hrunning⟩ := createPicture_keeps s
      obtain ⟨htaking, htransfering, ⟨hsending, hflag, hstate, hrsd⟩, hcamera,
        hretry, hshots, hresults, huploads, hcompleted, hnodup, hsizes,
        hdoor⟩ := hturn.createPicture (hmeets h.running).1
      exact Or.inl ⟨⟨htaking, htransfering, ⟨hsending, hflag, hstate, hrsd⟩,
        hcamera, hretry, hshots, hresults, huploads,
        ⟨hcompleted, hnodup, hsizes, hdoor⟩⟩, hrunning.trans h.running⟩
  | sendConst485 =>
      obtain ⟨hsame, hphoto, hmedia⟩ := sendConst485_same s
      exact Or.inl ⟨hsame.turn hturn (h.quiet.congr hphoto hmedia),
        hsame.running.trans h.running⟩
  | isp running =>
      have hsame : SameShots s { s with ispRunning := running } :=
        .of_eq rfl
      exact Or.inl ⟨hsame.turn hturn (h.quiet.congr rfl rfl), h.running⟩
  | upload e =>
      obtain ⟨hsame, hquiet⟩ := h.quiet.uploadStep hmeets
      exact Or.inl ⟨hsame.turn hturn hquiet, by
        rw [runStep, hsame.running]
        exact h.running⟩

theorem Taken.second (h : s.Taken) : s.camraTakeException = s :=
  if_neg (by rw [h.running]; decide)

/-- With no shot running the events of a shot do nothing, and those of the line
leave the books alone. -/
theorem Taken.lineStep (h : s.Taken) {e : RunEvent}
    (he : ∀ e', e ≠ .upload e') : SameShots s (s.runStep e) ∧
      (s.runStep e).photo = s.photo ∧ (s.runStep e).media = s.media := by
  have hrunning : ¬ s.camera.cameraRunning = true := by
    rw [h.running]
    decide
  have hsame : SameShots s s := .of_eq rfl
  cases e with
  | second =>
      rw [runStep, h.second]
      exact ⟨hsame, rfl, rfl⟩
  | pictureComplete size =>
      rw [runStep, if_neg hrunning]
      exact ⟨hsame, rfl, rfl⟩
  | picturePacket =>
      rw [runStep, if_neg hrunning]
      exact ⟨hsame, rfl, rfl⟩
  | sendConst485 => exact sendConst485_same s
  | isp running =>
      exact ⟨.of_eq rfl, rfl, rfl⟩
  | upload e => exact absurd rfl (he e)

theorem SameShots.keeps_over (h : SameShots s s') (hover : s.Over)
    (hquiet : s'.Quiet) : s'.Over := by
  refine ⟨h.taken hover.toTaken, ?_, hquiet, ?_⟩
  · rw [h.multi]
    exact hover.transfering
  · rw [h.remaining]
    exact hover.remaining

theorem InRun.step (h : s.InRun) {e : RunEvent} (hmeets : s.RunMeets e) :
    (s.runStep e).InRun := by
  rcases h with hshooting | huploading | hover
  · exact hshooting.step hmeets
  · by_cases he : ∃ e', e = .upload e'
    · obtain ⟨e', rfl⟩ := he
      rcases uploadStep_cases huploading.sending hmeets with
        ⟨hsame, hsending⟩ | ⟨t, ht, hsame, hquiet⟩
      · exact Or.inr (Or.inl ⟨hsame.taken huploading.toTaken, hsending⟩)
      · rw [runStep, ht]
        exact inRun_check (hsame.taken huploading.toTaken) hquiet
    · obtain ⟨hsame, hphoto, -⟩ := huploading.toTaken.lineStep fun e' heq =>
        he ⟨e', heq⟩
      refine Or.inr (Or.inl ⟨hsame.taken huploading.toTaken, ?_⟩)
      rw [hphoto]
      exact huploading.sending
  · by_cases he : ∃ e', e = .upload e'
    · obtain ⟨e', rfl⟩ := he
      obtain ⟨hsame, hquiet⟩ := hover.quiet.uploadStep hmeets
      exact Or.inr (Or.inr (hsame.keeps_over hover hquiet))
    · obtain ⟨hsame, hphoto, hmedia⟩ := hover.toTaken.lineStep fun e' heq =>
        he ⟨e', heq⟩
      exact Or.inr (Or.inr (hsame.keeps_over hover
        (hover.quiet.congr hphoto hmedia)))

/-- A run may be started: the callers of `MultiTake_Start` check the first two,
and no remote update is running. -/
structure Ready (s : MediaState) : Prop where
  enable : s.CameraTakeEnable
  quiet : s.Quiet
  running : s.camera.cameraRunning = false
  isp : s.ispRunning = false
  door : s.openDoorStartTakeFlag = false
  /-- Nothing is noted of a run before. -/
  logs : s.shots = [] ∧ s.completed = [] ∧ s.uploads = []

theorem Ready.shooting (h : s.Ready) : s.multiTakeStart.Shooting := by
  obtain ⟨hsending, hflag, hstate, hrsd⟩ := h.quiet
  obtain ⟨hshots, hcompleted, huploads⟩ := h.logs
  have hnone : remaining { s with
      multi := {
        taking := true
        transfering := false
        curretCameraNum := 1
        takeResult := fun _ => .idle
        takeRetry := 0
        takeSuccessCounter := 0 }
      cameraNumber := 1 } = [] := by
    simp [remaining]
  have hfirst : Shooting (startCamera { s with
      multi := {
        taking := true
        transfering := false
        curretCameraNum := 1
        takeResult := fun _ => .idle
        takeRetry := 0
        takeSuccessCounter := 0 }
      cameraNumber := 1 } 1) := by
    refine shooting_startCamera h.isp rfl rfl h.running
      ⟨hsending, hflag, hstate, hrsd⟩
      ⟨Nat.le_refl 1, (by decide : 1 ≤ maxCameraNum)⟩
      (Nat.zero_le 2) ⟨[], tried_nil, hshots⟩ (fun _ _ => rfl) huploads
      ⟨?_, ?_, ?_, h.door⟩
    · rw [hnone]
      exact hcompleted.trans (congrArg (· ++ []) huploads).symm
    · rw [show s.completed = [] from hcompleted]
      exact List.nodup_nil
    · rw [hnone]
      exact fun k hk => nomatch hk
  rw [multiTakeStart]
  generalize startCamera _ 1 = t at hfirst
  obtain ⟨⟨htaking, htransfering, ⟨hsending, hflag, hstate, hrsd⟩, hcamera,
    hretry, hshots, hresults, huploads, ⟨hcompleted, hnodup, hsizes, hdoor⟩⟩,
    hrunning⟩ := hfirst
  exact ⟨⟨htaking, htransfering, ⟨hsending, hflag, hstate, hrsd⟩, hcamera,
    hretry, hshots, hresults, huploads, ⟨hcompleted, hnodup, hsizes, hdoor⟩⟩,
    hrunning⟩

/-- In every state of a run whose steps meet the condition the cameras are tried
in order, the pictures are uploaded once each, and nothing is left behind. -/
theorem inOrder_of_meeting (s : MediaState) (hs : s.Ready) (es : List RunEvent)
    (h : Runs.Meeting runStep RunMeets s.multiTakeStart es) :
    (es.foldl runStep s.multiTakeStart).InOrder := by
  have hstart : s.multiTakeStart.InRun := Or.inl hs.shooting
  have hstep : ∀ (s : MediaState) (e : RunEvent), s.InRun → s.RunMeets e →
      (s.runStep e).InRun := fun _ _ hrun hmeets => hrun.step hmeets
  exact (h.invariant hstep hstart).inOrder

theorem ready_initial : Ready {} where
  enable := ⟨rfl, rfl, rfl⟩
  quiet := ⟨rfl, rfl, rfl, by decide⟩
  running := rfl
  isp := rfl
  door := rfl
  logs := ⟨rfl, rfl, rfl⟩

/-- A camera delivers a picture of two packets. -/
def onePicture : List RunEvent :=
  [.sendConst485, .picturePacket, .sendConst485, .pictureComplete 700]

/-- A camera does not answer, and neither does it when its shot is repeated. -/
def noAnswer : List RunEvent := List.replicate 21 .second

/-- The event message of an upload is sent and answered. -/
def infoMessage : List RunEvent := [.upload .infoSent, .upload .infoAnswered]

/-- The first shot of camera 1 times out, and camera 4 does not answer. -/
theorem inOrder_of_meeting_timeout :
    ((List.replicate 7 RunEvent.second ++ onePicture ++ onePicture ++
      onePicture ++ noAnswer ++ infoMessage).foldl runStep
        (multiTakeStart {})).InOrder :=
  inOrder_of_meeting {} ready_initial _ (by decide +kernel)

/-- The first upload is ended by a completion, and the second is not started.
The picture of camera 3 is deleted by the first packet of camera 4, and its
upload is over before it begins. -/
theorem not_inOrder_completion :
    ¬ ((onePicture ++ onePicture ++ noAnswer ++ noAnswer ++ infoMessage ++
      [RunEvent.upload (.rx8800 5 fun _ => 0)]).foldl runStep
        (multiTakeStart {})).InOrder ∧
    ¬ ((noAnswer ++ noAnswer ++ onePicture ++ onePicture).foldl runStep
      (multiTakeStart {})).InOrder := by
  constructor
  · intro h
    have henable := (h.ended (by decide +kernel) (by decide +kernel)).1
    exact absurd henable.2.2 (by decide +kernel)
  · intro h
    have henable := (h.ended (by decide +kernel) (by decide +kernel)).1
    exact absurd henable.2.2 (by decide +kernel)

end VehicleRecorder.Camera.MediaState
