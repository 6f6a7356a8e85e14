import VehicleRecorder.Camera.Media
import VehicleRecorder.Lib.Runs
import Mathlib.Tactic.SplitIfs

/-!
# The cursor of an upload

While packets are sent, the total is the size of the picture in packets, and a
packet that is handed on has a number up to the total and a payload inside of
the picture.  The sizes are taken from the directory and the numbers from the
list of the centre: the invariant holds as long as the sizes fit, a list has at
most ten numbers, and none of them is zero.
-/

namespace VehicleRecorder.Camera

open Bytes

/-- The packet lies inside of the picture it is read from. -/
structure MediaPacket.Inside (p : MediaPacket) : Prop where
  total : p.total = (p.size + 511) / 512
  num : 1 ≤ p.num ∧ p.num ≤ p.total
  payload : (p.num - 1) * 512 + p.readsize ≤ p.size

namespace MediaState

/-- What the claim about an upload says of a state. -/
structure CursorInside (s : MediaState) : Prop where
  total : s.photo.photoSending = .enable →
    s.photo.totalPacketNum = (s.picFileSize + 511) / 512 ∧
      1 ≤ s.photo.totalPacketNum
  packets : ∀ p ∈ s.packets, p.Inside

/-! ## Sizes that fit -/

/-- A picture that is not empty, whose packets are counted in 16 bits, and whose
packets lie below 64 KB or are all full. -/
def SizeFits (n : ℕ) : Prop :=
  1 ≤ n ∧ n ≤ 65535 * 512 ∧ (n ≤ 65536 ∨ n % 512 = 0)

instance (n : ℕ) : Decidable (SizeFits n) := inferInstanceAs (Decidable (_ ∧ _))

theorem packetTotal_eq {n : ℕ} (h : SizeFits n) :
    packetTotal n = (n + 511) / 512 := by
  rw [SizeFits] at h
  rw [packetTotal]
  split_ifs <;> omega

theorem packetTotal_pos {n : ℕ} (h : SizeFits n) : 1 ≤ packetTotal n := by
  rw [packetTotal_eq h]
  rw [SizeFits] at h
  omega

/-- The packets of a picture that fits lie inside of it. -/
theorem payload_inside {n num : ℕ} (h : SizeFits n) (hpos : 1 ≤ num)
    (hle : num ≤ (n + 511) / 512) :
    (num - 1) * 512 + min 512 (n - inadd num) ≤ n := by
  obtain ⟨hn, -, hsmall | hfull⟩ := h
  · have hplace : inadd num = (num - 1) * 512 := by
      rw [inadd]
      omega
    rw [hplace]
    omega
  · have hmin := Nat.min_le_left 512 (n - inadd num)
    omega

/-- Of a picture of at most 127 packets there is no packet 0. -/
theorem not_inadd_zero {n : ℕ} (h : n ≤ 65024) : ¬ inadd 0 < n :=
  Nat.not_lt_of_le h

/-! ## The invariant -/

/-- An upload of a picture that fits. -/
structure Started (s : MediaState) : Prop where
  size : s.picFileSize = s.stored s.cameraNumber
  fits : SizeFits s.picFileSize
  total : s.photo.totalPacketNum = packetTotal s.picFileSize

/-- The list of the centre is read inside of its bounds and asks for no packet
0, unless the picture is too small for it. -/
structure ListFits (s : MediaState) : Prop where
  total : s.media.rsdTotal = s.media.reSdList.length
  room : s.media.rsdTotal ≤ 10
  reader : s.media.rsdReader < s.media.rsdTotal
  nums : s.picFileSize ≤ 65024 ∨ ∀ b ∈ s.media.reSdList, b ≠ 0

/-- The invariant of an upload. -/
structure Cursor (s : MediaState) : Prop where
  /-- Without an upload no event message goes out. -/
  off : s.photo.photoSending = .off →
    s.media.sdMediaFlag = .off ∧ s.media.sdEventstate = false
  started : s.photo.photoSending ≠ .off → s.Started
  num : s.photo.photoSending = .enable →
    s.picFileSize ≤ 65024 ∨ 1 ≤ s.photo.sdPacketNum
  list : s.photo.photoSending = .enable → s.media.rsdState = .resend →
    s.ListFits
  packets : ∀ p ∈ s.packets, p.Inside

/-- The condition on an event: an upload is started for a picture that fits, a
list has room in the array, and one that comes while packets are sent asks for
no packet 0, unless the picture is too small for it. -/
def Meets (s : MediaState) : UploadEvent → Prop
  | .photoSendStart camera =>
      1 ≤ camera ∧ camera ≤ 4 ∧ SizeFits (s.stored camera)
  | .mediaTimerService => s.media.rsdState = .waiting → 120 ≤ s.media.rsdTimer →
      ∀ i, s.firstSuccess = some i → SizeFits (s.stored (i + 1))
  | .rx8800 infolen rx => infolen ≠ 5 → (rx 17).toNat ≤ 10 ∧
      (s.photo.photoSending = .enable →
        s.picFileSize ≤ 65024 ∨ ∀ b ∈ readBytes rx 18 (rx 17).toNat, b ≠ 0)
  | _ => True

variable {s : MediaState}

theorem Cursor.inside (h : s.Cursor) : s.CursorInside where
  total := by
    intro henable
    have hne : s.photo.photoSending ≠ .off := by
      rw [henable]
      decide
    have hstarted := h.started hne
    rw [hstarted.total, packetTotal_eq hstarted.fits]
    refine ⟨rfl, ?_⟩
    rw [← packetTotal_eq hstarted.fits]
    exact packetTotal_pos hstarted.fits
  packets := h.packets

/-! ## Steps -/

/-- The upload is of the same picture, in the same state. -/
structure SameUpload (s s' : MediaState) : Prop where
  sending : s'.photo.photoSending = s.photo.photoSending
  total : s'.photo.totalPacketNum = s.photo.totalPacketNum
  size : s'.picFileSize = s.picFileSize
  camera : s'.cameraNumber = s.cameraNumber
  stored : s'.stored = s.stored

/-- What is left to show when only the cursor and the flags change. -/
theorem Cursor.update {s' : MediaState} (h : s.Cursor) (hsame : SameUpload s s')
    (hoff : s.photo.photoSending = .off →
      s'.media.sdMediaFlag = .off ∧ s'.media.sdEventstate = false)
    (hnum : s.photo.photoSending = .enable →
      s.picFileSize ≤ 65024 ∨ 1 ≤ s'.photo.sdPacketNum)
    (hlist : s.photo.photoSending = .enable → s'.media.rsdState = .resend →
      s'.ListFits)
    (hpackets : ∀ p ∈ s'.packets, p.Inside) : s'.Cursor where
  off := by
    rw [hsame.sending]
    exact hoff
  started := by
    intro hne
    rw [hsame.sending] at hne
    have hstarted := h.started hne
    refine ⟨?_, ?_, ?_⟩
    · rw [hsame.size, hsame.stored, hsame.camera, hstarted.size]
    · rw [hsame.size]
      exact hstarted.fits
    · rw [hsame.total, hsame.size, hstarted.total]
  num := by
    rw [hsame.sending, hsame.size]
    exact hnum
  list := by
    rw [hsame.sending]
    exact hlist
  packets := hpackets

/-- The list of the centre is read at the same place. -/
structure SameList (s s' : MediaState) : Prop where
  state : s'.media.rsdState = s.media.rsdState
  total : s'.media.rsdTotal = s.media.rsdTotal
  reader : s'.media.rsdReader = s.media.rsdReader
  list : s'.media.reSdList = s.media.reSdList

/-- What is left to show when the list is read at the same place. -/
theorem Cursor.keep {s' : MediaState} (h : s.Cursor) (hsame : SameUpload s s')
    (hlist : SameList s s')
    (hoff : s.photo.photoSending = .off →
      s'.media.sdMediaFlag = .off ∧ s'.media.sdEventstate = false)
    (hnum : s.photo.photoSending = .enable →
      s.picFileSize ≤ 65024 ∨ 1 ≤ s'.photo.sdPacketNum)
    (hpackets : ∀ p ∈ s'.packets, p.Inside) : s'.Cursor := by
  refine h.update hsame hoff hnum ?_ hpackets
  intro henable hresend
  rw [hlist.state] at hresend
  have hfits := h.list henable hresend
  refine ⟨?_, ?_, ?_, ?_⟩
  · rw [hlist.total, hlist.list, hfits.total]
  · rw [hlist.total]
    exact hfits.room
  · rw [hlist.total, hlist.reader]
    exact hfits.reader
  · rw [hlist.list, hsame.size]
    exact hfits.nums

theorem Cursor.clear (h : s.Cursor) : s.mediaClearState.Cursor :=
  h.update ⟨rfl, rfl, rfl, rfl, rfl⟩ (fun _ => ⟨rfl, rfl⟩) h.num
    (fun _ hresend => absurd hresend (by simp [mediaClearState])) h.packets

/-- An upload can be ended in every state. -/
theorem cursor_photoSendEnd (h : ∀ p ∈ s.packets, p.Inside) :
    s.photoSendEnd.Cursor where
  off := fun _ => ⟨rfl, rfl⟩
  started := fun hne => absurd rfl hne
  num := fun henable => absurd henable (by simp [photoSendEnd, mediaClearState])
  list := fun henable => absurd henable
    (by simp [photoSendEnd, mediaClearState])
  packets := h

/-- An upload is started for a picture that fits. -/
theorem cursor_photoSendStart (h : ∀ p ∈ s.packets, p.Inside)
    (hcamera : 1 ≤ s.cameraNumber ∧ s.cameraNumber ≤ 4)
    (hfits : SizeFits (s.stored s.cameraNumber)) : s.photoSendStart.Cursor := by
  have hsize : s.queriedSize = s.stored s.cameraNumber := if_pos hcamera
  have hpos := packetTotal_pos hfits
  rw [photoSendStart]
  dsimp only
  rw [hsize, if_neg (by omega)]
  have hoff : Sending.other ≠ .off := by decide
  have henable : Sending.other ≠ .enable := by decide
  exact
    { off := fun h => absurd h hoff
      started := fun _ => ⟨rfl, hfits, rfl⟩
      num := fun h => absurd h henable
      list := fun h => absurd h henable
      packets := h }

/-- The answer to the event message finds an upload that was started. -/
theorem Cursor.ack (h : s.Cursor) (hsent : s.media.sdMediaFlag = .sent) :
    s.multimedia0800HAckProcess.Cursor := by
  have hne : s.photo.photoSending ≠ .off := by
    intro hoff
    rw [(h.off hoff).1] at hsent
    exact absurd hsent (by decide)
  have hstarted := h.started hne
  have hoff : Sending.enable ≠ .off := by decide
  exact
    { off := fun h => absurd h hoff
      started := fun _ => ⟨hstarted.size, hstarted.fits, hstarted.total⟩
      num := fun _ => Or.inr (Nat.le_refl 1)
      list := fun _ hresend => absurd hresend
        (by simp [multimedia0800HAckProcess, mediaClearState])
      packets := h.packets }

theorem cursor_check (h : ∀ p ∈ s.packets, p.Inside)
    (hoff : s.photo.photoSending = .off ∧ s.media.sdMediaFlag = .off ∧
      s.media.sdEventstate = false)
    (hfits : ∀ i, s.firstSuccess = some i → SizeFits (s.stored (i + 1))) :
    s.checkMultiTakeResult.Cursor := by
  obtain ⟨hsending, hidle⟩ := hoff
  rw [checkMultiTakeResult]
  cases hfirst : s.firstSuccess with
  | none =>
      exact
        { off := fun _ => hidle
          started := fun h => absurd hsending h
          num := fun h => absurd (hsending.symm.trans h) (by decide)
          list := fun h => absurd (hsending.symm.trans h) (by decide)
          packets := h }
  | some i =>
      have hlt : i < maxCameraNum :=
        List.mem_range.mp (List.mem_of_find?_eq_some hfirst)
      have hfits := hfits i hfirst
      dsimp only
      exact cursor_photoSendStart h ⟨Nat.le_add_left 1 i, hlt⟩ hfits

theorem Cursor.photoTimer (h : s.Cursor) : s.photoTimer.Cursor := by
  rw [MediaState.photoTimer]
  split_ifs
  · exact h.keep ⟨rfl, rfl, rfl, rfl, rfl⟩ ⟨rfl, rfl, rfl, rfl⟩
      h.off h.num h.packets
  · exact h.keep ⟨rfl, rfl, rfl, rfl, rfl⟩ ⟨rfl, rfl, rfl, rfl⟩
      h.off h.num h.packets
  · exact h

/-- The timer of the packets leaves the list and the results alone. -/
theorem photoTimer_keeps (s : MediaState) :
    s.photoTimer.media.rsdState = s.media.rsdState ∧
      s.photoTimer.media.rsdTimer = s.media.rsdTimer ∧
      s.photoTimer.multi = s.multi ∧ s.photoTimer.stored = s.stored := by
  rw [MediaState.photoTimer]
  split_ifs
  · exact ⟨rfl, rfl, rfl, rfl⟩
  · exact ⟨rfl, rfl, rfl, rfl⟩
  · exact ⟨rfl, rfl, rfl, rfl⟩

/-- The entry of the list that is read is one of it. -/
theorem ListFits.entry (h : s.ListFits) :
    s.picFileSize ≤ 65024 ∨
      1 ≤ (s.mediaReSdList s.media.rsdReader).toNat := by
  have hlt : s.media.rsdReader < s.media.reSdList.length := by
    rw [← h.total]
    exact h.reader
  rw [mediaReSdList, if_pos (Nat.lt_of_lt_of_le h.reader h.room),
    List.getElem?_eq_getElem hlt, Option.getD_some]
  refine h.nums.imp id ?_
  intro hnums
  have hne := hnums _ (List.getElem_mem hlt)
  exact Nat.pos_of_ne_zero fun hzero => hne (UInt8.toNat_inj.mp hzero)

theorem Cursor.rsdTimer (h : s.Cursor)
    (hfits : s.media.rsdState = .waiting → 120 ≤ s.media.rsdTimer →
      ∀ i, s.firstSuccess = some i → SizeFits (s.stored (i + 1))) :
    s.mediaRSdModeTimer.Cursor := by
  rw [mediaRSdModeTimer]
  cases hstate : s.media.rsdState with
  | off => exact h
  | resend =>
      have hlist (henable : s.photo.photoSending = .enable) :=
        h.list henable hstate
      dsimp only
      split_ifs
      · exact h.keep ⟨rfl, rfl, rfl, rfl, rfl⟩ ⟨rfl, rfl, rfl, rfl⟩
          h.off (fun henable => (hlist henable).entry) h.packets
      · exact h.keep ⟨rfl, rfl, rfl, rfl, rfl⟩ ⟨rfl, rfl, rfl, rfl⟩
          h.off h.num h.packets
  | waiting =>
      dsimp only
      split_ifs with hover
      · exact cursor_check h.packets ⟨rfl, rfl, rfl⟩
          (hfits hstate (by omega))
      · refine h.update ⟨rfl, rfl, rfl, rfl, rfl⟩ h.off h.num ?_ h.packets
        intro _ hresend
        exact absurd (hstate.symm.trans hresend) (by decide)

theorem Cursor.mediaTimer (h : s.Cursor) : s.mediaTimer.Cursor := by
  have hon (hevent : s.media.sdEventstate = true) {b : Prop}
      (hoff : s.photo.photoSending = .off) : b := by
    rw [(h.off hoff).2] at hevent
    exact absurd hevent (by decide)
  rw [MediaState.mediaTimer]
  split_ifs with hevent hover
  · have hnext : Cursor { s with media := { s.media with
        sdTimer := 0
        sdMediaFlag := .send
        maxSdCounter := s.media.maxSdCounter + 1 } } := by
      exact h.keep ⟨rfl, rfl, rfl, rfl, rfl⟩ ⟨rfl, rfl, rfl, rfl⟩
        (hon hevent) h.num h.packets
    dsimp only
    split_ifs
    · exact hnext.clear
    · exact hnext
  · exact h.keep ⟨rfl, rfl, rfl, rfl, rfl⟩ ⟨rfl, rfl, rfl, rfl⟩
      h.off h.num h.packets
  · exact h

theorem Cursor.transException (h : s.Cursor) :
    s.meidaTransException.Cursor := by
  rw [meidaTransException]
  split_ifs
  · exact cursor_photoSendEnd h.packets
  · exact h.keep ⟨rfl, rfl, rfl, rfl, rfl⟩ ⟨rfl, rfl, rfl, rfl⟩
      h.off h.num h.packets
  · exact h

theorem Cursor.rx8800 (h : s.Cursor) {infolen : ℕ} {rx : ℕ → UInt8}
    (hmeets : infolen ≠ 5 → (rx 17).toNat ≤ 10 ∧
      (s.photo.photoSending = .enable → s.picFileSize ≤ 65024 ∨
        ∀ b ∈ readBytes rx 18 (rx 17).toNat, b ≠ 0)) :
    (s.rx8800 infolen rx).Cursor := by
  rw [MediaState.rx8800]
  split_ifs with hdone hlist
  · exact (cursor_photoSendEnd h.packets).clear
  · refine h.update ⟨rfl, rfl, rfl, rfl, rfl⟩ h.off h.num ?_ h.packets
    obtain ⟨hroom, hnums⟩ := hmeets hdone
    have hall : min 10 (rx 17).toNat = (rx 17).toNat := Nat.min_eq_right hroom
    intro henable _
    refine ⟨?_, hroom, ?_, ?_⟩
    · rw [hall]
      exact (readBytes_length rx 18 (rx 17).toNat).symm
    · exact Nat.pos_of_ne_zero fun hzero => hlist (UInt8.toNat_inj.mp hzero)
    · rw [hall]
      exact hnums henable
  · exact h

/-! ## A packet -/

/-- The packet that is handed on. -/
theorem Cursor.sendPacket (h : s.Cursor)
    (henable : s.photo.photoSending = .enable)
    (hcurrent : s.media.currentPacketNum = s.photo.sdPacketNum)
    (htotal : s.media.totalPacketNum = s.photo.totalPacketNum)
    (hadd : inadd s.photo.sdPacketNum < s.picFileSize)
    (hle : s.media.currentPacketNum ≤ s.media.totalPacketNum) :
    s.sendPacket.Cursor := by
  have hstarted := h.started (by rw [henable]; decide)
  have htotal' : s.media.totalPacketNum = (s.picFileSize + 511) / 512 := by
    rw [htotal, hstarted.total, packetTotal_eq hstarted.fits]
  have hpos : 1 ≤ s.photo.sdPacketNum := by
    rcases h.num henable with hsmall | hpos
    · rcases Nat.eq_zero_or_pos s.photo.sdPacketNum with hzero | hpos
      · rw [hzero] at hadd
        exact absurd hadd (not_inadd_zero hsmall)
      · exact hpos
    · exact hpos
  refine h.keep ⟨rfl, rfl, rfl, rfl, rfl⟩ ⟨rfl, rfl, rfl, rfl⟩ h.off h.num ?_
  intro p hp
  rcases List.mem_append.mp hp with hold | hnew
  · exact h.packets p hold
  · rw [List.mem_singleton.mp hnew]
    rw [hcurrent] at hle
    refine ⟨?_, ?_, ?_⟩
    · dsimp only
      rw [← hstarted.size, htotal']
    · dsimp only
      rw [hcurrent]
      exact ⟨hpos, hle⟩
    · dsimp only
      rw [← hstarted.size, hcurrent]
      rw [htotal'] at hle
      exact payload_inside hstarted.fits hpos hle

/-- Behind the packet the cursor moves on, or the list does. -/
theorem Cursor.nextPacket (h : s.Cursor)
    (henable : s.photo.photoSending = .enable)
    (hcurrent : s.media.currentPacketNum = s.photo.sdPacketNum)
    (htotal : s.media.totalPacketNum = s.photo.totalPacketNum) :
    s.nextPacket.Cursor := by
  have hbound : s.photo.totalPacketNum < 65536 := by
    rw [(h.started (by rw [henable]; decide)).total]
    exact Nat.mod_lt _ (by decide)
  rw [MediaState.nextPacket]
  by_cases hlast : s.media.totalPacketNum ≤ s.media.currentPacketNum ∧
      s.media.rsdState = .off
  · rw [if_pos hlast]
    refine h.update ⟨rfl, rfl, rfl, rfl, rfl⟩ h.off h.num ?_ h.packets
    intro _ hresend
    exact absurd hresend (by simp)
  · rw [if_neg hlast]
    dsimp only
    cases hstate : s.media.rsdState with
    | off =>
        dsimp only
        split_ifs with hmore
        · refine h.update ⟨rfl, rfl, rfl, rfl, rfl⟩ h.off ?_ ?_ h.packets
          · intro _
            have hlt := hmore.1
            exact Or.inr (by dsimp only; omega)
          · intro _ hresend
            exact absurd (hstate.symm.trans hresend) (by decide)
        · exact h
    | resend =>
        have hlist := h.list henable hstate
        have hreader := hlist.reader
        refine h.update ⟨rfl, rfl, rfl, rfl, rfl⟩ h.off h.num ?_ h.packets
        intro _ hresend
        refine ⟨hlist.total, hlist.room, ?_, hlist.nums⟩
        have hne : (s.media.rsdReader + 1) % 256 ≠ s.media.rsdTotal := by
          intro hlast
          simp [hlast] at hresend
        dsimp only
        omega
    | waiting => exact h

theorem Cursor.dataSent (h : s.Cursor) :
    s.stuffMultiMediaData0801H.Cursor := by
  have hhead : s.protocolHead.Cursor := by
    exact h.keep ⟨rfl, rfl, rfl, rfl, rfl⟩ ⟨rfl, rfl, rfl, rfl⟩
      h.off h.num h.packets
  rw [stuffMultiMediaData0801H]
  dsimp only
  split_ifs with hready hfits
  · have hflag : Cursor { s.protocolHead with
        photo := { s.protocolHead.photo with sdFlag := false } } := by
      exact hhead.keep ⟨rfl, rfl, rfl, rfl, rfl⟩ ⟨rfl, rfl, rfl, rfl⟩
        hhead.off hhead.num hhead.packets
    exact (hflag.sendPacket hready.1 rfl rfl hfits.1 hfits.2).nextPacket
      hready.1 rfl rfl
  · exact hhead.keep ⟨rfl, rfl, rfl, rfl, rfl⟩ ⟨rfl, rfl, rfl, rfl⟩
      hhead.off hhead.num hhead.packets
  · exact hhead

/-! ## Runs -/

theorem Cursor.step (h : s.Cursor) {e : UploadEvent} (hmeets : s.Meets e) :
    (s.uploadStep e).Cursor := by
  cases e with
  | photoSendStart camera =>
      exact cursor_photoSendStart h.packets ⟨hmeets.1, hmeets.2.1⟩ hmeets.2.2
  | photoSendEnd => exact cursor_photoSendEnd h.packets
  | mediaTimer => exact h.mediaTimer
  | mediaTimerService =>
      refine h.photoTimer.rsdTimer ?_
      obtain ⟨hmedia, htimer, hmulti, hstored⟩ := photoTimer_keeps s
      rw [hmedia, htimer, hstored, firstSuccess, hmulti]
      exact hmeets
  | meidaTransException => exact h.transException
  | infoSent =>
      rw [uploadStep]
      split_ifs with hsend
      · refine h.keep ⟨rfl, rfl, rfl, rfl, rfl⟩ ⟨rfl, rfl, rfl, rfl⟩
          ?_ h.num h.packets
        intro hoff
        rw [(h.off hoff).1] at hsend
        exact absurd hsend (by decide)
      · exact h
  | infoAnswered =>
      rw [uploadStep]
      split_ifs with hsent
      · exact h.ack hsent
      · exact h
  | positionSent =>
      rw [uploadStep]
      split_ifs
      · exact h.keep ⟨rfl, rfl, rfl, rfl, rfl⟩ ⟨rfl, rfl, rfl, rfl⟩
          h.off h.num h.packets
      · exact h
  | dataSent =>
      rw [uploadStep]
      split_ifs
      · have hsent := h.dataSent
        exact hsent.keep ⟨rfl, rfl, rfl, rfl, rfl⟩ ⟨rfl, rfl, rfl, rfl⟩
          hsent.off hsent.num hsent.packets
      · exact h
  | rx8800 infolen rx => exact h.rx8800 hmeets
  | behind bytes =>
      exact h.keep ⟨rfl, rfl, rfl, rfl, rfl⟩ ⟨rfl, rfl, rfl, rfl⟩
        h.off h.num h.packets

/-- No upload is in progress. -/
structure Fresh (s : MediaState) : Prop where
  sending : s.photo.photoSending = .off
  media : s.media.sdMediaFlag = .off ∧ s.media.sdEventstate = false
  packets : s.packets = []

theorem Fresh.cursor (h : s.Fresh) : s.Cursor where
  off := fun _ => h.media
  started := fun hne => absurd h.sending hne
  num := fun henable => absurd (h.sending.symm.trans henable) (by decide)
  list := fun henable => absurd (h.sending.symm.trans henable) (by decide)
  packets := by
    rw [h.packets]
    exact fun p hp => nomatch hp

/-- In every state of a run whose steps meet the condition the cursor lies
inside of the picture. -/
theorem cursorInside_of_meeting (s : MediaState) (hs : s.Fresh)
    (es : List UploadEvent) (h : Runs.Meeting uploadStep Meets s es) :
    (es.foldl uploadStep s).CursorInside :=
  (h.invariant (fun _ _ hcursor hmeets => hcursor.step hmeets)
    hs.cursor).inside

/-- A device with pictures of two packets. -/
def twoPackets : MediaState where
  photo := { dataSdCounter := 12 }
  stored := fun _ => 700

theorem cursorInside_of_meeting_twoPackets :
    ([.photoSendStart 1, .infoSent, .infoAnswered, .positionSent,
      .mediaTimerService, .dataSent, .rx8800 8 fun _ => 2, .rx8800 5 fun _ => 0]
        |>.foldl uploadStep twoPackets).CursorInside :=
  cursorInside_of_meeting twoPackets ⟨rfl, ⟨rfl, rfl⟩, rfl⟩ _
    ⟨⟨by decide, by decide, by decide⟩, trivial, trivial, trivial,
      fun hwaiting => absurd hwaiting (by decide), trivial,
      fun _ => ⟨by decide, fun _ => Or.inl (by decide)⟩,
      fun hne => absurd rfl hne, trivial⟩

/-- The run that asks for packet 0 again. -/
def packetZero : List UploadEvent :=
  [.photoSendStart 1, .infoSent, .infoAnswered, .positionSent,
    .rx8800 6 fun i => if i = 17 then 1 else 0] ++
      List.replicate 11 .mediaTimerService ++ [.dataSent]

/-- An empty picture is sent, and packet 0 of a picture of 64 KB. -/
theorem not_cursorInside :
    ¬ ([.photoSendStart 1, .infoSent, .infoAnswered].foldl uploadStep
      { stored := fun _ => 0 }).CursorInside ∧
    ¬ (packetZero.foldl uploadStep
      { stored := fun _ => 65536 }).CursorInside := by
  constructor
  · intro h
    exact absurd (h.total rfl).2 (by decide)
  · intro h
    have hmem : (⟨1, 0, 128, 512, 65536⟩ : MediaPacket) ∈
        (packetZero.foldl uploadStep { stored := fun _ => 65536 }).packets := by
      decide +kernel
    exact absurd (h.packets _ hmem).num.1 (by decide)

end MediaState

end VehicleRecorder.Camera
