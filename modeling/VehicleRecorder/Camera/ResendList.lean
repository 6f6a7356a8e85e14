import VehicleRecorder.Camera.UploadCursor

/-!
# The list of packets asked for again

The centre asks for packets by their numbers.  Two timers drive the sending:
`Media_RSdMode_Timer` loads the number under the cursor of the list and asks the
main loop to send, `Photo_Timer` asks for it without loading anything, and every
packet that is sent moves the cursor on.  A number is missed when its packet is
still to be loaded as the cursor passes it for the last time.
-/

namespace VehicleRecorder.Camera

open Runs

namespace MediaState

/-! ## Steps -/

/-- The timers and the main loop, in any order. -/
inductive ResendEvent
  | photoTimer
  | mediaRSdModeTimer
  | dataSent
  deriving DecidableEq, Repr

def resendStep (s : MediaState) : ResendEvent → MediaState
  | .photoTimer => s.photoTimer
  | .mediaRSdModeTimer => s.mediaRSdModeTimer
  | .dataSent => s.uploadStep .dataSent

/-- The numbers in the list of the centre. -/
def requested (s : MediaState) : List ℕ := s.media.reSdList.map UInt8.toNat

/-- `Media_ReSdList[RSD_Reader]`. -/
def entry (s : MediaState) : ℕ :=
  (s.mediaReSdList s.media.rsdReader).toNat

/-- The numbers of the packets behind the first `base` ones. -/
def sentSince (base : ℕ) (s : MediaState) : List ℕ :=
  (s.packets.drop base).map MediaPacket.num

/-- The main loop finds a packet to send. -/
def Sends (s : MediaState) : Prop :=
  (s.media.transmittingFlag = .data ∧ s.media.sdDataFlag) ∧
    (s.photo.photoSending = .enable ∧ s.photo.sdFlag) ∧
      inadd s.photo.sdPacketNum < s.picFileSize ∧
        s.photo.sdPacketNum ≤ s.photo.totalPacketNum

instance (s : MediaState) : Decidable s.Sends :=
  inferInstanceAs (Decidable (_ ∧ _))

/-- Nothing is sent, but the number under the cursor may be loaded. -/
structure Loads (s s' : MediaState) : Prop where
  state : s'.media.rsdState = s.media.rsdState
  list : s'.media.reSdList = s.media.reSdList
  total : s'.media.rsdTotal = s.media.rsdTotal
  reader : s'.media.rsdReader = s.media.rsdReader
  packets : s'.packets = s.packets
  num : s'.photo.sdPacketNum = s.photo.sdPacketNum ∨
    s'.photo.sdPacketNum = s.entry

/-- A packet is sent, and the cursor of the list moves on. -/
structure Serves (s s' : MediaState) : Prop where
  state : s'.media.rsdState =
    if (s.media.rsdReader + 1) % 256 = s.media.rsdTotal then .waiting
    else .resend
  list : s'.media.reSdList = s.media.reSdList
  total : s'.media.rsdTotal = s.media.rsdTotal
  reader : s'.media.rsdReader = (s.media.rsdReader + 1) % 256
  packets : ∃ p, s'.packets = s.packets ++ [p] ∧ p.num = s.photo.sdPacketNum
  num : s'.photo.sdPacketNum = s.photo.sdPacketNum

variable {s : MediaState}

theorem loads_photoTimer (s : MediaState) : Loads s s.photoTimer := by
  rw [MediaState.photoTimer]
  split_ifs
  · exact ⟨rfl, rfl, rfl, rfl, rfl, .inl rfl⟩
  · exact ⟨rfl, rfl, rfl, rfl, rfl, .inl rfl⟩
  · exact ⟨rfl, rfl, rfl, rfl, rfl, .inl rfl⟩

theorem loads_mediaRSdModeTimer (h : s.media.rsdState = .resend) :
    Loads s s.mediaRSdModeTimer := by
  rw [mediaRSdModeTimer, h]
  dsimp only
  split_ifs
  · exact ⟨rfl, rfl, rfl, rfl, rfl, .inr rfl⟩
  · exact ⟨rfl, rfl, rfl, rfl, rfl, .inl rfl⟩

theorem loads_of_not_sends (h : ¬ s.Sends) :
    Loads s (s.uploadStep .dataSent) := by
  rw [uploadStep]
  split_ifs with hflag
  · rw [stuffMultiMediaData0801H]
    dsimp only
    split_ifs with hready hfits
    · exact absurd ⟨hflag, hready, hfits⟩ h
    · exact ⟨rfl, rfl, rfl, rfl, rfl, .inl rfl⟩
    · exact ⟨rfl, rfl, rfl, rfl, rfl, .inl rfl⟩
  · exact ⟨rfl, rfl, rfl, rfl, rfl, .inl rfl⟩

/-- Behind a packet of the list the cursor of the list moves on. -/
theorem nextPacket_of_resend (h : s.media.rsdState = .resend) :
    s.nextPacket = { s with media := { s.media with
      rsdReader := (s.media.rsdReader + 1) % 256
      rsdState :=
        if (s.media.rsdReader + 1) % 256 = s.media.rsdTotal then .waiting
        else .resend } } := by
  have hlist : ¬ (s.media.totalPacketNum ≤ s.media.currentPacketNum ∧
      s.media.rsdState = .off) := by
    rintro ⟨-, hoff⟩
    exact absurd (h.symm.trans hoff) (by decide)
  rw [nextPacket, if_neg hlist]
  dsimp only
  rw [h]

theorem serves_of_sends (hresend : s.media.rsdState = .resend) (h : s.Sends) :
    Serves s (s.uploadStep .dataSent) := by
  obtain ⟨hflag, hready, hfits⟩ := h
  have hserve : s.stuffMultiMediaData0801H = MediaState.nextPacket
      (MediaState.sendPacket { s.protocolHead with
        photo := { s.protocolHead.photo with sdFlag := false } }) :=
    (if_pos hready).trans (if_pos hfits)
  have hnext := nextPacket_of_resend (s := MediaState.sendPacket
    { s.protocolHead with
      photo := { s.protocolHead.photo with sdFlag := false } }) hresend
  rw [uploadStep, if_pos hflag, hserve, hnext]
  exact ⟨rfl, rfl, rfl, rfl, ⟨_, rfl, rfl⟩, rfl⟩

/-- What a step can do while the list is worked on. -/
theorem resendStep_cases (hresend : s.media.rsdState = .resend)
    (e : ResendEvent) :
    (¬ (e = .dataSent ∧ s.Sends) ∧ Loads s (s.resendStep e)) ∨
      ((e = .dataSent ∧ s.Sends) ∧ Serves s (s.resendStep e)) := by
  cases e with
  | photoTimer => exact .inl ⟨(fun h => nomatch h.1), loads_photoTimer s⟩
  | mediaRSdModeTimer =>
      exact .inl ⟨(fun h => nomatch h.1), loads_mediaRSdModeTimer hresend⟩
  | dataSent =>
      by_cases hsends : s.Sends
      · exact .inr ⟨⟨rfl, hsends⟩, serves_of_sends hresend hsends⟩
      · exact .inl ⟨fun h => hsends h.2, loads_of_not_sends hsends⟩

theorem nextPacket_ne_resend (h : s.media.rsdState ≠ .resend) :
    s.nextPacket.media.rsdState ≠ .resend := by
  rw [nextPacket]
  by_cases hlast : s.media.totalPacketNum ≤ s.media.currentPacketNum ∧
      s.media.rsdState = .off
  · rw [if_pos hlast]
    intro hresend
    cases hresend
  · rw [if_neg hlast]
    dsimp only
    cases hstate : s.media.rsdState with
    | off =>
        dsimp only
        split_ifs
        · exact h
        · exact h
    | resend => exact absurd hstate h
    | waiting =>
        dsimp only
        exact h

/-- The list is not taken up again by itself. -/
theorem resendStep_ne_resend (h : s.media.rsdState ≠ .resend)
    (e : ResendEvent) : (s.resendStep e).media.rsdState ≠ .resend := by
  cases e with
  | photoTimer =>
      rw [resendStep, (loads_photoTimer s).state]
      exact h
  | mediaRSdModeTimer =>
      rw [resendStep, mediaRSdModeTimer]
      split
      case h_1 => exact h
      case h_2 hresend => exact absurd hresend h
      case h_3 =>
        split_ifs
        · rw [checkMultiTakeResult]
          split
          · intro hresend
            cases hresend
          · intro hresend
            cases hresend
        · exact h
  | dataSent =>
      rw [resendStep, uploadStep]
      split_ifs
      · rw [stuffMultiMediaData0801H]
        dsimp only
        split_ifs
        · exact nextPacket_ne_resend h
        · exact h
        · exact h
      · exact h

/-! ## The list while it is worked on -/

/-- The list `L` is worked on, and `base` packets have been sent before. -/
structure AtList (L : List ℕ) (base : ℕ) (s : MediaState) : Prop where
  state : s.media.rsdState = .resend
  list : s.requested = L
  total : s.media.rsdTotal = L.length
  reader : s.media.rsdReader < L.length
  room : L.length ≤ 10
  base : base ≤ s.packets.length

/-- What lies behind the cursor has been sent or comes again. -/
def Passed (L : List ℕ) (base : ℕ) (s : MediaState) : Prop :=
  ∀ n ∈ L.take s.media.rsdReader,
    n ∈ s.sentSince base ∨ n ∈ L.drop s.media.rsdReader

/-- The number is in the list, has not been sent, is not loaded, and will not be
loaded any more. -/
structure Missed (L : List ℕ) (base n : ℕ) (s : MediaState) : Prop where
  mem : n ∈ L
  unsent : n ∉ s.sentSince base
  unloaded : s.photo.sdPacketNum ≠ n
  behind : n ∉ L.drop s.media.rsdReader

/-- The number under the cursor is loaded, or it has been sent, or it comes
again in the list. -/
def Accounted (L : List ℕ) (base : ℕ) (s : MediaState) : Prop :=
  s.photo.sdPacketNum = s.entry ∨ s.entry ∈ s.sentSince base ∨
    s.entry ∈ L.drop (s.media.rsdReader + 1)

/-- A packet of the list is sent only when the number under the cursor is
accounted for. -/
def EntryServed (base : ℕ) (s : MediaState) (e : ResendEvent) : Prop :=
  s.media.rsdState = .resend → e = .dataSent ∧ s.Sends →
    Accounted s.requested base s

/-- A step that leaves the list leaves it with every number sent. -/
def LeavesServed (L : List ℕ) (base : ℕ) (s : MediaState) (e : ResendEvent) :
    Prop :=
  s.media.rsdState = .resend → (s.resendStep e).media.rsdState ≠ .resend →
    ∀ n ∈ L, n ∈ (s.resendStep e).sentSince base

variable {L : List ℕ} {base n : ℕ} {s' : MediaState}

theorem AtList.drop_reader (h : AtList L base s) :
    L.drop s.media.rsdReader = s.entry :: L.drop (s.media.rsdReader + 1) := by
  have hreader := h.reader
  rw [List.drop_eq_getElem_cons hreader]
  congr 1
  have hlt : s.media.rsdReader < s.media.reSdList.length := by
    rw [← h.list, requested, List.length_map] at hreader
    exact hreader
  have hroom : s.media.rsdReader < 10 := Nat.lt_of_lt_of_le h.reader h.room
  simp only [← h.list, requested, List.getElem_map, entry, mediaReSdList,
    if_pos hroom, List.getElem?_eq_getElem hlt, Option.getD_some]

theorem sentSince_of_packets (h : s'.packets = s.packets) :
    s'.sentSince base = s.sentSince base := by
  rw [sentSince, sentSince, h]

/-! Steps without a packet. -/

theorem AtList.loads (h : AtList L base s) (hstep : Loads s s') :
    AtList L base s' where
  state := hstep.state.trans h.state
  list := by
    rw [requested, hstep.list]
    exact h.list
  total := hstep.total.trans h.total
  reader := by
    rw [hstep.reader]
    exact h.reader
  room := h.room
  base := by
    rw [hstep.packets]
    exact h.base

theorem Passed.loads (h : Passed L base s) (hstep : Loads s s') :
    Passed L base s' := by
  rw [Passed, hstep.reader, sentSince_of_packets hstep.packets]
  exact h

theorem Missed.loads (h : Missed L base n s) (hlist : AtList L base s)
    (hstep : Loads s s') : Missed L base n s' where
  mem := h.mem
  unsent := by
    rw [sentSince_of_packets hstep.packets]
    exact h.unsent
  unloaded := by
    rcases hstep.num with hnum | hnum
    · rw [hnum]
      exact h.unloaded
    · rw [hnum]
      intro heq
      apply h.behind
      rw [hlist.drop_reader, heq]
      exact List.mem_cons_self
  behind := by
    rw [hstep.reader]
    exact h.behind

/-! Steps with a packet. -/

theorem AtList.sentSince_serves (h : AtList L base s) (hstep : Serves s s') :
    s'.sentSince base = s.sentSince base ++ [s.photo.sdPacketNum] := by
  obtain ⟨p, hpackets, hnum⟩ := hstep.packets
  rw [sentSince, sentSince, hpackets, List.drop_append_of_le_length h.base,
    List.map_append, List.map_singleton, hnum]

theorem AtList.reader_serves (h : AtList L base s) (hlen : L.length < 256)
    (hstep : Serves s s') : s'.media.rsdReader = s.media.rsdReader + 1 := by
  have hreader := h.reader
  rw [hstep.reader, Nat.mod_eq_of_lt (by omega)]

/-- The list is left behind its last number. -/
theorem AtList.state_serves (h : AtList L base s) (hlen : L.length < 256)
    (hstep : Serves s s') :
    s'.media.rsdState = .resend ↔ s.media.rsdReader + 1 ≠ L.length := by
  have hreader := h.reader
  rw [hstep.state, Nat.mod_eq_of_lt (by omega), h.total]
  split_ifs with hlast
  · exact iff_of_false nofun fun hne => hne hlast
  · exact iff_of_true rfl hlast

theorem AtList.leaves_serves (h : AtList L base s) (hlen : L.length < 256)
    (hstep : Serves s s') (hlast : s.media.rsdReader + 1 = L.length) :
    s'.media.rsdState ≠ .resend := by
  rw [Ne, h.state_serves hlen hstep]
  exact not_not.mpr hlast

theorem AtList.serves (h : AtList L base s) (hlen : L.length < 256)
    (hstep : Serves s s') (hmore : s.media.rsdReader + 1 ≠ L.length) :
    AtList L base s' where
  state := (h.state_serves hlen hstep).mpr hmore
  list := by
    rw [requested, hstep.list]
    exact h.list
  total := hstep.total.trans h.total
  reader := by
    have hreader := h.reader
    rw [h.reader_serves hlen hstep]
    omega
  room := h.room
  base := by
    obtain ⟨p, hpackets, -⟩ := hstep.packets
    rw [hpackets, List.length_append]
    exact Nat.le_trans h.base (Nat.le_add_right _ _)

theorem Passed.serves (h : Passed L base s) (hlist : AtList L base s)
    (hlen : L.length < 256) (hstep : Serves s s')
    (hentry : Accounted L base s) : Passed L base s' := by
  intro n hn
  rw [hlist.reader_serves hlen hstep] at hn ⊢
  rw [hlist.sentSince_serves hstep, List.mem_append, List.mem_singleton]
  have hcases : n ∈ L.take s.media.rsdReader ∨ n = s.entry := by
    rw [List.take_add_one, List.mem_append] at hn
    refine hn.imp id ?_
    intro hlast
    have hget := List.head?_drop (l := L) (i := s.media.rsdReader)
    rw [hlist.drop_reader, List.head?_cons] at hget
    rw [← hget] at hlast
    exact List.mem_singleton.mp hlast
  have hdone : n = s.entry → (n ∈ s.sentSince base ∨ n = s.photo.sdPacketNum) ∨
      n ∈ L.drop (s.media.rsdReader + 1) := by
    rintro rfl
    rcases hentry with hnum | hsent | hmore
    · exact .inl (.inr hnum.symm)
    · exact .inl (.inl hsent)
    · exact .inr hmore
  rcases hcases with htake | heq
  · rcases h n htake with hsent | hdrop
    · exact .inl (.inl hsent)
    · rw [hlist.drop_reader, List.mem_cons] at hdrop
      exact hdrop.elim hdone .inr
  · exact hdone heq

theorem missed_of_not_accounted (hlist : AtList L base s)
    (hlen : L.length < 256) (hstep : Serves s s')
    (hentry : ¬ Accounted L base s) : Missed L base s.entry s' where
  mem := by
    have hmem : s.entry ∈ L.drop s.media.rsdReader := by
      rw [hlist.drop_reader]
      exact List.mem_cons_self
    exact List.mem_of_mem_drop hmem
  unsent := by
    rw [hlist.sentSince_serves hstep, List.mem_append, List.mem_singleton]
    rintro (hsent | hnum)
    · exact hentry (.inr (.inl hsent))
    · exact hentry (.inl hnum.symm)
  unloaded := by
    rw [hstep.num]
    exact fun hnum => hentry (.inl hnum)
  behind := by
    rw [hlist.reader_serves hlen hstep]
    exact fun hmore => hentry (.inr (.inr hmore))

theorem Missed.serves (h : Missed L base n s) (hlist : AtList L base s)
    (hlen : L.length < 256) (hstep : Serves s s') : Missed L base n s' where
  mem := h.mem
  unsent := by
    rw [hlist.sentSince_serves hstep, List.mem_append, List.mem_singleton]
    rintro (hsent | hnum)
    · exact h.unsent hsent
    · exact h.unloaded hnum.symm
  unloaded := by
    rw [hstep.num]
    exact h.unloaded
  behind := by
    rw [hlist.reader_serves hlen hstep]
    intro hmore
    apply h.behind
    rw [hlist.drop_reader]
    exact List.mem_cons_of_mem _ hmore

/-- The step that leaves the list has sent everything when the last number is
accounted for. -/
theorem leavesServed_iff_accounted {e : ResendEvent} (h : Passed L base s)
    (hlist : AtList L base s) (hlen : L.length < 256)
    (hstep : Serves s (s.resendStep e))
    (hlast : s.media.rsdReader + 1 = L.length) :
    LeavesServed L base s e ↔ Accounted L base s := by
  have hleave := hlist.leaves_serves hlen hstep hlast
  have hdrop : L.drop (s.media.rsdReader + 1) = [] := by
    rw [hlast]
    exact List.drop_length
  have hmiss := missed_of_not_accounted hlist hlen hstep
  constructor
  · intro hserved
    by_contra hacc
    have hmissed := hmiss hacc
    exact hmissed.unsent (hserved hlist.state hleave _ hmissed.mem)
  · intro hacc _ _ n hn
    have hpassed := h.serves hlist hlen hstep hacc
    have hreader : (s.resendStep e).media.rsdReader = L.length := by
      rw [hlist.reader_serves hlen hstep, hlast]
    have hn := hpassed n (by rw [hreader, List.take_length]; exact hn)
    rw [hreader, List.drop_length] at hn
    exact hn.resolve_right List.not_mem_nil

/-! ## Runs -/

theorem foldl_ne_resend (h : s.media.rsdState ≠ .resend)
    (es : List ResendEvent) :
    (es.foldl resendStep s).media.rsdState ≠ .resend := by
  induction es generalizing s with
  | nil => exact h
  | cons e es ih => exact ih (resendStep_ne_resend h e)

/-- Behind the list nothing is left to be said. -/
theorem throughout_of_left (h : s.media.rsdState ≠ .resend)
    (es : List ResendEvent) :
    Throughout resendStep (LeavesServed L base) s es ∧
      Meeting resendStep (EntryServed base) s es := by
  induction es generalizing s with
  | nil =>
      refine ⟨?_, trivial⟩
      intro es₁ e hpre
      exact absurd (List.prefix_nil.mp hpre) (by simp)
  | cons e es ih =>
      obtain ⟨hserved, hmeets⟩ := ih (resendStep_ne_resend h e)
      refine ⟨throughout_cons.mpr ⟨?_, hserved⟩, ?_, hmeets⟩
      · exact fun hresend => absurd hresend h
      · exact fun hresend => absurd hresend h

/-- A step that goes on with the list says nothing about leaving it. -/
theorem leavesServed_of_resend {e : ResendEvent}
    (h : (s.resendStep e).media.rsdState = .resend) :
    LeavesServed L base s e :=
  fun _ hleave => absurd h hleave

/-- A missed number stays missed, up to the step that leaves the list. -/
theorem throughout_of_missed (hlen : L.length < 256) (hlist : AtList L base s)
    (h : Missed L base n s) (es : List ResendEvent) :
    Throughout resendStep (LeavesServed L base) s es ↔
      (es.foldl resendStep s).media.rsdState = .resend := by
  induction es generalizing s with
  | nil =>
      refine iff_of_true ?_ hlist.state
      intro es₁ e hpre
      exact absurd (List.prefix_nil.mp hpre) (by simp)
  | cons e es ih =>
      rw [throughout_cons, List.foldl_cons]
      rcases resendStep_cases hlist.state e with ⟨-, hstep⟩ | ⟨-, hstep⟩
      · have hlist' := hlist.loads hstep
        rw [ih hlist' (h.loads hlist hstep)]
        exact and_iff_right (leavesServed_of_resend hlist'.state)
      · have hmiss := h.serves hlist hlen hstep
        by_cases hlast : s.media.rsdReader + 1 = L.length
        · have hleave := hlist.leaves_serves hlen hstep hlast
          refine iff_of_false ?_ (foldl_ne_resend hleave es)
          rintro ⟨hserved, -⟩
          exact hmiss.unsent (hserved hlist.state hleave n hmiss.mem)
        · have hlist' := hlist.serves hlen hstep hlast
          rw [ih hlist' hmiss]
          exact and_iff_right (leavesServed_of_resend hlist'.state)

/-- Where everything behind the cursor is accounted for, a run that leaves the
list leaves it with every number sent exactly when every packet is sent with the
number under the cursor accounted for. -/
theorem throughout_iff_of_passed (hlen : L.length < 256)
    (hlist : AtList L base s) (h : Passed L base s) (es : List ResendEvent) :
    Throughout resendStep (LeavesServed L base) s es ↔
      ((es.foldl resendStep s).media.rsdState ≠ .resend →
        Meeting resendStep (EntryServed base) s es) := by
  induction es generalizing s with
  | nil =>
      refine iff_of_true ?_ fun _ => trivial
      intro es₁ e hpre
      exact absurd (List.prefix_nil.mp hpre) (by simp)
  | cons e es ih =>
      rw [throughout_cons, List.foldl_cons, Meeting]
      rcases resendStep_cases hlist.state e with
        ⟨hidle, hstep⟩ | ⟨hsends, hstep⟩
      · have hlist' := hlist.loads hstep
        have hentry : EntryServed base s e := fun _ hsends => absurd hsends hidle
        rw [ih hlist' (h.loads hstep),
          and_iff_right (leavesServed_of_resend hlist'.state),
          and_iff_right hentry]
      · have hentry : EntryServed base s e ↔ Accounted L base s := by
          rw [EntryServed, hlist.list]
          exact ⟨fun hall => hall hlist.state hsends, fun hacc _ _ => hacc⟩
        rw [hentry]
        by_cases hlast : s.media.rsdReader + 1 = L.length
        · have hleave := hlist.leaves_serves hlen hstep hlast
          obtain ⟨hserved, hmeets⟩ := throughout_of_left hleave es
          rw [and_iff_left hserved, and_iff_left hmeets,
            leavesServed_iff_accounted h hlist hlen hstep hlast]
          exact ⟨fun hacc _ => hacc, fun hacc => hacc (foldl_ne_resend hleave es)⟩
        · have hlist' := hlist.serves hlen hstep hlast
          rw [and_iff_right (leavesServed_of_resend hlist'.state)]
          by_cases hacc : Accounted L base s
          · rw [ih hlist' (h.serves hlist hlen hstep hacc), and_iff_right hacc]
          · have hmiss := missed_of_not_accounted hlist hlen hstep hacc
            rw [throughout_of_missed hlen hlist' hmiss]
            constructor
            · exact fun hstays hleft => absurd hstays hleft
            · intro hall
              by_contra hleft
              exact hacc (hall hleft).1

/-- The list of the centre as `case 0x8800` of `TCP_RX_Process` leaves it. -/
structure Requested (s : MediaState) : Prop where
  state : s.media.rsdState = .resend
  reader : s.media.rsdReader = 0
  total : s.media.rsdTotal = s.media.reSdList.length
  length : 1 ≤ s.media.reSdList.length ∧ s.media.reSdList.length ≤ 10
  nums : ∀ n ∈ s.requested, 1 ≤ n ∧ n ≤ s.photo.totalPacketNum

/-- Three packets have been sent in order, and the second is asked for again. -/
def secondAgain : MediaState where
  photo := {
    photoSending := .enable
    sdPacketNum := 3
    totalPacketNum := 3
    dataSdCounter := 12 }
  media := {
    transmittingFlag := .data
    rsdState := .resend
    rsdTotal := 1
    reSdList := [2] }
  picFileSize := 1500

theorem secondAgain_requested : secondAgain.Requested :=
  ⟨rfl, rfl, rfl, by decide, by decide⟩

end MediaState

end VehicleRecorder.Camera
