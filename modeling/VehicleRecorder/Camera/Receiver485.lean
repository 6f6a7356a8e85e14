import VehicleRecorder.Lib.Runs
import Mathlib.Data.Nat.Notation
import Mathlib.Logic.Function.Basic
import Mathlib.Tactic.SplitIfs

/-!
# The receiver of the RS-485 line

`_485_RxHandler` gathers the bytes of the line in `_485_dev_rx` until the length
that a packet announces is reached, and copies the packet to the display or to
the camera.  The write index is cleared by the handler alone, the state also by
`Start_Camera`, `End_Camera`, `Send_const485` and `Pic_Data_Process`.

The accesses to the three arrays are kept in the order in which they are made.
As long as the lengths announced fit and a reset finds at most seven bytes of a
packet in the buffer, or a first byte that the idle state throws away, they lie
inside of the arrays.
-/

namespace VehicleRecorder.Camera

/-! ## The handler -/

/-- `_485_receiveflag`; `unknown` stands for the values without a name. -/
inductive ReceiveFlag
  | idle
  | cameraRelated
  | largeLcd
  | unknown
  deriving DecidableEq, Repr

/-- The arrays that the handler writes to. -/
inductive LineArray
  | devRx
  | content
  | rxInfo
  deriving DecidableEq, Repr

/-- The sizes the arrays are declared with. -/
def LineArray.size : LineArray → ℕ
  | devRx => 600
  | content => 600
  | rxInfo => 100

/-- A write to some elements of an array. -/
structure Access where
  array : LineArray
  first : ℕ
  count : ℕ
  deriving DecidableEq, Repr

/-- The elements written lie in the array. -/
def Access.Fits (a : Access) : Prop := a.first + a.count ≤ a.array.size

instance (a : Access) : Decidable a.Fits := inferInstanceAs (Decidable (_ ≤ _))

/-- The buffer, the state, and where the packets are copied to. -/
structure Receiver where
  devRx : ℕ → UInt8 := fun _ => 0
  devWr : ℕ := 0
  receiveflag : ReceiveFlag := .idle
  rxLen : ℕ := 0
  content : ℕ → UInt8 := fun _ => 0
  contentWr : ℕ := 0
  cameraDataEnable : Bool := false
  rxInfo : ℕ → UInt8 := fun _ => 0
  rxInfolen : ℕ := 0
  processEnable : Bool := false
  accesses : List Access := []

namespace Receiver

/-- `_485_dev_rx[_485dev_wr++]=data`. -/
def store (r : Receiver) (data : UInt8) : Receiver :=
  { r with
    devRx := Function.update r.devRx r.devWr data
    devWr := (r.devWr + 1) % 65536
    accesses := r.accesses ++ [⟨.devRx, r.devWr, 1⟩] }

/-- `_485dev_wr=0`. -/
def clear (r : Receiver) : Receiver := { r with devWr := 0 }

/-- The length in the head of a camera packet. -/
def cameraLen (r : Receiver) : ℕ := (r.devRx 6).toNat * 256 + (r.devRx 5).toNat

/-- The head of a display packet. -/
def LcdHead (r : Receiver) : Prop := r.devRx 0 = 0xAA ∧ r.devRx 1 = 0x55

instance (r : Receiver) : Decidable r.LcdHead :=
  inferInstanceAs (Decidable (_ ∧ _))

/-- The head of a camera packet. -/
def CameraHead (r : Receiver) : Prop :=
  r.devRx 0 = 0x40 ∧ r.devRx 1 = 0x40 ∧ r.devRx 2 = 0x63

instance (r : Receiver) : Decidable r.CameraHead :=
  inferInstanceAs (Decidable (_ ∧ _))

/-- A packet does not begin with the first byte. -/
def Illegal (r : Receiver) : Prop := r.devRx 0 ≠ 0xAA ∧ r.devRx 0 ≠ 0x40

instance (r : Receiver) : Decidable r.Illegal :=
  inferInstanceAs (Decidable (_ ∧ _))

/-- `case IDLE_485`. -/
def idleByte (r : Receiver) : Receiver :=
  if r.Illegal then r.clear
  else if r.devWr = 2 then
    if r.devRx 1 ≠ 0x55 ∧ r.devRx 1 ≠ 0x40 then r.clear else r
  else if r.devWr = 3 then
    if r.LcdHead then
      { r with rxLen := (r.devRx 2).toNat, receiveflag := .largeLcd }
    else if r.devRx 0 ≠ 0x40 then r.clear
    else r
  else if r.devWr = 8 then
    if r.CameraHead then
      { r with rxLen := r.cameraLen, devWr := 0, receiveflag := .cameraRelated }
    else r.clear
  else r

/-- `case LARGE_LCD`.  The `memset` clears as many bytes as a pointer has. -/
def lcdByte (r : Receiver) : Receiver :=
  if r.rxLen + 3 ≤ r.devWr then
    { r with
      rxInfo := fun i =>
        if i < r.rxLen then r.devRx i else if i < 4 then 0 else r.rxInfo i
      rxInfolen := r.rxLen
      processEnable := true
      devWr := 0
      receiveflag := .idle
      accesses := r.accesses ++ [⟨.rxInfo, 0, 4⟩, ⟨.rxInfo, 0, r.rxLen⟩] }
  else r

/-- `case CAMERA_Related`. -/
def cameraByte (r : Receiver) : Receiver :=
  if r.rxLen ≤ r.devWr then
    { r with
      content := fun i =>
        if i < r.rxLen then r.devRx i else if i < 600 then 0 else r.content i
      contentWr := r.rxLen
      cameraDataEnable := true
      devWr := 0
      receiveflag := .idle
      accesses := r.accesses ++
        [⟨.content, 0, 600⟩, ⟨.content, 0, r.rxLen⟩] }
  else r

/-- `_485_RxHandler`. -/
def rxHandler (r : Receiver) (data : UInt8) : Receiver :=
  let r := r.store data
  match r.receiveflag with
  | .idle => r.idleByte
  | .largeLcd => r.lcdByte
  | .cameraRelated => r.cameraByte
  | .unknown => { r with devWr := 0, receiveflag := .idle }

/-! ## Runs -/

/-- A byte of the line, or one of the functions that reset the state. -/
inductive Event
  | received (data : UInt8)
  | startCamera
  | endCamera
  | sendConst485
  | picDataProcess
  deriving DecidableEq, Repr

/-- `_485_RXstatus._485_receiveflag=IDLE_485`. -/
def reset (r : Receiver) : Receiver := { r with receiveflag := .idle }

/-- What an event does to the receiver. -/
def step (r : Receiver) : Event → Receiver
  | .received data => r.rxHandler data
  | .startCamera | .endCamera | .sendConst485 => r.reset
  | .picDataProcess =>
      { r.reset with
        content := fun i => if i < 600 then 0 else r.content i
        contentWr := 0
        accesses := r.accesses ++ [⟨.content, 0, 600⟩] }

def run (r : Receiver) (es : List Event) : Receiver := es.foldl step r

/-- Every access lies in its array. -/
def InBounds (r : Receiver) : Prop := ∀ a ∈ r.accesses, a.Fits

instance (r : Receiver) : Decidable r.InBounds :=
  inferInstanceAs (Decidable (∀ a ∈ r.accesses, a.Fits))

/-- The length that a head announces fits the array the packet is copied to, and
a reset finds at most seven bytes or a first byte that is thrown away. -/
def Meets (r : Receiver) : Event → Prop
  | .received data => r.receiveflag = .idle →
      (r.devWr = 2 → r.LcdHead → data.toNat ≤ 100) ∧
        (r.devWr = 7 → r.CameraHead → r.cameraLen ≤ 600)
  | _ => r.devWr ≤ 7 ∨ r.Illegal

instance (r : Receiver) : (e : Event) → Decidable (r.Meets e)
  | .received _ => inferInstanceAs (Decidable (_ → _))
  | .startCamera | .endCamera | .sendConst485 | .picDataProcess =>
      inferInstanceAs (Decidable (_ ∨ _))

/-! ## The invariant -/

/-- Where the write index is in each state. -/
def Inside (r : Receiver) : Prop :=
  match r.receiveflag with
  | .idle => r.devWr ≤ 7 ∨ r.Illegal ∧ r.devWr < 600
  | .largeLcd => r.devWr ≤ r.rxLen + 3 ∧ r.rxLen ≤ 100
  | .cameraRelated => (r.devWr < r.rxLen ∨ r.devWr = 0) ∧ r.rxLen ≤ 600
  | .unknown => False

/-- The accesses so far and the write index are in bounds. -/
structure Safe (r : Receiver) : Prop where
  inBounds : r.InBounds
  inside : r.Inside

variable {r : Receiver} {data : UInt8}

theorem inBounds_append {as bs : List Access} (has : ∀ a ∈ as, a.Fits)
    (hbs : ∀ a ∈ bs, a.Fits) : ∀ a ∈ as ++ bs, a.Fits := by
  intro a ha
  rcases List.mem_append.mp ha with h | h
  · exact has a h
  · exact hbs a h

theorem Inside.devWr_lt (h : r.Inside) : r.devWr < 600 := by
  rw [Inside] at h
  cases hflag : r.receiveflag <;> rw [hflag] at h <;> dsimp only at h <;> omega

/-- The byte is stored inside of the buffer, and the index moves on. -/
theorem Safe.store (h : r.Safe) (data : UInt8) :
    (r.store data).InBounds ∧ (r.store data).devWr = r.devWr + 1 := by
  have hlt := h.inside.devWr_lt
  constructor
  · apply inBounds_append h.inBounds
    intro a ha
    rw [List.mem_singleton.mp ha]
    exact Nat.succ_le_of_lt hlt
  · exact Nat.mod_eq_of_lt (by omega)

theorem store_devRx_of_ne {i : ℕ} (hi : i ≠ r.devWr) :
    (r.store data).devRx i = r.devRx i := Function.update_of_ne hi _ _

theorem store_devRx_self : (r.store data).devRx r.devWr = data :=
  Function.update_self _ _ _

/-- An illegal first byte stays one while others are stored. -/
theorem Illegal.store (h : r.Illegal) (hpos : r.devWr ≠ 0) :
    (r.store data).Illegal := by
  rw [Illegal, store_devRx_of_ne (Ne.symm hpos)]
  exact h

theorem safe_clear (h : r.InBounds) (hflag : r.receiveflag = .idle) :
    r.clear.Safe := by
  refine ⟨h, ?_⟩
  rw [Inside, show r.clear.receiveflag = .idle from hflag]
  exact Or.inl (Nat.zero_le 7)

/-- A state that stays idle has at most seven bytes. -/
theorem safe_idle (h : r.InBounds) (hflag : r.receiveflag = .idle)
    (hwr : r.devWr ≤ 7) : r.Safe := by
  refine ⟨h, ?_⟩
  rw [Inside, hflag]
  exact Or.inl hwr

theorem safe_idleByte (h : r.InBounds) (hflag : r.receiveflag = .idle)
    (hwr : r.Illegal ∨ r.devWr ≤ 8)
    (hlcd : r.devWr = 3 → r.LcdHead → (r.devRx 2).toNat ≤ 100)
    (hcamera : r.devWr = 8 → r.CameraHead → r.cameraLen ≤ 600) :
    r.idleByte.Safe := by
  rw [idleByte]
  split_ifs with hillegal h2 hsecond h3 hhead hfirst h8 hhead
  · exact safe_clear h hflag
  · exact safe_clear h hflag
  · exact safe_idle h hflag (by omega)
  · refine ⟨h, ?_, hlcd h3 hhead⟩
    rw [h3]
    exact Nat.le_add_left 3 _
  · exact safe_clear h hflag
  · exact safe_idle h hflag (by omega)
  · exact ⟨h, Or.inr rfl, hcamera h8 hhead⟩
  · exact safe_clear h hflag
  · have hle := hwr.resolve_left hillegal
    exact safe_idle h hflag (by omega)

theorem safe_lcdByte (h : r.InBounds) (hflag : r.receiveflag = .largeLcd)
    (hlen : r.rxLen ≤ 100) : r.lcdByte.Safe := by
  rw [lcdByte]
  split_ifs with hdone
  · refine ⟨inBounds_append h ?_, Or.inl (Nat.zero_le 7)⟩
    have hset : Access.Fits ⟨.rxInfo, 0, 4⟩ := by decide
    have hcopy : Access.Fits ⟨.rxInfo, 0, r.rxLen⟩ :=
      Nat.le_trans (Nat.le_of_eq (Nat.zero_add r.rxLen)) hlen
    exact List.forall_mem_cons.mpr ⟨hset, List.forall_mem_singleton.mpr hcopy⟩
  · refine ⟨h, ?_⟩
    rw [Inside, hflag]
    exact ⟨by omega, hlen⟩

theorem safe_cameraByte (h : r.InBounds)
    (hflag : r.receiveflag = .cameraRelated) (hlen : r.rxLen ≤ 600) :
    r.cameraByte.Safe := by
  rw [cameraByte]
  split_ifs with hdone
  · refine ⟨inBounds_append h ?_, Or.inl (Nat.zero_le 7)⟩
    have hset : Access.Fits ⟨.content, 0, 600⟩ := by decide
    have hcopy : Access.Fits ⟨.content, 0, r.rxLen⟩ :=
      Nat.le_trans (Nat.le_of_eq (Nat.zero_add r.rxLen)) hlen
    exact List.forall_mem_cons.mpr ⟨hset, List.forall_mem_singleton.mpr hcopy⟩
  · refine ⟨h, ?_⟩
    rw [Inside, hflag]
    exact ⟨Or.inl (Nat.lt_of_not_le hdone), hlen⟩

/-- A byte whose head, if it ends one, announces a length that fits. -/
theorem Safe.rxHandler (h : r.Safe) (hmeets : r.Meets (.received data)) :
    (r.rxHandler data).Safe := by
  obtain ⟨hbounds, hwr⟩ := h.store data
  have hinside := h.inside
  rw [Inside] at hinside
  rw [Receiver.rxHandler]
  have hflag : (r.store data).receiveflag = r.receiveflag := rfl
  have hlen : (r.store data).rxLen = r.rxLen := rfl
  cases hcase : r.receiveflag <;> rw [hcase] at hinside hflag <;>
    simp only [hflag]
  case idle =>
    obtain ⟨hlcd, hcamera⟩ := hmeets hcase
    refine safe_idleByte hbounds hflag ?_ ?_ ?_
    · rcases hinside with hle | ⟨hillegal, -⟩
      · exact Or.inr (by omega)
      · by_cases hzero : r.devWr = 0
        · exact Or.inr (by omega)
        · exact Or.inl (hillegal.store hzero)
    · intro h3 hhead
      have h2 : r.devWr = 2 := by omega
      rw [← h2, store_devRx_self]
      rw [LcdHead, store_devRx_of_ne (by omega), store_devRx_of_ne (by omega)]
        at hhead
      exact hlcd h2 hhead
    · intro h8 hhead
      have h7 : r.devWr = 7 := by omega
      rw [CameraHead, store_devRx_of_ne (by omega),
        store_devRx_of_ne (by omega), store_devRx_of_ne (by omega)] at hhead
      rw [cameraLen, store_devRx_of_ne (by omega),
        store_devRx_of_ne (by omega)]
      exact hcamera h7 hhead
  case cameraRelated => exact safe_cameraByte hbounds hflag hinside.2
  case largeLcd => exact safe_lcdByte hbounds hflag hinside.2
  case unknown => exact hinside.elim

/-- A reset that leaves nothing behind which the idle state would go on with. -/
theorem Safe.reset (h : r.Safe) (hmeets : r.devWr ≤ 7 ∨ r.Illegal) :
    r.reset.Safe :=
  ⟨h.inBounds, hmeets.imp id fun hillegal => ⟨hillegal, h.inside.devWr_lt⟩⟩

theorem Safe.step (h : r.Safe) {e : Event} (hmeets : r.Meets e) :
    (r.step e).Safe := by
  cases e with
  | received data => exact h.rxHandler hmeets
  | startCamera => exact h.reset hmeets
  | endCamera => exact h.reset hmeets
  | sendConst485 => exact h.reset hmeets
  | picDataProcess =>
      refine ⟨inBounds_append h.inBounds ?_, (h.reset hmeets).inside⟩
      intro a ha
      rw [List.mem_singleton.mp ha]
      exact Nat.le_refl 600

theorem safe_initial : Safe {} := ⟨by decide, Or.inl (Nat.zero_le 7)⟩

/-! ## The receiver stays in its buffers -/

/-- In every run whose steps meet the condition every access lies in its
array. -/
theorem inBounds_of_meeting (es : List Event)
    (h : Runs.Meeting step Meets {} es) : (run {} es).InBounds :=
  (h.invariant (fun _ _ hsafe hmeets => hsafe.step hmeets)
    safe_initial).inBounds

/-- Noise, a picture packet that is broken off, and a display packet. -/
theorem inBounds_of_meeting_brokenOff :
    (run {} ([0x13, 0x40, 0x40, 0x63, 0, 0, 16, 0, 0, 1, 2].map .received ++
      .endCamera :: [3, 0xAA, 0x55, 1, 2, 3].map .received)).InBounds :=
  inBounds_of_meeting _ (by decide)

/-! ## A reset that comes too late -/

/-- The idle state with a first byte it accepts and an index that it does not
look at. -/
structure Running (r : Receiver) : Prop where
  idle : r.receiveflag = .idle
  legal : ¬ r.Illegal
  index : 8 ≤ r.devWr

/-- The index runs on. -/
theorem Running.rxHandler (h : r.Running) (hlt : r.devWr < 65535)
    (data : UInt8) :
    (r.rxHandler data).Running ∧ (r.rxHandler data).devWr = r.devWr + 1 ∧
      (r.rxHandler data).accesses = r.accesses ++ [⟨.devRx, r.devWr, 1⟩] := by
  have hindex := h.index
  have hflag : (r.store data).receiveflag = .idle := h.idle
  have hwr : (r.store data).devWr = r.devWr + 1 :=
    Nat.mod_eq_of_lt (Nat.succ_lt_succ hlt)
  have hlegal : ¬ (r.store data).Illegal := by
    rw [Illegal, store_devRx_of_ne (by omega)]
    exact h.legal
  have hstep : r.rxHandler data = r.store data := by
    rw [Receiver.rxHandler]
    simp only [hflag]
    rw [idleByte, if_neg hlegal, if_neg (by omega), if_neg (by omega),
      if_neg (by omega)]
  rw [hstep]
  exact ⟨⟨hflag, hlegal, by omega⟩, hwr, rfl⟩

/-- Every byte is stored behind the one before. -/
theorem Running.accesses_run (h : r.Running) {ds : List UInt8}
    (hlen : r.devWr + ds.length < 65536) :
    (run r (ds.map .received)).accesses = r.accesses ++
      (List.range' r.devWr ds.length).map fun i => ⟨.devRx, i, 1⟩ := by
  induction ds generalizing r with
  | nil => exact (List.append_nil r.accesses).symm
  | cons data ds ih =>
      rw [List.length_cons] at hlen ⊢
      obtain ⟨hrunning, hwr, haccesses⟩ := h.rxHandler (by omega) data
      have htail := ih hrunning (by omega)
      rw [hwr, haccesses, List.append_assoc, List.singleton_append] at htail
      rw [List.range'_succ, List.map_cons]
      exact htail

/-- The index runs out of the buffer as soon as enough bytes have come. -/
theorem Running.not_inBounds (h : r.Running) (hle : r.devWr ≤ 600)
    {ds : List UInt8} (hlo : 600 < r.devWr + ds.length)
    (hhi : r.devWr + ds.length < 65536) :
    ¬ (run r (ds.map .received)).InBounds := by
  intro hbounds
  have hmem : Access.mk .devRx 600 1 ∈ (run r (ds.map .received)).accesses := by
    rw [h.accesses_run hhi]
    refine List.mem_append_right _ (List.mem_map.mpr ⟨600, ?_, rfl⟩)
    exact List.mem_range'_1.mpr ⟨hle, hlo⟩
  exact absurd (hbounds _ hmem) (by decide)

/-- A picture packet of which eight bytes have come when the camera is ended. -/
def brokenOff : Receiver :=
  run {} ([0x40, 0x40, 0x63, 0, 0, 16, 0, 0, 0x40, 0, 0, 0, 0, 0, 0, 0].map
    .received ++ [.endCamera])

theorem running_brokenOff : brokenOff.Running ∧ brokenOff.devWr = 8 :=
  ⟨⟨by decide, by decide, by decide⟩, by decide⟩

/-- A display packet is copied whole even if it is longer than the array, and
after a reset in the middle of a picture packet the index runs on. -/
theorem not_inBounds :
    ¬ (run {} ([0xAA, 0x55, 101].map .received ++
        List.replicate 101 (.received 0))).InBounds ∧
    ¬ (run brokenOff ((List.replicate 593 0).map .received)).InBounds := by
  refine ⟨by decide +kernel, ?_⟩
  obtain ⟨hrunning, hwr⟩ := running_brokenOff
  apply hrunning.not_inBounds <;> rw [hwr]
  · decide
  · rw [List.length_replicate]
    decide
  · rw [List.length_replicate]
    decide

end Receiver

end VehicleRecorder.Camera
