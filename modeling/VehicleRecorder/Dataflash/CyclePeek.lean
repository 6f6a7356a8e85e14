import Mathlib.Logic.Function.Iterate
import VehicleRecorder.Dataflash.CycleChecks
import VehicleRecorder.Lib.Runs

/-!
# The look at the last position at boot

At boot the indices of the record logs are loaded from flash, and
`Get_recent_saveInfo` then takes a first position from the stored reports.  It
reads with `ReadCycleGPS`, which reads at `cycle_read` whatever index it is
given, and moves `cycle_read` when it refuses the slot; on success it takes one
off `cycle_read`, as if the read had advanced it.
-/

namespace VehicleRecorder.Dataflash

open NorFlash Runs

/-- The values a position report is built from. -/
structure VehicleState where
  warnStatus : Vector UInt8 4 := #v[0, 0, 0, 0]
  carStatus : Vector UInt8 4 := #v[0, 0x0C, 0, 0]
  latitude : Vector UInt8 4 := #v[0, 0, 0, 0]
  longitude : Vector UInt8 4 := #v[0, 0, 0, 0]
  gpsHight : UInt16 := 0
  speedGps : UInt16 := 0
  gpsDirection : UInt16 := 0
  date : Vector UInt8 3 := #v[0, 0, 0]
  time : Vector UInt8 3 := #v[0, 0, 0]
  speedCacu : UInt16 := 0
  deriving DecidableEq, Repr

/-- Four bytes of a buffer. -/
def bytes4 (buf : List UInt8) (i : ℕ) : Vector UInt8 4 :=
  #v[buf.getD i 0, buf.getD (i + 1) 0, buf.getD (i + 2) 0, buf.getD (i + 3) 0]

/-- The second byte of `Car_Status`. -/
theorem secondStatus_lt : 1 < 4 := by decide

/-- Its last byte. -/
theorem lastStatus_lt : 3 < 4 := by decide

/-- `Get_recent_saveInfo`. -/
def getRecentSaveInfo (d : Device) (v : VehicleState) :
    Device × VehicleState × Bool :=
  if d.cycleWrite > 0 then
    match readCycleGPS d 31 with
    | (d₁, buf, true) =>
        (if d₁.cycleRead ≠ 0 then { d₁ with cycleRead := d₁.cycleRead - 1 }
          else d₁,
          { v with
            carStatus := v.carStatus.set 3 (buf.getD 8 0) lastStatus_lt
            latitude := bytes4 buf 8
            longitude := bytes4 buf 12 }, true)
    | (d₁, _, false) => (d₁, v, false)
  else (d, v, false)

/-- The types `Api_Read_var_rd_wr` loads, in its order. -/
def varRdWrTypes : List RecordType :=
  [.cycleAdd, .photoAdd, .settingChgAdd, .mintPosAdd, .dayDistancAdd,
    .expSpdAdd, .tiredDrvAdd, .avrgSpdAdd, .vechRecordAdd]

/-- `Api_Read_var_rd_wr`. -/
def apiReadVarRdWr (d : Device) : Device :=
  varRdWrTypes.foldl (fun d type => (dfReadRecordAdd d type).1) d

/-- The device at boot, before the look at the last position. -/
def loaded (chip : Chip) : Device := apiReadVarRdWr { chip := chip }

/-- The device and the vehicle. -/
structure Recorder where
  dev : Device
  vehicle : VehicleState := {}

/-- The vehicle state in front of the look: `Car_Status[1]|=0x0C`. -/
def bootVehicle : VehicleState :=
  let v : VehicleState := {}
  { v with
    carStatus := v.carStatus.set 1 (v.carStatus.get 1 ||| 0x0C) secondStatus_lt }

/-- The start of `App808_thread_entry`, with the configuration in flash left as
it is. -/
def reboot (c : Recorder) : Recorder :=
  match getRecentSaveInfo (loaded c.dev.chip) bootVehicle with
  | (d, v, true) => ⟨d, v⟩
  | (d, v, false) => ⟨d, { v with carStatus := v.carStatus.set 3 0 lastStatus_lt }⟩

/-- The slots that hold reports still to be sent, and the reports. -/
def pendingSlots (d : Device) : List ℕ :=
  (List.range ((d.cycleWrite + maxCycleNum - d.cycleRead) % maxCycleNum)).map
    fun i => (d.cycleRead + i) % maxCycleNum

def pendingReports (d : Device) : List (List UInt8) :=
  (pendingSlots d).map (slotContent d.chip)

/-! ## What the look does to the queue -/

theorem nextCycle_ne (n : ℕ) : nextCycle n ≠ n := by
  simp only [nextCycle, bump, maxCycleNum]
  split <;> omega

/-- The look leaves the flash and `cycle_write` alone. -/
theorem getRecentSaveInfo_frame (d : Device) (v : VehicleState) :
    (getRecentSaveInfo d v).1.chip = d.chip ∧
      (getRecentSaveInfo d v).1.cycleWrite = d.cycleWrite := by
  rw [getRecentSaveInfo, readCycleGPS]
  cases readCycleRejects (dfReadFlash d.chip (cyclePage d.cycleRead)
    (cycleInPageAddr d.cycleRead) 31) 31
  · simp only [Bool.false_eq_true, if_false]
    split
    · split
      · exact ⟨rfl, rfl⟩
      · exact ⟨rfl, rfl⟩
    · exact ⟨rfl, rfl⟩
  · simp only [if_true]
    split
    · exact ⟨rfl, rfl⟩
    · exact ⟨rfl, rfl⟩

/-- The look succeeds when something was written and the slot at `cycle_read`
is accepted. -/
theorem getRecentSaveInfo_ok (d : Device) (v : VehicleState) :
    (getRecentSaveInfo d v).2.2 = true ↔
      0 < d.cycleWrite ∧ PassesRead (slotContent d.chip d.cycleRead) := by
  rw [← readCycleRejects_iff, getRecentSaveInfo, readCycleGPS, ← slotContent]
  cases readCycleRejects (slotContent d.chip d.cycleRead) 31
  · simp only [Bool.false_eq_true, if_false]
    split
    · rename_i hw
      exact iff_of_true rfl ⟨hw, trivial⟩
    · rename_i hw
      exact iff_of_false Bool.false_ne_true fun h => hw h.1
  · simp only [if_true]
    split
    · exact iff_of_false Bool.false_ne_true fun h => Bool.noConfusion h.2
    · exact iff_of_false Bool.false_ne_true fun h => Bool.noConfusion h.2

/-- Where the look leaves `cycle_read`. -/
theorem getRecentSaveInfo_cycleRead (d : Device) (v : VehicleState) :
    (0 < d.cycleWrite ∧ PassesRead (slotContent d.chip d.cycleRead) ∧
        (getRecentSaveInfo d v).1.cycleRead = d.cycleRead - 1) ∨
      (0 < d.cycleWrite ∧ ¬ PassesRead (slotContent d.chip d.cycleRead) ∧
        (getRecentSaveInfo d v).1.cycleRead = nextCycle d.cycleRead) ∨
      (d.cycleWrite = 0 ∧
        (getRecentSaveInfo d v).1.cycleRead = d.cycleRead) := by
  rw [← readCycleRejects_iff, getRecentSaveInfo, readCycleGPS, ← slotContent]
  rcases Nat.eq_zero_or_pos d.cycleWrite with hw | hw
  · refine Or.inr (Or.inr ⟨hw, ?_⟩)
    rw [if_neg (by omega)]
  · rw [if_pos hw]
    cases readCycleRejects (slotContent d.chip d.cycleRead) 31
    · refine Or.inl ⟨hw, rfl, ?_⟩
      simp only [Bool.false_eq_true, if_false]
      split
      · rfl
      · rename_i hzero
        simp only [ne_eq, not_not] at hzero
        simp only [hzero]
    · exact Or.inr (Or.inl ⟨hw, by simp, rfl⟩)

/-- The look has nothing to move: nothing was written, or the reader is at the
first slot and accepts it. -/
def PeekSafe (d : Device) : Prop :=
  d.cycleWrite = 0 ∨
    d.cycleRead = 0 ∧ PassesRead (slotContent d.chip d.cycleRead)

theorem getRecentSaveInfo_cycleRead_iff (d : Device) (v : VehicleState) :
    (getRecentSaveInfo d v).1.cycleRead = d.cycleRead ↔ PeekSafe d := by
  rcases getRecentSaveInfo_cycleRead d v with
    ⟨hw, hok, hread⟩ | ⟨hw, hfail, hread⟩ | ⟨hw, hread⟩
  · rw [hread]
    constructor
    · intro h
      exact Or.inr ⟨by omega, hok⟩
    · rintro (hzero | ⟨hzero, -⟩)
      · omega
      · omega
  · rw [hread]
    refine iff_of_false (nextCycle_ne _) ?_
    rintro (hzero | ⟨-, hok⟩)
    · omega
    · exact hfail hok
  · exact iff_of_true hread (Or.inl hw)

/-! ## Reboots -/

/-- The queue's indices at boot are what its pointer log holds. -/
theorem loaded_indices (chip : Chip) :
    ((loaded chip).cycleWrite, (loaded chip).cycleRead) =
      readRecordAdd chip .cycleAdd := rfl

theorem loaded_chip (chip : Chip) : (loaded chip).chip = chip := rfl

theorem reboot_dev (c : Recorder) :
    (reboot c).dev =
      (getRecentSaveInfo (loaded c.dev.chip) bootVehicle).1 := by
  rw [reboot]
  split
  · rename_i h
    rw [h]
  · rename_i h
    rw [h]

theorem reboot_chip (c : Recorder) : (reboot c).dev.chip = c.dev.chip := by
  rw [reboot_dev, (getRecentSaveInfo_frame _ bootVehicle).1, loaded_chip]

/-- A reboot depends on the flash only. -/
theorem reboot_congr {c c' : Recorder} (h : c.dev.chip = c'.dev.chip) :
    reboot c = reboot c' := by
  rw [reboot, reboot, h]

/-- Reboots in a row are one reboot. -/
theorem iterate_reboot (c : Recorder) (n : ℕ) :
    reboot^[n + 1] c = reboot c := by
  induction n with
  | zero => rfl
  | succ n ih =>
      rw [Function.iterate_succ_apply', ih]
      exact reboot_congr (reboot_chip c)

/-- Any number of reboots leaves the indices as they were loaded, and with them
the reports still to be sent. -/
def RebootsKeepQueue (c : Recorder) : Prop :=
  ∀ n, (reboot^[n + 1] c).dev.cycleWrite = (loaded c.dev.chip).cycleWrite ∧
    (reboot^[n + 1] c).dev.cycleRead = (loaded c.dev.chip).cycleRead ∧
    pendingReports (reboot^[n + 1] c).dev = pendingReports (loaded c.dev.chip)

theorem rebootsKeepQueue_iff (c : Recorder) :
    RebootsKeepQueue c ↔ PeekSafe (loaded c.dev.chip) := by
  have hframe := getRecentSaveInfo_frame (loaded c.dev.chip) bootVehicle
  rw [← getRecentSaveInfo_cycleRead_iff _ bootVehicle, ← reboot_dev]
  rw [← reboot_dev, loaded_chip] at hframe
  constructor
  · intro h
    exact (h 0).2.1
  · intro hread n
    rw [iterate_reboot]
    refine ⟨hframe.2, hread, ?_⟩
    simp only [pendingReports, pendingSlots, hframe.1, hframe.2, hread,
      loaded_chip]

/-! ## Runs with reboots -/

/-- A call of the sender's side of the queue. -/
inductive SenderCall
  | chk
  | send
  | update
  | second
  deriving DecidableEq, Repr

def SenderCall.apply (d : Device) : SenderCall → Device
  | .chk => chkReadCycleStatus d
  | .send => (sendSavedReport d).1
  | .update => apiCycleUpdate d
  | .second => readCycleTimeout d

/-- One event of the queue's life. -/
inductive BootEvent
  | write (r : List UInt8)
  | sender (call : SenderCall)
  | reboot
  deriving DecidableEq, Repr

def BootEvent.step (c : Recorder) : BootEvent → Recorder
  | .write r => { c with dev := (apiCycleWrite c.dev r).1 }
  | .sender call => { c with dev := call.apply c.dev }
  | .reboot => Dataflash.reboot c

/-- A reboot finds nothing to move. -/
def BootEvent.Meets (c : Recorder) : BootEvent → Prop
  | .reboot => PeekSafe (loaded c.dev.chip)
  | _ => True

/-- At every reboot of the run, and at any number of reboots there, the queue
is kept. -/
def QueueKept (c : Recorder) (es : List BootEvent) : Prop :=
  Throughout BootEvent.step (fun c e => e = .reboot → RebootsKeepQueue c) c es

/-- The look at boot leaves the queue alone, over any run and for any number of
reboots, exactly when every reboot finds nothing written, or the reader at the
first slot with an acceptable report in it. -/
theorem queueKept_iff_meeting (c : Recorder) (es : List BootEvent) :
    QueueKept c es ↔ Meeting BootEvent.step BootEvent.Meets c es := by
  apply throughout_iff_meeting
  intro c e
  cases e with
  | write r => exact iff_of_true nofun trivial
  | sender call => exact iff_of_true nofun trivial
  | reboot =>
      rw [BootEvent.Meets, ← rebootsKeepQueue_iff]
      exact ⟨fun h => h rfl, fun h _ => h⟩

/-! ## Histories of acceptable reports -/

/-- What the queue and the flash hold after saves of acceptable reports: the
ring holds the reports, and the pointer log the indices of the last save. -/
structure SavedHistory (d : Device) (saved : List (List UInt8))
    (ws : List RecordWrite) : Prop where
  cycleWrite : d.cycleWrite = saved.length % 16384
  ring : RingLog.Holds cycleRing d.chip.flash saved
  logged : Logged d.chip .cycleAdd ws

theorem savedHistory_initial : SavedHistory .initial [] [] where
  cycleWrite := rfl
  ring := RingLog.holds_nil cycleRing _
  logged := logged_of_erased fun _ _ => rfl

/-- The pointer write of the save that makes `n` reports. -/
def cyclePointers (n cycleRead : ℕ) : RecordWrite :=
  ⟨.cycleAdd, UInt32.ofNat (n % 16384), UInt32.ofNat cycleRead⟩

theorem cyclePointers_pair {n cycleRead : ℕ} (hread : cycleRead < maxCycleNum) :
    (cyclePointers n cycleRead).pair = (n % 16384, cycleRead) := by
  simp only [maxCycleNum] at hread
  have hwr : (UInt32.ofNat (n % 16384)).toNat = n % 16384 :=
    UInt32.toNat_ofNat_of_lt' (by simp [UInt32.size]; omega)
  have hrd : (UInt32.ofNat cycleRead).toNat = cycleRead :=
    UInt32.toNat_ofNat_of_lt' (by simp [UInt32.size]; omega)
  rw [RecordWrite.pair, cyclePointers, hwr, hrd]

/-- The commands of an append stay off the pointer logs. -/
theorem untouched_appendCmds_of_owns (type : RecordType) (n : ℕ)
    {r : List UInt8} (hr : r.length = 31) {x : ℕ} (hx : type.Owns x) :
    Untouched sectorSize (RingLog.appendCmds cycleRing n r) x := by
  have hlt := type.addOffset_lt
  have hmod := type.addOffset_mod
  simp only [RecordType.Owns, sectorSize] at hx
  rw [RingLog.appendCmds, untouched_append]
  constructor
  · split
    · rw [untouched_cons]
      refine ⟨?_, untouched_nil sectorSize x⟩
      intro htouch
      have hdiv : x / 4096 = (8 * (n / 128 % 128) + 1768) * 512 / 4096 := htouch
      omega
    · exact untouched_nil sectorSize x
  · apply untouched_programBytes
    rw [cycleRing_addrOf, hr]
    omega

theorem SavedHistory.write {d : Device} {saved : List (List UInt8)}
    {ws : List RecordWrite} {r : List UInt8} (h : SavedHistory d saved ws)
    (hr : Acceptable r) (hread : d.cycleRead < maxCycleNum) :
    SavedHistory (apiCycleWrite d r).1 (saved ++ [r])
        (ws ++ [cyclePointers (saved.length + 1) d.cycleRead]) ∧
      (apiCycleWrite d r).1.cycleRead = d.cycleRead ∧
      (apiCycleWrite d r).1.readCycleStatus = d.readCycleStatus := by
  have hring := holds_apiCycleWrite h.cycleWrite h.ring hr
  rw [apiCycleWrite_acceptable h.cycleWrite h.ring hr] at hring ⊢
  refine ⟨⟨?_, hring, ?_⟩, rfl, rfl⟩
  · simp only [List.length_append, List.length_singleton]
  · have hslots : Logged
        (d.issue (RingLog.appendCmds cycleRing saved.length r)).chip .cycleAdd
        ws := by
      apply h.logged.of_untouched
      intro x hx
      exact untouched_appendCmds_of_owns .cycleAdd saved.length hr.length hx
    have hcommit := hslots.write_same
      (e := cyclePointers (saved.length + 1) d.cycleRead)
    obtain ⟨hwr, hrd⟩ := Prod.mk.inj (cyclePointers_pair
      (n := saved.length + 1) hread)
    rw [writeRecord, hwr, hrd] at hcommit
    rw [Device.issue_append]
    exact hcommit

/-- A boot after a save loads the indices of that save. -/
theorem SavedHistory.loaded {d : Device} {saved : List (List UInt8)}
    {ws : List RecordWrite} {n cycleRead : ℕ}
    (h : SavedHistory d saved (ws ++ [cyclePointers n cycleRead]))
    (hread : cycleRead < maxCycleNum) :
    (Dataflash.loaded d.chip).cycleWrite = n % 16384 ∧
      (Dataflash.loaded d.chip).cycleRead = cycleRead := by
  have hpair := h.logged.readsBack List.getLast?_concat
  rw [← loaded_indices, cyclePointers_pair hread] at hpair
  exact Prod.mk.inj hpair

/-- A live report is what its slot holds. -/
theorem SavedHistory.slotContent {d : Device} {saved : List (List UInt8)}
    {ws : List RecordWrite} {k : ℕ} {r : List UInt8}
    (h : SavedHistory d saved ws) (hk : saved[k]? = some r)
    (hlive : RingLog.Live cycleRing saved.length k) :
    Dataflash.slotContent d.chip (k % 16384) = r := by
  rw [Dataflash.slotContent, dfReadFlash_cycle]
  exact h.ring.live k r hk hlive

/-- The check, the send and the acknowledgement of the oldest report move the
reader on by one. -/
theorem sender_round {d : Device} {saved : List (List UInt8)} {k : ℕ}
    {r : List UInt8} (hidle : d.readCycleStatus = .idle)
    (hne : d.cycleWrite ≠ d.cycleRead) (hread : d.cycleRead = k % 16384)
    (hring : RingLog.Holds cycleRing d.chip.flash saved)
    (hk : saved[k]? = some r) (hlive : RingLog.Live cycleRing saved.length k)
    (hr : Acceptable r) :
    [SenderCall.chk, .send, .update].foldl SenderCall.apply d =
      { d with
        cycleRead := (k + 1) % 16384
        readCycleStatus := .idle
        readCycleTimer := 0 } := by
  have hchk : chkReadCycleStatus d = { d with readCycleStatus := .rdyToSd } := by
    rw [chkReadCycleStatus, if_pos hidle, if_pos hne]
  have hsend : (sendSavedReport { d with readCycleStatus := .rdyToSd }).1 =
      { d with readCycleStatus := .sdOver } := by
    have hlive := apiCycleRead_live
      (d := { d with readCycleStatus := .rdyToSd }) hread hring hk hlive hr
    rw [sendSavedReport, if_pos rfl, hlive]
  simp only [List.foldl_cons, List.foldl_nil, SenderCall.apply, hchk]
  rw [hsend]
  simp only [apiCycleUpdate, if_true, hread, nextCycle_mod]

/-- A report saved, sent and acknowledged, and another one saved. -/
def sentAndSaved : List BootEvent :=
  [.write CycleQueue.sampleReport, .sender .chk, .sender .send,
    .sender .update, .write CycleQueue.sampleReport]

theorem savedHistory_sentAndSaved :
    ∃ ws, SavedHistory
      (sentAndSaved.foldl BootEvent.step ⟨.initial, {}⟩).dev
      [CycleQueue.sampleReport, CycleQueue.sampleReport]
      (ws ++ [cyclePointers 2 1]) := by
  have hr : Acceptable CycleQueue.sampleReport := by decide
  obtain ⟨h₁, hread₁, hstatus₁⟩ := savedHistory_initial.write hr (by decide)
  generalize hd₁ : (apiCycleWrite .initial CycleQueue.sampleReport).1 = d₁ at *
  have hround := sender_round (k := 0) (hstatus₁.trans rfl)
    (by rw [h₁.cycleWrite, hread₁]; decide) hread₁ h₁.ring rfl
    (RingLog.live_self cycleRing 0) hr
  have h₂ : SavedHistory ([SenderCall.chk, .send, .update].foldl
      SenderCall.apply d₁) [CycleQueue.sampleReport]
      [cyclePointers 1 Device.initial.cycleRead] := by
    rw [hround]
    exact ⟨h₁.cycleWrite, h₁.ring, h₁.logged⟩
  have hread₂ : ([SenderCall.chk, .send, .update].foldl
      SenderCall.apply d₁).cycleRead = 1 := by
    rw [hround]
  obtain ⟨h₃, -, -⟩ := h₂.write hr (by rw [hread₂]; decide)
  rw [hread₂] at h₃
  refine ⟨[cyclePointers 1 Device.initial.cycleRead], ?_⟩
  have hrun : (sentAndSaved.foldl BootEvent.step ⟨.initial, {}⟩).dev =
      (apiCycleWrite ([SenderCall.chk, .send, .update].foldl SenderCall.apply
        (apiCycleWrite .initial CycleQueue.sampleReport).1)
        CycleQueue.sampleReport).1 := by
    simp only [sentAndSaved, List.foldl_cons, List.foldl_nil, BootEvent.step]
  rw [hrun, hd₁]
  exact h₃

/-- The next reboot takes the reader back to the report that was sent. -/
theorem reboot_moves_reader :
    ¬ QueueKept ⟨.initial, {}⟩ (sentAndSaved ++ [.reboot]) := by
  intro h
  have hkept := (rebootsKeepQueue_iff _).mp
    (h sentAndSaved .reboot List.prefix_rfl rfl)
  obtain ⟨ws, hsaved⟩ := savedHistory_sentAndSaved
  obtain ⟨hwrite, hread⟩ := hsaved.loaded (by decide)
  rcases hkept with hzero | ⟨hzero, -⟩
  · exact absurd (hwrite.symm.trans hzero) (by decide)
  · exact absurd (hread.symm.trans hzero) (by decide)

end VehicleRecorder.Dataflash
