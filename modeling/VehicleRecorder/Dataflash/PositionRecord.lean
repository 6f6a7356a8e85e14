import Mathlib.Data.List.GetD
import VehicleRecorder.Dataflash.CyclePeek

/-!
# The last position over a reboot

`Save_GPS` encodes the position, the status and the time of the vehicle into a
report; `Get_recent_saveInfo` takes the first position after a reboot from one.
The encoder and the decoder agree on the latitude and the longitude.  They do
not agree on the status, and the decoder looks at the slot of `cycle_read`, not
at the newest one.  The module follows the reports and the indices through whole
histories and shows which reboots restore the report saved last.
-/

namespace VehicleRecorder.Dataflash

open NorFlash Bytes Runs

/-- A two-digit number in BCD. -/
def bcd (x : UInt8) : UInt8 := (x / 10) <<< 4 + x % 10

/-- A `u16`, high byte first. -/
def u16Bytes (x : UInt16) : List UInt8 := [(x >>> 8).toUInt8, x.toUInt8]

/-- `GPSsaveBuf` in front of its checksum. -/
def gpsSaveBody (v : VehicleState) : List UInt8 :=
  v.warnStatus.toList ++ v.carStatus.toList ++ v.latitude.toList ++
    v.longitude.toList ++ u16Bytes v.gpsHight ++ u16Bytes v.speedGps ++
    u16Bytes v.gpsDirection ++ v.date.toList.map bcd ++ v.time.toList.map bcd ++
    u16Bytes v.speedCacu

/-- `GPSsaveBuf`. -/
def gpsSaveBuf (v : VehicleState) : List UInt8 :=
  gpsSaveBody v ++ [xorSum (gpsSaveBody v)]

/-- The save of `Save_GPS` with its second try. -/
def saveTwice (d : Device) (buf : List UInt8) : Device × Bool :=
  match apiCycleWrite d buf with
  | (d₁, true) => (d₁, true)
  | (d₁, false) => apiCycleWrite d₁ buf

/-- `Save_GPS`, with whether a report was saved.  `dfLock` is `DF_LOCK` and
`dataLink` the result of `DataLink_Status`. -/
def saveGps (dfLock dataLink : Bool) (c : Recorder) : Recorder × Bool :=
  if c.dev.positionSdEnable then
    if dfLock then (c, false)
    else if c.dev.readFailSdCurrent ≠ 0 ∧ dataLink then (c, false)
    else
      match saveTwice c.dev (gpsSaveBuf c.vehicle) with
      | (d, ok) => ({ c with dev := { d with positionSdEnable := false } }, ok)
  else (c, false)

/-! ## Encoder and decoder -/

theorem gpsSaveBuf_length (v : VehicleState) : (gpsSaveBuf v).length = 31 := by
  simp [gpsSaveBuf, gpsSaveBody, u16Bytes]

theorem bytes4_append (xs : List UInt8) (v : Vector UInt8 4) (ys : List UInt8) :
    bytes4 (xs ++ (v.toList ++ ys)) xs.length = v := by
  have hget (i : ℕ) (hi : i < 4) :
      (xs ++ (v.toList ++ ys)).getD (xs.length + i) 0 = v[i] := by
    rw [List.getD_append_right _ _ _ _ (by omega), Nat.add_sub_cancel_left,
      List.getD_append _ _ _ _ (by simpa using hi)]
    simp [List.getD_eq_getElem?_getD, hi]
  ext i hi
  have h₀ := hget 0 (by omega)
  have h₁ := hget 1 (by omega)
  have h₂ := hget 2 (by omega)
  have h₃ := hget 3 (by omega)
  rw [Nat.add_zero] at h₀
  simp only [bytes4, h₀, h₁, h₂, h₃]
  match i, hi with
  | 0, _ => rfl
  | 1, _ => rfl
  | 2, _ => rfl
  | 3, _ => rfl

/-- A report, split behind the status and the latitude. -/
theorem gpsSaveBuf_split (v : VehicleState) :
    ∃ tail, gpsSaveBuf v =
      v.warnStatus.toList ++ v.carStatus.toList ++
        (v.latitude.toList ++ (v.longitude.toList ++ tail)) := by
  refine ⟨u16Bytes v.gpsHight ++ u16Bytes v.speedGps ++
    u16Bytes v.gpsDirection ++ v.date.toList.map bcd ++
    v.time.toList.map bcd ++ u16Bytes v.speedCacu ++
    [xorSum (gpsSaveBody v)], ?_⟩
  simp only [gpsSaveBuf, gpsSaveBody, List.append_assoc]

/-- The decoder finds the latitude and the longitude where the encoder put
them. -/
theorem bytes4_gpsSaveBuf (v : VehicleState) :
    bytes4 (gpsSaveBuf v) 8 = v.latitude ∧
      bytes4 (gpsSaveBuf v) 12 = v.longitude := by
  obtain ⟨tail, htail⟩ := gpsSaveBuf_split v
  have hlat := bytes4_append (v.warnStatus.toList ++ v.carStatus.toList)
    v.latitude (v.longitude.toList ++ tail)
  have hlong := bytes4_append (v.warnStatus.toList ++ v.carStatus.toList ++
    v.latitude.toList) v.longitude tail
  rw [List.append_assoc _ v.latitude.toList] at hlong
  rw [htail]
  simp only [List.length_append, Vector.length_toList, Nat.reduceAdd]
    at hlat hlong
  exact ⟨hlat, hlong⟩

theorem gpsSaveBuf_checksum (v : VehicleState) : HasChecksum (gpsSaveBuf v) := by
  have hlen : (gpsSaveBody v).length = 30 := by
    simp [gpsSaveBody, u16Bytes]
  rw [HasChecksum, gpsSaveBuf, ← hlen, List.take_left,
    List.getD_append_right _ _ _ _ (Nat.le_refl _), Nat.sub_self]
  rfl

/-- A report is acceptable unless its warning bytes look erased. -/
theorem gpsSaveBuf_acceptable {v : VehicleState} (h₀ : v.warnStatus[0] ≠ 0xFF)
    (h₁ : ¬ (v.warnStatus[0] = 0 ∧ v.warnStatus[1] = 0xFF)) :
    Acceptable (gpsSaveBuf v) := by
  have hget (i : ℕ) (hi : i < 4) :
      (gpsSaveBuf v).getD i 0 = v.warnStatus[i] := by
    rw [gpsSaveBuf, gpsSaveBody]
    simp only [List.append_assoc]
    rw [List.getD_append _ _ _ _ (by simpa using hi)]
    simp [List.getD_eq_getElem?_getD, hi]
  refine ⟨gpsSaveBuf_length v, gpsSaveBuf_checksum v, ?_, ?_⟩
  · rw [hget 0 (by omega)]
    exact h₀
  · rw [hget 0 (by omega), hget 1 (by omega)]
    exact h₁

/-- `Warn_Status` does not look erased: the program sets the bits `0x60` of its
first byte and `0x90` of its second one, and no others. -/
def Reportable (v : VehicleState) : Prop :=
  v.warnStatus.toList.getD 0 0 ≠ 0xFF ∧
    ¬ (v.warnStatus.toList.getD 0 0 = 0 ∧ v.warnStatus.toList.getD 1 0 = 0xFF)

instance (v : VehicleState) : Decidable (Reportable v) :=
  inferInstanceAs (Decidable (_ ∧ _))

theorem Reportable.acceptable {v : VehicleState} (h : Reportable v) :
    Acceptable (gpsSaveBuf v) := by
  have hget (i : ℕ) (hi : i < 4) : v.warnStatus.toList.getD i 0 =
      v.warnStatus[i] := by
    simp [List.getD_eq_getElem?_getD, hi]
  obtain ⟨hfirst, hsecond⟩ := h
  rw [hget 0 (by decide)] at hfirst hsecond
  rw [hget 1 (by decide)] at hsecond
  exact gpsSaveBuf_acceptable hfirst hsecond

/-! ## Histories -/

/-- `Api_WriteInit_var_rd_wr`, with the indices as the first run finds them. -/
def apiWriteInitVarRdWr (d : Device) : Device :=
  writeRecords d (varRdWrTypes.map fun type => ⟨type, 0, 0⟩)

/-- The recorder, the vehicles of the reports saved as they were when each was
built, and `cycle_read` at the last save. -/
structure PositionHistory where
  recorder : Recorder
  saved : List VehicleState := []
  savedRead : ℕ := 0

namespace PositionHistory

/-- An erased recorder after its first run. -/
def firstRun : PositionHistory where
  recorder := ⟨apiWriteInitVarRdWr .initial, bootVehicle⟩

/-- The report that the stored read index points at has not been erased, and is
of the vehicle. -/
def ReadsAt (h : PositionHistory) (v : VehicleState) : Prop :=
  ∃ k, RingLog.Live cycleRing h.saved.length k ∧ k % 16384 = h.savedRead ∧
    h.saved[k]? = some v

end PositionHistory

/-- An event: other code changes the values of the vehicle, asks for a position
or has sent the current one; `Save_GPS` runs; the stored reports are worked on;
the recorder reboots. -/
inductive PositionEvent
  | vehicle (v : {v : VehicleState // Reportable v})
  | enable
  | currentSent
  | saveGps (dfLock dataLink : Bool)
  | sender (call : SenderCall)
  | reboot

def PositionEvent.step (h : PositionHistory) : PositionEvent → PositionHistory
  | .vehicle v => { h with recorder := { h.recorder with vehicle := v.1 } }
  | .enable =>
      { h with recorder := { h.recorder with
        dev := { h.recorder.dev with positionSdEnable := true } } }
  | .currentSent =>
      { h with recorder := { h.recorder with
        dev := { h.recorder.dev with
          positionSdEnable := false
          currentUdpSd := 0
          readFailSdCurrent := 0 } } }
  | .saveGps dfLock dataLink =>
      match Dataflash.saveGps dfLock dataLink h.recorder with
      | (c, true) =>
          ⟨c, h.saved ++ [h.recorder.vehicle], h.recorder.dev.cycleRead⟩
      | (c, false) => { h with recorder := c }
  | .sender call =>
      { h with recorder := { h.recorder with dev := call.apply h.recorder.dev } }
  | .reboot => { h with recorder := Dataflash.reboot h.recorder }

/-- If the look at boot succeeds, it restores the position and the status of the
report saved last. -/
def RestoresLast (h : PositionHistory) : Prop :=
  (getRecentSaveInfo (loaded h.recorder.dev.chip) bootVehicle).2.2 = true →
    ∀ v ∈ h.saved.getLast?, (reboot h.recorder).vehicle.latitude = v.latitude ∧
      (reboot h.recorder).vehicle.longitude = v.longitude ∧
      (reboot h.recorder).vehicle.carStatus[3] = v.carStatus[3]

/-- Unless as many reports were saved as fill the ring some number of times, the
report that the stored read index points at, if it has not been erased, has the
position of the one saved last, and the first byte of that latitude is the last
one of the status. -/
def PositionEvent.Meets (h : PositionHistory) : PositionEvent → Prop
  | .reboot => h.saved.length % 16384 ≠ 0 → ∀ v last, h.ReadsAt v →
      h.saved.getLast? = some last →
        v.latitude = last.latitude ∧ v.longitude = last.longitude ∧
          last.latitude[0] = last.carStatus[3]
  | _ => True

/-- What a successful look takes from the slot at `cycle_read`. -/
theorem reboot_vehicle {c : Recorder}
    (h : (getRecentSaveInfo (loaded c.dev.chip) bootVehicle).2.2 = true) :
    let d := loaded c.dev.chip
    let slot := slotContent d.chip d.cycleRead
    (reboot c).vehicle.latitude = bytes4 slot 8 ∧
      (reboot c).vehicle.longitude = bytes4 slot 12 ∧
      (reboot c).vehicle.carStatus[3] = slot.getD 8 0 := by
  intro d slot
  obtain ⟨hw, hok⟩ := (getRecentSaveInfo_ok _ _).mp h
  have hread : readCycleGPS d 31 = (d, slot, true) := by
    have hrejects := (readCycleRejects_iff _).mpr hok
    rw [readCycleGPS, ← slotContent, if_neg (by rw [hrejects]; simp)]
  have hinfo : (getRecentSaveInfo d bootVehicle).2 =
      ({ bootVehicle with
          carStatus := bootVehicle.carStatus.set 3 (slot.getD 8 0)
          latitude := bytes4 slot 8
          longitude := bytes4 slot 12 }, true) := by
    rw [getRecentSaveInfo, if_pos hw, hread]
  have hreboot : (reboot c).vehicle = (getRecentSaveInfo d bootVehicle).2.1 := by
    rw [reboot]
    split
    · rename_i heq
      rw [heq]
    · rename_i heq
      rw [heq] at h
      exact absurd h Bool.false_ne_true
  rw [hreboot, hinfo]
  exact ⟨rfl, rfl, by simp⟩

/-- A reboot leaves the warning bytes as they are at power-up. -/
theorem reboot_warnStatus (c : Recorder) :
    (reboot c).vehicle.warnStatus = #v[0, 0, 0, 0] := by
  have hinfo (d : Device) :
      (getRecentSaveInfo d bootVehicle).2.1.warnStatus = #v[0, 0, 0, 0] := by
    rw [getRecentSaveInfo]
    split
    · split
      · rfl
      · rfl
    · rfl
  have hlook := hinfo (loaded c.dev.chip)
  rw [reboot]
  split
  · rename_i heq
    rw [heq] at hlook
    exact hlook
  · rename_i heq
    rw [heq] at hlook
    exact hlook

/-! ## The sender and the indices -/

theorem nextCycle_lt {n : ℕ} (h : n < maxCycleNum) :
    nextCycle n < maxCycleNum := by
  have hlt : n < 16384 := h
  simp only [nextCycle, bump, maxCycleNum]
  split <;> omega

/-- The sender's side moves `cycle_read` alone, and keeps it in range. -/
theorem SenderCall.apply_frame (call : SenderCall) (d : Device) :
    (call.apply d).chip = d.chip ∧ (call.apply d).cycleWrite = d.cycleWrite ∧
      (d.cycleRead < maxCycleNum → (call.apply d).cycleRead < maxCycleNum) := by
  cases call with
  | chk =>
      rw [SenderCall.apply, chkReadCycleStatus]
      split
      · split
        · exact ⟨rfl, rfl, id⟩
        · exact ⟨rfl, rfl, id⟩
      · exact ⟨rfl, rfl, id⟩
  | send =>
      rw [SenderCall.apply, sendSavedReport]
      split
      · rw [apiCycleRead, readCycleGPS]
        split
        · rename_i hread
          split at hread
          · obtain ⟨-, -, hok⟩ := hread
          · obtain ⟨rfl, -, -⟩ := hread
            exact ⟨rfl, rfl, id⟩
        · rename_i hread
          split at hread
          · obtain ⟨rfl, -, -⟩ := hread
            exact ⟨rfl, rfl, nextCycle_lt⟩
          · obtain ⟨-, -, hok⟩ := hread
      · exact ⟨rfl, rfl, id⟩
  | update =>
      rw [SenderCall.apply, apiCycleUpdate]
      split
      · exact ⟨rfl, rfl, nextCycle_lt⟩
      · exact ⟨rfl, rfl, id⟩
  | second =>
      rw [SenderCall.apply, readCycleTimeout]
      split
      · dsimp only
        split
        · exact ⟨rfl, rfl, id⟩
        · exact ⟨rfl, rfl, id⟩
      · exact ⟨rfl, rfl, id⟩

/-! ## What the flash holds in a history -/

namespace PositionHistory

/-- The ring holds the reports saved, the pointer log the indices of the last
save, and the slots that were never reached are erased. -/
structure Stored (h : PositionHistory) : Prop where
  history : ∃ ws, SavedHistory h.recorder.dev (h.saved.map gpsSaveBuf)
    (ws ++ [cyclePointers h.saved.length h.savedRead])
  fresh : ∀ k, h.saved.length ≤ k → k < 16384 →
    Erased h.recorder.dev.chip.flash (cycleRing.addrOf k) 31
  cycleRead : h.recorder.dev.cycleRead < maxCycleNum
  savedRead : h.savedRead < maxCycleNum
  vehicle : Reportable h.recorder.vehicle
  saved : ∀ v ∈ h.saved, Reportable v

variable {h : PositionHistory}

/-- What leaves the flash and `cycle_write` alone. -/
theorem Stored.of_dev (hs : h.Stored) {c : Recorder}
    (hchip : c.dev.chip = h.recorder.dev.chip)
    (hwrite : c.dev.cycleWrite = h.recorder.dev.cycleWrite)
    (hread : c.dev.cycleRead < maxCycleNum) (hvehicle : Reportable c.vehicle) :
    Stored { h with recorder := c } := by
  obtain ⟨ws, hhistory⟩ := hs.history
  refine ⟨⟨ws, hwrite.trans hhistory.cycleWrite, ?_, ?_⟩, ?_, hread,
    hs.savedRead, hvehicle, hs.saved⟩
  · rw [hchip]
    exact hhistory.ring
  · rw [hchip]
    exact hhistory.logged
  · rw [hchip]
    exact hs.fresh

/-- A report of the vehicle was saved, which left the device. -/
def withReport (h : PositionHistory) (d : Device) : PositionHistory where
  recorder := { h.recorder with dev := { d with positionSdEnable := false } }
  saved := h.saved ++ [h.recorder.vehicle]
  savedRead := h.recorder.dev.cycleRead

/-- A save appends a report, and records where the reader is. -/
theorem Stored.write (hs : h.Stored) :
    ∃ d, apiCycleWrite h.recorder.dev (gpsSaveBuf h.recorder.vehicle) =
        (d, true) ∧ d.cycleRead = h.recorder.dev.cycleRead ∧
      (h.withReport d).Stored := by
  obtain ⟨ws, hhistory⟩ := hs.history
  have hacc := hs.vehicle.acceptable
  have hlen : (h.saved.map gpsSaveBuf).length = h.saved.length :=
    List.length_map _
  obtain ⟨hnext, hread, -⟩ := hhistory.write hacc hs.cycleRead
  have hwrite := apiCycleWrite_acceptable hhistory.cycleWrite hhistory.ring hacc
  have hok := congrArg Prod.snd hwrite
  have hflash := congrArg (fun p => p.1.chip.flash) hwrite
  generalize apiCycleWrite h.recorder.dev (gpsSaveBuf h.recorder.vehicle) = p
    at hnext hread hok hflash
  obtain ⟨d, ok⟩ := p
  obtain rfl : ok = true := hok
  have hflash : d.chip.flash = execAll sectorSize
      h.recorder.dev.chip.flash _ := hflash
  rw [execAll_append, hlen] at hflash
  refine ⟨d, rfl, hread, ⟨ws ++ [cyclePointers h.saved.length h.savedRead], ?_⟩,
    ?_, ?_, hs.cycleRead, hs.vehicle, ?_⟩
  · rw [hlen] at hnext
    rw [withReport, List.map_append, List.map_singleton, List.length_append,
      List.length_singleton]
    exact ⟨hnext.cycleWrite, hnext.ring, hnext.logged⟩
  · intro k hk hround
    rw [withReport, List.length_append, List.length_singleton] at hk
    have hahead := RingLog.erased_ahead cycleRing (n := h.saved.length)
      (r := gpsSaveBuf h.recorder.vehicle) (hs.fresh k (by omega) hround)
      (gpsSaveBuf_length _).le (by omega) hround
    have hkept : Erased d.chip.flash (cycleRing.addrOf k) 31 := by
      rw [hflash]
      apply hahead.of_untouched
      intro x hlo hhi
      exact untouched_cyclePointerCmds h.recorder.dev _ _ (k := k) ⟨hlo, hhi⟩
    exact hkept
  · exact hread.trans_lt hs.cycleRead
  · intro v hv
    rcases List.mem_append.mp hv with hold | hnew
    · exact hs.saved v hold
    · rw [List.mem_singleton.mp hnew]
      exact hs.vehicle

/-- `Save_GPS` saves a report when a position is asked for, the flash is not
locked and the link is down. -/
theorem Stored.saveGps_enabled (hs : h.Stored)
    (henable : h.recorder.dev.positionSdEnable = true) :
    ∃ d, PositionEvent.step h (.saveGps false false) = h.withReport d ∧
      d.cycleRead = h.recorder.dev.cycleRead ∧ (h.withReport d).Stored := by
  obtain ⟨d, hwrite, hread, hstored⟩ := hs.write
  refine ⟨d, ?_, hread, hstored⟩
  rw [PositionEvent.step, Dataflash.saveGps, if_pos henable,
    if_neg Bool.false_ne_true, if_neg (fun hfail => nomatch hfail.2), saveTwice,
    hwrite]
  rfl

/-- It saves a report, or nothing changes. -/
theorem Stored.saveGps (hs : h.Stored) (dfLock dataLink : Bool) :
    (PositionEvent.step h (.saveGps dfLock dataLink)).Stored := by
  obtain ⟨d, hwrite, -, hstored⟩ := hs.write
  rw [PositionEvent.step, Dataflash.saveGps]
  by_cases henable : h.recorder.dev.positionSdEnable = true
  · rw [if_pos henable]
    split_ifs
    · exact hs
    · exact hs
    · rw [saveTwice, hwrite]
      exact hstored
  · rw [if_neg henable]
    exact hs

/-- What a boot loads. -/
theorem Stored.loaded (hs : h.Stored) :
    (Dataflash.loaded h.recorder.dev.chip).cycleWrite =
        h.saved.length % 16384 ∧
      (Dataflash.loaded h.recorder.dev.chip).cycleRead = h.savedRead := by
  obtain ⟨ws, hhistory⟩ := hs.history
  exact hhistory.loaded hs.savedRead

theorem Stored.step (hs : h.Stored) (e : PositionEvent) :
    (e.step h).Stored := by
  cases e with
  | vehicle v => exact hs.of_dev rfl rfl hs.cycleRead v.2
  | enable => exact hs.of_dev rfl rfl hs.cycleRead hs.vehicle
  | currentSent => exact hs.of_dev rfl rfl hs.cycleRead hs.vehicle
  | saveGps dfLock dataLink => exact hs.saveGps dfLock dataLink
  | sender call =>
      obtain ⟨hchip, hwrite, hread⟩ := call.apply_frame h.recorder.dev
      exact hs.of_dev hchip hwrite (hread hs.cycleRead) hs.vehicle
  | reboot =>
      obtain ⟨hwrite, hread⟩ := hs.loaded
      obtain ⟨ws, hhistory⟩ := hs.history
      have hframe := getRecentSaveInfo_frame
        (Dataflash.loaded h.recorder.dev.chip) bootVehicle
      rw [← reboot_dev, hwrite] at hframe
      have hrange := hs.savedRead
      refine hs.of_dev (reboot_chip h.recorder) ?_ ?_ ?_
      · rw [hframe.2, hhistory.cycleWrite, List.length_map]
      · rw [reboot_dev]
        rcases getRecentSaveInfo_cycleRead
          (Dataflash.loaded h.recorder.dev.chip) bootVehicle with
          ⟨-, -, hmoved⟩ | ⟨-, -, hmoved⟩ | ⟨-, hmoved⟩
        · rw [hmoved, hread]
          exact Nat.lt_of_le_of_lt (Nat.sub_le _ 1) hrange
        · rw [hmoved, hread]
          exact nextCycle_lt hrange
        · rw [hmoved, hread]
          exact hrange
      · rw [Reportable, reboot_warnStatus]
        decide

/-! ## The first run -/

/-- The pointer writes stay off the ring. -/
theorem writeRecords_keeps (d : Device) (es : List RecordWrite) :
    (writeRecords d es).cycleWrite = d.cycleWrite ∧
      (writeRecords d es).cycleRead = d.cycleRead ∧
      ∀ k x, cycleRing.InSlot k x →
        (writeRecords d es).chip.flash x = d.chip.flash x := by
  induction es generalizing d with
  | nil => exact ⟨rfl, rfl, fun _ _ _ => rfl⟩
  | cons e es ih =>
      obtain ⟨hwrite, hread, hflash⟩ := ih (writeRecord d e)
      exact ⟨hwrite, hread, fun k x hx => (hflash k x hx).trans
        (execAll_of_untouched sectorSize
          (untouched_recordAddCmds d.chip _ _ (not_owns_cycle e.type hx)))⟩

theorem stored_firstRun : firstRun.Stored := by
  obtain ⟨hwrite, hread, hflash⟩ := writeRecords_keeps .initial
    (varRdWrTypes.map fun type => ⟨type, 0, 0⟩)
  have herased : Logged Device.initial.chip .cycleAdd [] :=
    logged_of_erased fun _ _ => rfl
  have hlogged := herased.run (varRdWrTypes.map fun type => ⟨type, 0, 0⟩)
  refine ⟨⟨[], hwrite, RingLog.holds_nil cycleRing _, hlogged⟩, ?_, ?_,
    by decide, by decide, nofun⟩
  · intro k _ _ x hlo hhi
    exact hflash k x ⟨hlo, hhi⟩
  · exact hread.trans_lt (by decide)

/-! ## The report that is read at boot -/

/-- The slot of the stored read index holds that report. -/
theorem Stored.slotContent (hs : h.Stored) {v : VehicleState}
    (hv : h.ReadsAt v) :
    Dataflash.slotContent h.recorder.dev.chip h.savedRead = gpsSaveBuf v := by
  obtain ⟨k, hlive, hslot, hk⟩ := hv
  obtain ⟨ws, hhistory⟩ := hs.history
  rw [← hslot]
  refine hhistory.slotContent ?_ (by rw [List.length_map]; exact hlive)
  rw [List.getElem?_map, hk]
  rfl

/-- An erased slot is refused. -/
theorem not_passesRead_of_erased {chip : Chip} {k : ℕ}
    (herased : Erased chip.flash (cycleRing.addrOf k) 31) :
    ¬ PassesRead (Dataflash.slotContent chip (k % 16384)) := by
  rw [← readCycleRejects_iff, Dataflash.slotContent, dfReadFlash_cycle,
    readBytes_of_erased herased, rejects_erased]
  decide

/-- A slot that is not refused holds a report: one that was never reached, and
one whose report was erased, are. -/
theorem Stored.readsAt_of_passes (hs : h.Stored)
    (hpasses : PassesRead
      (Dataflash.slotContent h.recorder.dev.chip h.savedRead)) :
    ∃ v, h.ReadsAt v := by
  have hrange : h.savedRead < 16384 := hs.savedRead
  have hmod : h.savedRead % 16384 = h.savedRead := Nat.mod_eq_of_lt hrange
  rcases Nat.lt_or_ge h.savedRead h.saved.length with hreached | hnever
  · -- The last report that was written into the slot.
    obtain ⟨k, hk, hslot, hround⟩ : ∃ k, k < h.saved.length ∧
        k % 16384 = h.savedRead ∧ h.saved.length ≤ k + 16384 := by
      refine ⟨h.saved.length - 1 -
        (h.saved.length - 1 - h.savedRead) % 16384, ?_, ?_, ?_⟩
      · omega
      · omega
      · omega
    by_cases hlive : RingLog.Live cycleRing h.saved.length k
    · exact ⟨_, k, hlive, hslot, List.getElem?_eq_getElem hk⟩
    · obtain ⟨ws, hhistory⟩ := hs.history
      have herased := hhistory.ring.erased_of_dead cycleRing (k := k)
        (by rw [List.length_map]; exact hk)
        (by rw [List.length_map]; exact hlive)
        (by rw [List.length_map]; exact hround)
      rw [← hslot] at hpasses
      exact absurd hpasses (not_passesRead_of_erased herased)
  · have herased := hs.fresh h.savedRead hnever hrange
    rw [← hmod] at hpasses
    exact absurd hpasses (not_passesRead_of_erased herased)

theorem Stored.restoresLast_iff (hs : h.Stored) :
    RestoresLast h ↔ PositionEvent.Meets h .reboot := by
  obtain ⟨hwrite, hread⟩ := hs.loaded
  have hok := getRecentSaveInfo_ok (Dataflash.loaded h.recorder.dev.chip)
    bootVehicle
  rw [loaded_chip, hwrite, hread] at hok
  rw [RestoresLast, PositionEvent.Meets]
  constructor
  · intro hkeep hn v last hv hlast
    have hslot := hs.slotContent hv
    obtain ⟨hlat, hlong⟩ := bytes4_gpsSaveBuf v
    have hmem : v ∈ h.saved := by
      obtain ⟨k, -, -, hk⟩ := hv
      exact List.mem_of_getElem? hk
    have hpasses : PassesRead (gpsSaveBuf v) :=
      (readCycleRejects_iff _).mp (hs.saved v hmem).acceptable.not_rejected
    have hlook := hok.mpr ⟨Nat.pos_of_ne_zero hn, hslot ▸ hpasses⟩
    obtain ⟨hlat', hlong', hstatus'⟩ := reboot_vehicle hlook
    obtain ⟨hlatLast, hlongLast, hstatusLast⟩ := hkeep hlook last hlast
    rw [loaded_chip, hread, hslot] at hlat' hlong' hstatus'
    refine ⟨?_, ?_, ?_⟩
    · rw [← hlat, ← hlat', hlatLast]
    · rw [← hlong, ← hlong', hlongLast]
    · rw [← hstatusLast, hstatus', ← hlatLast, hlat']
      rfl
  · intro hmeets hlook last hlast
    obtain ⟨hn, hpasses⟩ := hok.mp hlook
    obtain ⟨v, hv⟩ := hs.readsAt_of_passes hpasses
    have hslot := hs.slotContent hv
    obtain ⟨hlat, hlong⟩ := bytes4_gpsSaveBuf v
    obtain ⟨hlat', hlong', hstatus'⟩ := reboot_vehicle hlook
    obtain ⟨hlatLast, hlongLast, hstatusLast⟩ :=
      hmeets (Nat.pos_iff_ne_zero.mp hn) v last hv hlast
    rw [loaded_chip, hread, hslot] at hlat' hlong' hstatus'
    refine ⟨?_, ?_, ?_⟩
    · rw [hlat', hlat, hlatLast]
    · rw [hlong', hlong, hlongLast]
    · rw [hstatus', ← hstatusLast, ← hlatLast, ← hlat]
      rfl

end PositionHistory

open PositionHistory

/-- Over any history of an erased recorder, the looks at boot restore what was
saved last exactly when at every reboot the report that the stored read index
points at, unless it has been erased, has the position of the one saved last, in
which the status byte equals the first byte of the latitude. -/
theorem restoresLast_iff_meeting (es : List PositionEvent) :
    Throughout PositionEvent.step (fun h e => e = .reboot → RestoresLast h)
        firstRun es ↔
      Meeting PositionEvent.step PositionEvent.Meets firstRun es := by
  refine throughout_iff_meeting_of_invariant ?_ ?_ stored_firstRun es
  · intro h e hs
    cases e with
    | reboot => exact ⟨fun hr => hs.restoresLast_iff.mp (hr rfl),
        fun hm _ => hs.restoresLast_iff.mpr hm⟩
    | _ => exact iff_of_true nofun trivial
  · exact fun h e hs _ => hs.step e

/-- A position is asked for, and saved. -/
def askedSaved (v : {v : VehicleState // Reportable v}) : List PositionEvent :=
  [.enable, .vehicle v, .saveGps false false]

theorem PositionHistory.Stored.askedSaved {h : PositionHistory} (hs : h.Stored)
    (v : {v : VehicleState // Reportable v}) :
    ∃ h', (Dataflash.askedSaved v).foldl PositionEvent.step h = h' ∧
      h'.saved = h.saved ++ [v.1] ∧
      h'.savedRead = h.recorder.dev.cycleRead ∧
      h'.recorder.dev.cycleRead = h.recorder.dev.cycleRead ∧ h'.Stored := by
  have hasked := (hs.step .enable).step (.vehicle v)
  obtain ⟨d, hstep, hread, hstored⟩ := hasked.saveGps_enabled rfl
  exact ⟨_, hstep, rfl, rfl, hread, hstored⟩

theorem firstRun_cycleRead : firstRun.recorder.dev.cycleRead = 0 :=
  (writeRecords_keeps .initial (varRdWrTypes.map fun type => ⟨type, 0, 0⟩)).2.1

/-- A vehicle at `1 2 3 4`, with the status byte 3. -/
def firstVehicle : {v : VehicleState // Reportable v} :=
  ⟨{ bootVehicle with
    carStatus := #v[0, 0x0C, 0, 3]
    latitude := #v[1, 2, 3, 4] }, by decide⟩

/-- The same vehicle at `3 2 3 4`. -/
def secondVehicle : {v : VehicleState // Reportable v} :=
  ⟨{ firstVehicle.1 with latitude := #v[3, 2, 3, 4] }, by decide⟩

/-- After one save the status byte is restored from the latitude, and of two
reports that have not been sent the older one is restored. -/
theorem status_not_restored :
    ¬ Throughout PositionEvent.step (fun h e => e = .reboot → RestoresLast h)
        firstRun (askedSaved firstVehicle ++ [.reboot]) ∧
      ¬ Throughout PositionEvent.step (fun h e => e = .reboot → RestoresLast h)
        firstRun
        ((askedSaved firstVehicle ++ askedSaved secondVehicle) ++
          [.reboot]) := by
  obtain ⟨h₁, hrun₁, hsaved₁, hat₁, hread₁, hs₁⟩ :=
    stored_firstRun.askedSaved firstVehicle
  obtain ⟨h₂, hrun₂, hsaved₂, hat₂, -, hs₂⟩ := hs₁.askedSaved secondVehicle
  rw [firstRun_cycleRead] at hat₁ hread₁
  rw [hread₁] at hat₂
  have hone : h₁.saved = [firstVehicle.1] := hsaved₁
  rw [hone] at hsaved₂
  have htwo : h₂.saved = [firstVehicle.1, secondVehicle.1] := hsaved₂
  constructor
  · intro h
    have hlast := h (askedSaved firstVehicle) .reboot List.prefix_rfl rfl
    rw [hrun₁] at hlast
    have hreads : h₁.ReadsAt firstVehicle.1 := by
      refine ⟨0, ?_, hat₁.symm, by rw [hone]; rfl⟩
      rw [hone]
      exact RingLog.live_self cycleRing 0
    have hall := hs₁.restoresLast_iff.mp hlast (by rw [hone]; decide) _
      firstVehicle.1 hreads (by rw [hone]; rfl)
    exact absurd hall.2.2 (by decide)
  · intro h
    have hlast := h (askedSaved firstVehicle ++ askedSaved secondVehicle)
      .reboot List.prefix_rfl rfl
    rw [List.foldl_append, hrun₁, hrun₂] at hlast
    have hreads : h₂.ReadsAt firstVehicle.1 := by
      refine ⟨0, ?_, hat₂.symm, by rw [htwo]; rfl⟩
      rw [htwo]
      exact RingLog.live_of_backlog cycleRing (by decide) (by decide)
    have hall := hs₂.restoresLast_iff.mp hlast (by rw [htwo]; decide) _
      secondVehicle.1 hreads (by rw [htwo]; rfl)
    exact absurd hall.1 (by decide)

end VehicleRecorder.Dataflash
