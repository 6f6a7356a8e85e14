import VehicleRecorder.Dataflash.Directory
import VehicleRecorder.Dataflash.LogIsolation

/-!
# The order of the directory

`Api_DFdirectory_Write` appends records to the rings of the per-minute speeds,
the tired-driving warnings and the suspicious-event blocks.  Read from the
newest on, `Api_DFdirectory_Read` counts down from the write index and stops at
slot 0: the records behind the wrap of the index are not reached.
-/

namespace VehicleRecorder.Dataflash

open NorFlash Bytes

/-! ## Three rings -/

/-- The logs that are read in both directions. -/
inductive RecordLog
  | spdpermin
  | tiredWarn
  | doubtData
  deriving DecidableEq, Repr

namespace RecordLog

/-- The name in the directory. -/
def name : RecordLog → DirectoryName
  | spdpermin => .spdpermin
  | tiredWarn => .tiredWarn
  | doubtData => .doubtData

/-- The region in the flash. -/
def log : RecordLog → Log
  | spdpermin => .perMin
  | tiredWarn => .tired
  | doubtData => .doubt

/-- The erase sectors of the region. -/
def sectors : RecordLog → ℕ
  | spdpermin => 50
  | tiredWarn => 1
  | doubtData => 25

/-- The write index. -/
def index (d : Device) : RecordLog → ℕ
  | spdpermin => d.avrgSpdPerMinWrite
  | tiredWarn => d.tiredDrvWrite
  | doubtData => d.recorderWrite

theorem log_inj {l m : RecordLog} (h : l.log = m.log) : l = m := by
  cases l <;> cases m <;> first | rfl | exact absurd h nofun

theorem slots_eq (l : RecordLog) : l.log.per * 8 * l.sectors = l.log.slots := by
  cases l <;> rfl

theorem slots_pos (l : RecordLog) : 0 < l.log.slots := by
  cases l <;> decide

/-- The region as a ring. -/
def ring (l : RecordLog) : RingLog.Layout where
  size := sectorSize
  per := l.log.per * 8
  sectors := l.sectors
  width := l.log.width
  slotAddr := l.log.addr
  sectorAddr := fun j => (l.log.start + 8 * j) * 512
  per_pos := by cases l <;> decide
  sectors_pos := by cases l <;> decide
  width_pos := by cases l <;> decide
  slot_sector := by
    intro i hi x hlo hhi
    have hperMin := Nat.div_div_eq_div_mul i 7 8
    cases l <;>
      simp only [log, sectors, Log.addr, Log.start, Log.per, Log.width,
        slotAddr, sectorSize, vehicleRecStartOffset, averageSpdStartOffset,
        tiredDrvStartOffset] at hi hlo hhi ⊢ <;>
      omega
  sector_inj := by
    intro i hi j hj h
    cases l <;>
      simp only [log, Log.start, sectorSize, vehicleRecStartOffset,
        averageSpdStartOffset, tiredDrvStartOffset] at h <;>
      omega
  slot_slot := by
    intro i j hij hj
    cases l <;>
      simp only [log, sectors, Log.addr, Log.start, Log.per, Log.width,
        slotAddr] at hj ⊢ <;>
      omega

theorem ring_addrOf (l : RecordLog) (k : ℕ) :
    l.ring.addrOf k = l.log.addr (k % l.log.slots) := by
  rw [← slots_eq]
  rfl

/-- A byte of a slot belongs to the pages of the log. -/
theorem owns_of_inSlot {l : RecordLog} {k x : ℕ} (hx : l.ring.InSlot k x) :
    l.log.Owns x := by
  have hk := Nat.mod_lt k l.slots_pos
  obtain ⟨hlo, hhi⟩ := hx
  rw [ring_addrOf] at hlo hhi
  refine ⟨k % l.log.slots, hk, ?_⟩
  generalize k % l.log.slots = i at hlo hhi
  cases l <;>
    simp only [ring, log, Log.addr, Log.page, Log.start, Log.per, Log.width,
      slotAddr] at hlo hhi ⊢ <;>
    omega

end RecordLog

/-! ## Records -/

/-- A record for one of the logs, not longer than a slot. -/
structure DirectoryCall where
  log : RecordLog
  content : List UInt8
  length_le : content.length ≤ log.log.width

/-- `Api_DFdirectory_Write` with the record. -/
def directoryCall (d : Device) (c : DirectoryCall) : Device :=
  (apiDFdirectoryWrite d c.log.name c.content).1

/-- The records of a log among the calls, oldest first. -/
def recordsOf (l : RecordLog) (cs : List DirectoryCall) : List (List UInt8) :=
  (cs.filter (·.log = l)).map DirectoryCall.content

/-- A record with the rest of its slot, which stays erased. -/
def inSlot (width : ℕ) (r : List UInt8) : List UInt8 :=
  r ++ List.replicate (width - r.length) 0xFF

theorem inSlot_length {width : ℕ} {r : List UInt8} (h : r.length ≤ width) :
    (inSlot width r).length = width := by
  rw [inSlot, List.length_append, List.length_replicate]
  omega

/-- The record in front of the rest of its slot. -/
theorem readBytes_of_inSlot {f : Flash} {addr width : ℕ} {r : List UInt8}
    (hlen : r.length ≤ width) (h : readBytes f addr width = inSlot width r) :
    readBytes f addr r.length = r := by
  have hwidth : width = r.length + (width - r.length) :=
    (Nat.add_sub_of_le hlen).symm
  rw [hwidth, readBytes_add, ← hwidth, inSlot] at h
  exact List.append_inj_left h (readBytes_length _ _ _)

/-- Programming the rest of a slot with `0xFF` changes nothing. -/
theorem execAll_programBytes_inSlot (f : Flash) (addr width : ℕ)
    (r : List UInt8) :
    execAll sectorSize f (programBytes addr (inSlot width r)) =
      execAll sectorSize f (programBytes addr r) := by
  funext x
  rw [execAll_programBytes_apply, execAll_programBytes_apply]
  congr 1
  unfold operand inSlot
  split
  · rcases Nat.lt_or_ge (x - addr) r.length with hin | hout
    · rw [List.getElem?_append_left hin]
    · rw [List.getElem?_append_right hout, List.getElem?_eq_none hout,
        List.getElem?_replicate]
      split <;> rfl
  · rfl

/-! ## One record -/

/-- The slot that the next record of a log goes to is free. -/
def NextFree (d : Device) (l : RecordLog) : Prop :=
  ¬ SlotInUse l.log.start l.log.per l.log.width d.chip (l.index d)

/-- The save of a record whose slot is free. -/
theorem saveSlot_of_free {d : Device} {l : RecordLog}
    (hi : l.index d < l.log.slots) (hfree : NextFree d l) {content : List UInt8}
    (hlen : content.length < 65536) :
    saveSlot l.log.start l.log.per l.log.width d (l.index d) content =
      (d.issue (slotCmds l.log.start l.log.per l.log.width d.chip (l.index d)
        content), true) := by
  have hfree : decide (¬ SlotInUse l.log.start l.log.per l.log.width d.chip
      (l.index d)) = true := decide_eq_true hfree
  rw [saveSlot_eq (l.log.fits hi) hlen, hfree]

theorem RecordLog.width_lt (l : RecordLog) : l.log.width < 65536 := by
  cases l <;> decide

/-- What a write does when its slot is free: the record and the pointer log are
written, and the index is moved on. -/
theorem apiDFdirectoryWrite_cases {d : Device} {l : RecordLog}
    {content : List UInt8} (hi : l.index d < l.log.slots)
    (hfree : NextFree d l) (hlen : content.length ≤ l.log.width) :
    (∃ chip wr rd type, (apiDFdirectoryWrite d l.name content).1.chip =
        (d.chip.issue (slotCmds l.log.start l.log.per l.log.width d.chip
          (l.index d) content)).issue (recordAddCmds chip wr rd type)) ∧
      ∀ m : RecordLog, m.index (apiDFdirectoryWrite d l.name content).1 =
        if m = l then bump l.log.slots (l.index d) else m.index d := by
  have hsave := saveSlot_of_free hi hfree
    (Nat.lt_of_le_of_lt hlen l.width_lt)
  cases l with
  | spdpermin =>
      have hsave : savePerMinContent d d.avrgSpdPerMinWrite content =
          (d.issue (slotCmds averageSpdStartOffset 7 70 d.chip
            d.avrgSpdPerMinWrite content), true) := by
        rw [savePerMinContent, show saveSlot averageSpdStartOffset 7 70 d
          d.avrgSpdPerMinWrite content = _ from hsave]
        rfl
      simp only [RecordLog.name, apiDFdirectoryWrite, hsave]
      exact ⟨⟨_, _, _, _, rfl⟩, fun m => by cases m <;> rfl⟩
  | tiredWarn =>
      have hsave : commonWriteContent d d.tiredDrvWrite content .tiredDrvAdd =
          (d.issue (slotCmds tiredDrvStartOffset 16 32 d.chip d.tiredDrvWrite
            content), true) := by
        rw [commonWriteContent]
        simp only [RecordType.startOffset]
        rw [show saveSlot tiredDrvStartOffset 16 32 d d.tiredDrvWrite content =
          _ from hsave]
        rfl
      simp only [RecordLog.name, apiDFdirectoryWrite, hsave]
      exact ⟨⟨_, _, _, _, rfl⟩, fun m => by cases m <;> rfl⟩
  | doubtData =>
      have hsave : saveDrvRecoder d d.recorderWrite content =
          (d.issue (slotCmds vehicleRecStartOffset 2 256 d.chip
            d.recorderWrite content), true) := by
        rw [saveDrvRecoder, show saveSlot vehicleRecStartOffset 2 256 d
          d.recorderWrite content = _ from hsave]
        rfl
      simp only [RecordLog.name, apiDFdirectoryWrite, hsave]
      exact ⟨⟨_, _, _, _, rfl⟩, fun m => by cases m <;> rfl⟩

/-- The save erases where the ring begins a sector. -/
theorem firstOfSector_iff (l : RecordLog) (n : ℕ) :
    FirstOfSector l.log.per (n % l.log.slots) ↔ n % l.ring.per = 0 := by
  cases l <;>
    simp only [FirstOfSector, RecordLog.ring, RecordLog.log, Log.per,
      Log.slots, maxSpdsPerMin, maxCommonNum, maxRecoderNum] <;>
    omega

/-- The commands of a save into a free slot are an append to the ring. -/
theorem execAll_slotCmds (l : RecordLog) (chip : Chip) (n : ℕ)
    {content : List UInt8}
    (hfree : ¬ SlotInUse l.log.start l.log.per l.log.width chip
      (n % l.log.slots)) :
    execAll sectorSize chip.flash (slotCmds l.log.start l.log.per l.log.width
        chip (n % l.log.slots) content) =
      execAll sectorSize chip.flash
        (RingLog.appendCmds l.ring n (inSlot l.log.width content)) := by
  have herase : sectorCmds l.log.start l.log.per (n % l.log.slots) =
      if n % l.ring.per = 0 then
        [.erase (l.ring.sectorAddr (n / l.ring.per % l.ring.sectors))]
      else [] := by
    have hfirst := firstOfSector_iff l n
    have haddr : n % l.ring.per = 0 →
        (l.log.start + n % l.log.slots / l.log.per) * 512 =
          l.ring.sectorAddr (n / l.ring.per % l.ring.sectors) := by
      intro hn
      cases l <;>
        simp only [RecordLog.ring, RecordLog.log, RecordLog.sectors, Log.per,
          Log.slots, Log.start, maxSpdsPerMin, maxCommonNum,
          maxRecoderNum] at hn ⊢ <;>
        omega
    rw [sectorCmds]
    by_cases hn : n % l.ring.per = 0
    · rw [if_pos (hfirst.mpr hn), if_pos hn, haddr hn]
    · rw [if_neg (mt hfirst.mp hn), if_neg hn]
  rw [slotCmds, if_neg hfree, RingLog.appendCmds, execAll_append,
    execAll_append, herase, execAll_programBytes_inSlot, l.ring_addrOf]
  rfl

/-- The log holds records that were appended to it from slot 0 on. -/
structure Appended (d : Device) (l : RecordLog) (rs : List (List UInt8)) :
    Prop where
  index : l.index d = rs.length % l.log.slots
  holds : RingLog.Holds l.ring d.chip.flash (rs.map (inSlot l.log.width))

/-- The slot of the next record has been erased, or will be. -/
theorem Appended.nextFree {d : Device} {l : RecordLog} {rs : List (List UInt8)}
    (h : Appended d l rs) : NextFree d l := by
  rintro ⟨hfirst, hused⟩
  have hlen : (rs.map (inSlot l.log.width)).length = rs.length :=
    List.length_map _
  have hopen : rs.length / l.ring.per < RingLog.opened l.ring rs.length := by
    rw [RingLog.opened, if_neg]
    · exact Nat.lt_succ_self _
    · intro hn
      apply hfirst
      rw [h.index]
      exact (firstOfSector_iff l rs.length).mpr hn
  have herased := h.holds.free rs.length hlen.le (by rw [hlen]; exact hopen)
  apply hused
  rw [h.index]
  refine herased _ (l.ring_addrOf rs.length).le ?_
  rw [l.ring_addrOf]
  exact Nat.lt_add_of_pos_right l.ring.width_pos

theorem bump_mod {N : ℕ} (hpos : 0 < N) (hlt : N < 4294967296) (n : ℕ) :
    bump N (n % N) = (n + 1) % N := by
  have hmod := Nat.mod_lt n hpos
  have hnext : (n % N + 1) % 4294967296 = n % N + 1 :=
    Nat.mod_eq_of_lt (by omega)
  have hsum : (n + 1) % N = (n % N + 1) % N := (Nat.mod_add_mod n N 1).symm
  rw [bump, hnext, hsum]
  by_cases hwrap : n % N + 1 = N
  · rw [if_pos hwrap.ge, hwrap, Nat.mod_self]
  · have hround : (n % N + 1) % N = n % N + 1 := Nat.mod_eq_of_lt (by omega)
    rw [if_neg (by omega), hround]

theorem bump_slots (l : RecordLog) (n : ℕ) :
    bump l.log.slots (n % l.log.slots) = (n + 1) % l.log.slots :=
  bump_mod l.slots_pos (by cases l <;> decide) n

/-- A save into one of the logs keeps clear of the others. -/
theorem untouched_slotCmds {l m : RecordLog} (hne : m ≠ l) (chip : Chip)
    {i : ℕ} (hi : i < l.log.slots) {content : List UInt8}
    (hlen : content.length ≤ l.log.width) {k x : ℕ} (hx : m.ring.InSlot k x) :
    Untouched sectorSize (slotCmds l.log.start l.log.per l.log.width chip i
      content) x := by
  have hforeign : l.log.Foreign x :=
    ⟨m.log, fun h => hne (RecordLog.log_inj h), RecordLog.owns_of_inSlot hx⟩
  have hcycle : l.log ≠ .cycle := by cases l <;> exact nofun
  have hsafe : l.log.Safe chip i content := by
    cases l <;>
      simp only [RecordLog.log, Log.Safe, Log.page, Log.addr, Log.roomEnd,
        Log.start, Log.per, Log.width, Log.slots, slotAddr, maxSpdsPerMin,
        maxCommonNum, maxRecoderNum, averageSpdStartOffset, tiredDrvStartOffset,
        expSpdStartOffset, vehicleRecStartOffset] at hi hlen ⊢
    · exact ⟨fun _ => by omega, Or.inr (Or.inr (by omega))⟩
    · exact ⟨fun _ => by omega, Or.inr (Or.inr (by omega))⟩
    · exact ⟨fun _ => by omega, Or.inr (Or.inr (by omega))⟩
  rw [← saveCmds_eq_slotCmds hcycle]
  exact hsafe.untouched hforeign

section Step

variable {d : Device} {l m : RecordLog} {rs ss : List (List UInt8)}
  {content : List UInt8}

theorem Appended.index_lt (h : Appended d l rs) : l.index d < l.log.slots := by
  rw [h.index]
  exact Nat.mod_lt _ l.slots_pos

/-- A write appends its record to its log. -/
theorem Appended.write (h : Appended d l rs)
    (hlen : content.length ≤ l.log.width) :
    Appended (apiDFdirectoryWrite d l.name content).1 l (rs ++ [content]) := by
  obtain ⟨⟨chip, wr, rd, type, hchip⟩, hindex⟩ :=
    apiDFdirectoryWrite_cases h.index_lt h.nextFree hlen
  have hfree := h.nextFree
  rw [NextFree, h.index] at hfree
  constructor
  · rw [hindex, if_pos rfl, h.index, bump_slots, List.length_append,
      List.length_singleton]
  · have happend := h.holds.append l.ring (r := inSlot l.log.width content)
      (inSlot_length hlen)
    rw [List.length_map] at happend
    rw [hchip, Chip.issue_flash, Chip.issue_flash, h.index,
      execAll_slotCmds l d.chip rs.length hfree, List.map_append,
      List.map_singleton]
    refine happend.of_untouched l.ring ?_
    intro k x hx
    exact untouched_recordAddCmds chip wr rd
      ((RecordLog.owns_of_inSlot hx).not_pointerLog type)

/-- A write leaves the other logs alone. -/
theorem Appended.write_other (h : Appended d l rs) (hother : Appended d m ss)
    (hne : m ≠ l) (hlen : content.length ≤ l.log.width) :
    Appended (apiDFdirectoryWrite d l.name content).1 m ss := by
  obtain ⟨⟨chip, wr, rd, type, hchip⟩, hindex⟩ :=
    apiDFdirectoryWrite_cases h.index_lt h.nextFree hlen
  constructor
  · rw [hindex, if_neg hne]
    exact hother.index
  · rw [hchip, Chip.issue_flash, Chip.issue_flash]
    have hslot : RingLog.Holds m.ring (execAll m.ring.size d.chip.flash
        (slotCmds l.log.start l.log.per l.log.width d.chip (l.index d)
          content)) (ss.map (inSlot m.log.width)) :=
      hother.holds.of_untouched m.ring fun k x hx =>
        untouched_slotCmds hne d.chip h.index_lt hlen hx
    refine hslot.of_untouched m.ring ?_
    intro k x hx
    exact untouched_recordAddCmds chip wr rd
      ((RecordLog.owns_of_inSlot hx).not_pointerLog type)

end Step

/-! ## Histories -/

/-- The write indices of the three logs are 0. -/
def IndicesZero (d : Device) : Prop := ∀ l : RecordLog, l.index d = 0

theorem recordsOf_concat (l : RecordLog) (cs : List DirectoryCall)
    (c : DirectoryCall) :
    recordsOf l (cs ++ [c]) =
      if c.log = l then recordsOf l cs ++ [c.content] else recordsOf l cs := by
  rw [recordsOf, List.filter_append, List.map_append, ← recordsOf]
  split
  · rename_i h
    simp [h]
  · rename_i h
    simp [h]

/-- After any history every log holds its records. -/
theorem appended_run {d : Device} (hd : IndicesZero d)
    (cs : List DirectoryCall) (l : RecordLog) :
    Appended (cs.foldl directoryCall d) l (recordsOf l cs) := by
  induction cs using List.reverseRecOn generalizing l with
  | nil => exact ⟨(hd l).trans (Nat.zero_mod _).symm, RingLog.holds_nil _ _⟩
  | append_singleton cs c ih =>
      rw [List.foldl_append, recordsOf_concat]
      split
      · rename_i h
        subst h
        exact (ih c.log).write c.length_le
      · rename_i h
        exact (ih c.log).write_other (ih l) (Ne.symm h) c.length_le

/-! ## Reading from the newest on -/

/-- The bytes of a slot as the read functions get them. -/
theorem readSlot_eq (l : RecordLog) (chip : Chip) {i len : ℕ}
    (hi : i < l.log.slots) (hlen : len ≤ l.log.width) :
    readSlot l.log.start l.log.per l.log.width chip i len =
      readBytes chip.flash (l.log.addr i) len := by
  have hpage := (l.log.fits hi).page_lt
  have hin : i % l.log.per * l.log.width + len < 65536 := by
    have hmod := Nat.mod_lt i l.log.per_pos
    cases l <;>
      simp only [RecordLog.log, Log.per, Log.width] at hmod hlen ⊢ <;>
      omega
  rw [readSlot, u16, Nat.mod_eq_of_lt (by omega),
    dfReadFlash_eq chip (by omega) hin]
  rfl

/-- `Api_DFdirectory_Read` from the newest record on: it stops at slot 0. -/
theorem apiDFdirectoryRead_newest (d : Device) (l : RecordLog) (len k : ℕ)
    (hi : l.index d < l.log.slots) (hlen : len ≤ l.log.width) :
    (apiDFdirectoryRead d l.name len 0 k).2 =
      if k < l.index d then
        some (readBytes d.chip.flash (l.log.addr (l.index d - 1 - k)) len)
      else none := by
  have haddr : readAddr (l.index d) 0 k =
      if k < l.index d then some (l.index d - 1 - k) else none := by
    have hsmall : l.log.slots ≤ 2800 := by cases l <;> decide
    unfold readAddr
    rw [if_neg (by decide)]
    by_cases hk : k < l.index d
    · rw [if_neg (by omega), if_pos (by omega), if_pos hk, u16,
        Nat.mod_eq_of_lt (by omega)]
    · rw [if_neg hk]
      split
      · rfl
      · rw [if_neg (by omega)]
  by_cases hk : k < l.index d
  · have hslot : l.index d - 1 - k < l.log.slots := by omega
    have hread := readSlot_eq l d.chip hslot hlen
    rw [if_pos hk] at haddr ⊢
    rw [← hread]
    cases l <;>
      · simp only [RecordLog.index] at haddr
        simp only [RecordLog.name, apiDFdirectoryRead, haddr]
        rfl
  · rw [if_neg hk] at haddr ⊢
    cases l <;>
      · simp only [RecordLog.index] at haddr
        simp only [RecordLog.name, apiDFdirectoryRead, haddr]

/-- A record written since the index last wrapped has not been erased. -/
theorem live_of_lt_index (l : RecordLog) {n k : ℕ} (hk : k < n % l.log.slots) :
    RingLog.Live l.ring n (n - 1 - k) := by
  have hround : n % l.log.slots ≤ n := Nat.mod_le n l.log.slots
  refine ⟨by omega, (RingLog.opened_le l.ring n).trans ?_⟩
  cases l <;>
    simp only [RecordLog.ring, RecordLog.log, RecordLog.sectors, Log.per,
      Log.slots, maxSpdsPerMin, maxCommonNum, maxRecoderNum] at hk ⊢ <;>
    omega

/-- Counting down within the last round. -/
theorem sub_mod_of_lt {n N k : ℕ} (hpos : 0 < N) (hk : k < n % N) :
    (n - 1 - k) % N = n % N - 1 - k := by
  have hsplit := Nat.div_add_mod n N
  have heq : n - 1 - k = N * (n / N) + (n % N - 1 - k) := by omega
  have hlt := Nat.mod_lt n hpos
  rw [heq, Nat.mul_add_mod, Nat.mod_eq_of_lt (by omega)]

/-- A record written since the index last wrapped is read. -/
theorem Appended.read_newest {d : Device} {l : RecordLog}
    {rs : List (List UInt8)} {r : List UInt8} {k : ℕ} (h : Appended d l rs)
    (hget : rs[rs.length - 1 - k]? = some r) (hlen : r.length ≤ l.log.width)
    (hround : k < rs.length % l.log.slots) :
    (apiDFdirectoryRead d l.name r.length 0 k).2 = some r := by
  have hlive := h.holds.live _ _ (by rw [List.getElem?_map, hget]; rfl)
    (by rw [List.length_map]; exact live_of_lt_index l hround)
  have hslot := sub_mod_of_lt l.slots_pos hround
  rw [apiDFdirectoryRead_newest _ l r.length k h.index_lt hlen, h.index,
    if_pos hround, ← hslot, ← l.ring_addrOf, readBytes_of_inSlot hlen hlive]

/-- The `k`-th newest record of a log, counted from 0. -/
def newest (l : RecordLog) (cs : List DirectoryCall) (k : ℕ) :
    Option (List UInt8) :=
  (recordsOf l cs).reverse[k]?

/-- After any history, reading from the newest record on delivers the `k`-th
newest one exactly when it was written since the index last wrapped. -/
theorem readsNewest_iff (d : Device) (hd : IndicesZero d)
    (cs : List DirectoryCall) (l : RecordLog) (k : ℕ) (r : List UInt8)
    (hr : newest l cs k = some r) :
    (apiDFdirectoryRead (cs.foldl directoryCall d) l.name r.length 0 k).2 =
        some r ↔
      k < (recordsOf l cs).length % l.log.slots := by
  have happended := appended_run hd cs l
  have hk : k < (recordsOf l cs).length := by
    have hsome := List.getElem?_eq_some_iff.mp hr
    simpa using hsome.1
  have hget : (recordsOf l cs)[(recordsOf l cs).length - 1 - k]? = some r := by
    rw [newest, List.getElem?_reverse hk] at hr
    exact hr
  have hlen : r.length ≤ l.log.width := by
    have hmem : r ∈ recordsOf l cs := List.mem_of_getElem? hget
    obtain ⟨c, hc, rfl⟩ := List.mem_map.mp hmem
    obtain rfl : c.log = l := by simpa using (List.mem_filter.mp hc).2
    exact c.length_le
  by_cases hround : k < (recordsOf l cs).length % l.log.slots
  · exact iff_of_true (happended.read_newest hget hlen hround) hround
  · rw [apiDFdirectoryRead_newest _ l r.length k happended.index_lt hlen,
      happended.index, if_neg hround]
    exact iff_of_false nofun hround

/-- Three warnings with a minute of the speed in between. -/
def warnings : List DirectoryCall :=
  [⟨.tiredWarn, [1, 2], by decide⟩, ⟨.spdpermin, [60], by decide⟩,
    ⟨.tiredWarn, [3], by decide⟩, ⟨.tiredWarn, [4, 5, 6], by decide⟩]

/-- The oldest warning, third from the newest. -/
theorem readsNewest_iff_oldest :
    (apiDFdirectoryRead (warnings.foldl directoryCall Device.initial)
      .tiredWarn 2 0 2).2 = some [1, 2] :=
  (readsNewest_iff Device.initial (fun l => by cases l <;> rfl) warnings
    .tiredWarn 2 [1, 2] rfl).mpr (by decide)

/-- The warning of a single byte. -/
def shortWarning : DirectoryCall := ⟨.tiredWarn, [1], by decide⟩

/-- After 128 warnings the index is 0 again: all are still in the flash, and
none is read. -/
theorem not_readsNewest_full :
    newest .tiredWarn (List.replicate 128 shortWarning) 0 = some [1] ∧
      readBytes ((List.replicate 128 shortWarning).foldl directoryCall
        Device.initial).chip.flash (Log.tired.addr 127) 1 = [1] ∧
      (apiDFdirectoryRead ((List.replicate 128 shortWarning).foldl directoryCall
        Device.initial) .tiredWarn 1 0 0).2 = none := by
  have hrecords : recordsOf .tiredWarn (List.replicate 128 shortWarning) =
      List.replicate 128 [1] := by decide
  have happended := appended_run (d := Device.initial)
    (fun l => by cases l <;> rfl) (List.replicate 128 shortWarning) .tiredWarn
  rw [hrecords] at happended
  refine ⟨by decide, ?_, ?_⟩
  · have hlive := happended.holds.live 127 (inSlot 32 [1]) (by decide) (by
      rw [List.length_map, List.length_replicate]
      exact ⟨by omega, Nat.le_refl 1⟩)
    exact readBytes_of_inSlot (by decide) hlive
  · have hread := apiDFdirectoryRead_newest _ .tiredWarn 1 0
      happended.index_lt (by decide)
    refine hread.trans ?_
    rw [happended.index, List.length_replicate]
    exact if_neg (by decide)

end VehicleRecorder.Dataflash
