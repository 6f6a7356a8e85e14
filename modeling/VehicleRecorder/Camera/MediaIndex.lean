import VehicleRecorder.Camera.PicStore
import VehicleRecorder.Lib.Runs

/-!
# The media index

`Save_MediaIndex` keeps eight records of pictures and eight of sounds.  It
looks for the first record that is not in use, and begins again with record 0
when there is none.  For a sound the search reads record 1 in every turn; this
record is never written, and every sound goes to record 0.
-/

namespace VehicleRecorder.Camera

open NorFlash Bytes Dataflash Runs

/-! ## The functions -/

/-- The types that have an index: picture and sound. -/
inductive IndexedType
  | picture
  | sound
  deriving DecidableEq, Repr

/-- `type`. -/
def IndexedType.code : IndexedType → UInt8
  | picture => 0
  | sound => 1

/-- The class of the records of a type. -/
def IndexedType.record : IndexedType → RecordName
  | picture => .picIndex
  | sound => .voiceIndex

/-- The record that the search reads in turn `i`. -/
def searchRead (d : Device) (type : UInt8) (i : ℕ) : List UInt8 :=
  if type = 0 then apiRecordNumRead d .picIndex i 52
  else apiRecordNumRead d .voiceIndex 1 52

/-- The index after the search. -/
def freeIndex (d : Device) (type : UInt8) : ℕ :=
  ((List.range 8).find? fun i => (searchRead d type i).headD 0 = 0).getD 0

/-- `Save_MediaIndex`. -/
def saveMediaIndexOf (d : Device) (stamp : Stamp) (type : UInt8)
    (name : List UInt8) (id evencode : ℕ) : Device × Bool :=
  if type ≠ 1 ∧ type ≠ 0 then (d, false)
  else
    let index := mediaIndexBytes stamp name type.toNat id evencode
    let i := freeIndex d type
    if type = 0 then (apiRecordNumWrite d .picIndex i index, true)
    else (apiRecordNumWrite d .voiceIndex i index, true)

/-- For a picture it is the function that the picture store calls. -/
theorem saveMediaIndexOf_picture (d : Device) (stamp : Stamp)
    (name : List UInt8) (id evencode : ℕ) :
    saveMediaIndexOf d stamp 0 name id evencode =
      (saveMediaIndex d stamp name id evencode, true) := rfl

/-- `MediaIndex` as `MediaIndex_Init` fills it. -/
def initialIndexBytes (type id : ℕ) (name : String) : List UInt8 :=
  [0, 0, 0, 0] ++ leBytes 4 0 ++ [UInt8.ofNat type, UInt8.ofNat id, 0] ++
    padded 12 (name.toList.map fun c => UInt8.ofNat c.toNat) ++
    padded 28 [] ++ [0]

/-- A turn of the loop of `MediaIndex_Init`. -/
def mediaIndexInitTurn (d : Device) (i : ℕ) : Device :=
  let pic := initialIndexBytes 0 (i + 1) "pic.jpg"
  let sound := initialIndexBytes 1 (i + 1) "sound.wav"
  if i = 0 then
    (d.issue (dfWriteFlashSector dfPicIndexPage 0 pic)).issue
      (dfWriteFlashSector dfSoundIndexPage 0 sound)
  else
    (d.issue (dfWriteFlashDirect (dfPicIndexPage + i) 0 pic)).issue
      (dfWriteFlashDirect (dfSoundIndexPage + i) 0 sound)

/-- `MediaIndex_Init`. -/
def mediaIndexInit (d : Device) : Device :=
  (List.range 8).foldl mediaIndexInitTurn d

/-! ## Calls -/

/-- A call of `Save_MediaIndex` for a picture or a sound. -/
structure MediaCall where
  type : IndexedType
  name : List UInt8 := []
  id : ℕ := 0
  evencode : ℕ := 0
  stamp : Stamp := {}
  deriving DecidableEq, Repr

/-- A call carried out. -/
def saveCall (d : Device) (c : MediaCall) : Device :=
  (saveMediaIndexOf d c.stamp c.type.code c.name c.id c.evencode).1

/-- `Effective_Flag` of a record. -/
def effectiveFlag (d : Device) (t : IndexedType) (i : ℕ) : UInt8 :=
  (apiRecordNumRead d t.record i 52).headD 0

/-- The record of the next call of a type. -/
def slotOf (d : Device) (t : IndexedType) : ℕ := freeIndex d t.code

/-- The records that the calls of a type go to, in order. -/
def occupied : Device → List MediaCall → IndexedType → List ℕ
  | _, [], _ => []
  | d, c :: cs, t =>
      if c.type = t then slotOf d t :: occupied (saveCall d c) cs t
      else occupied (saveCall d c) cs t

/-- A call overwrites an effective record only if all eight are effective. -/
def SparesEffective (d : Device) (c : MediaCall) : Prop :=
  effectiveFlag d c.type (slotOf d c.type) = 1 →
    ∀ j < 8, effectiveFlag d c.type j = 1

instance (d : Device) (c : MediaCall) : Decidable (SparesEffective d c) :=
  inferInstanceAs (Decidable (_ → _))

/-! ## What a call does to the flags -/

theorem record_page_lt {t : IndexedType} {i : ℕ} (hi : i < 8) :
    t.record.writePage + i < 8192 := by
  cases t <;>
    simp only [IndexedType.record, RecordName.writePage, dfPicIndexPage,
      dfSoundIndexPage] <;>
    omega

theorem record_page_inj {t u : IndexedType} {i j : ℕ} (hi : i < 8) (hj : j < 8)
    (h : t.record.writePage + i = u.record.writePage + j) : t = u ∧ i = j := by
  cases t <;> cases u <;>
    simp only [IndexedType.record, RecordName.writePage, dfPicIndexPage,
      dfSoundIndexPage, reduceCtorEq, true_and, false_and] at h ⊢ <;>
    omega

theorem mediaIndexBytes_length (stamp : Stamp) (name : List UInt8)
    (type id evencode : ℕ) :
    (mediaIndexBytes stamp name type id evencode).length = 52 := by
  simp [mediaIndexBytes, padded]

theorem freeIndex_lt (d : Device) (type : UInt8) : freeIndex d type < 8 := by
  unfold freeIndex
  cases hfind : (List.range 8).find? fun i =>
      decide ((searchRead d type i).headD 0 = 0) with
  | none => exact (by decide : 0 < 8)
  | some i => exact List.mem_range.mp (List.mem_of_find?_eq_some hfind)

theorem saveCall_eq (d : Device) (c : MediaCall) :
    saveCall d c = apiRecordNumWrite d c.type.record (slotOf d c.type)
      (mediaIndexBytes c.stamp c.name c.type.code.toNat c.id c.evencode) := by
  unfold saveCall slotOf
  cases c.type <;> rfl

/-- A call sets the flag of its record and no other. -/
theorem effectiveFlag_saveCall (d : Device) (c : MediaCall) (t : IndexedType)
    {i : ℕ} (hi : i < 8) :
    effectiveFlag (saveCall d c) t i =
      if t = c.type ∧ i = slotOf d c.type then 1 else effectiveFlag d t i := by
  have hslot : slotOf d c.type < 8 := freeIndex_lt d c.type.code
  have hlen := mediaIndexBytes_length c.stamp c.name c.type.code.toNat c.id
    c.evencode
  have hshort : (mediaIndexBytes c.stamp c.name c.type.code.toNat c.id
      c.evencode).length ≤ dfBakSize := hlen.trans_le (by decide)
  rw [effectiveFlag, saveCall_eq]
  split
  · rename_i hsame
    obtain ⟨rfl, rfl⟩ := hsame
    have hread := apiRecordNumRead_write d (record_page_lt (t := c.type) hslot)
      hshort
    rw [hlen] at hread
    rw [hread]
    rfl
  · rename_i hother
    rw [apiRecordNumRead_write_of_ne d (record_page_lt hslot) hshort
      (record_page_lt hi) (by decide)
      fun hpage => hother (record_page_inj hi hslot hpage)]
    rfl

/-! ## The flags after the initialisation -/

theorem effectiveFlag_eq (d : Device) (t : IndexedType) {i : ℕ} (hi : i < 8) :
    effectiveFlag d t i = d.chip.flash ((t.record.writePage + i) * 512) := by
  rw [effectiveFlag, apiRecordNumRead, RecordName.readPage_eq,
    dfReadFlash_eq d.chip (record_page_lt hi) (by decide),
    List.headD_eq_head?_getD, List.head?_eq_getElem?, getElem?_readBytes,
    if_pos (by decide), Option.getD_some, Nat.add_zero]

/-- A byte at 0 stays so when it is programmed. -/
theorem execAll_programBytes_of_zero {f : Flash} {x : ℕ} (h : f x = 0)
    (addr : ℕ) (bs : List UInt8) :
    execAll sectorSize f (programBytes addr bs) x = 0 := by
  rw [execAll_programBytes_apply, h, UInt8.zero_and]

/-- A byte programmed with 0 is 0, whatever it was. -/
theorem execAll_programBytes_zero (f : Flash) (addr : ℕ) (bs : List UInt8) :
    execAll sectorSize f (programBytes addr (0 :: bs)) addr = 0 := by
  rw [execAll_programBytes_apply, operand, if_pos le_rfl, Nat.sub_self]
  exact UInt8.and_zero

theorem initialIndexBytes_eq (type id : ℕ) (name : String) :
    ∃ bs, initialIndexBytes type id name = 0 :: bs ∧
      (initialIndexBytes type id name).length = 52 :=
  ⟨_, rfl, by simp [initialIndexBytes, padded]⟩

theorem dfWriteFlashSector_eq {page : ℕ} {p : List UInt8}
    (hpage : page < 8192) (hlen : p.length < 65536) :
    dfWriteFlashSector page 0 p =
      .erase (8 * (page / 8) * 512) :: programBytes (page * 512) p := by
  have hp : u16 page = page := by
    simp only [u16]
    omega
  have herase : sst25vSectorErase4KByte (8 * (page / 8) * 512) =
      .erase (8 * (page / 8) * 512) :=
    sst25vSectorErase4KByte_eq (by omega)
  rw [← mapIdx_byteWrite p (page * 512) (by omega), dfWriteFlashSector, hp,
    herase]
  simp [u16]

/-- The records below `n` have the flag 0. -/
def FlagsZero (n : ℕ) (d : Device) : Prop :=
  ∀ t : IndexedType, ∀ i < n, d.chip.flash ((t.record.writePage + i) * 512) = 0

theorem flagsZero_first (d : Device) :
    FlagsZero 1 (mediaIndexInitTurn d 0) := by
  obtain ⟨pic, hpic, hpiclen⟩ := initialIndexBytes_eq 0 (0 + 1) "pic.jpg"
  obtain ⟨sound, hsound, hsoundlen⟩ :=
    initialIndexBytes_eq 1 (0 + 1) "sound.wav"
  intro t i hi
  obtain rfl : i = 0 := Nat.lt_one_iff.mp hi
  rw [mediaIndexInitTurn, if_pos rfl, Device.issue_chip, Device.issue_chip,
    dfWriteFlashSector_eq (by decide) (by rw [hpiclen]; decide),
    dfWriteFlashSector_eq (by decide) (by rw [hsoundlen]; decide),
    Chip.issue_flash, Chip.issue_flash, execAll_cons, execAll_cons, hpic,
    hsound]
  cases t with
  | picture =>
      apply execAll_programBytes_of_zero
      rw [exec_of_not_touches sectorSize (by decide)]
      exact execAll_programBytes_zero _ _ _
  | sound => exact execAll_programBytes_zero _ _ _

theorem flagsZero_turn {d : Device} {n : ℕ} (hpos : 0 < n) (hn : n < 8)
    (h : FlagsZero n d) : FlagsZero (n + 1) (mediaIndexInitTurn d n) := by
  obtain ⟨pic, hpic, hpiclen⟩ := initialIndexBytes_eq 0 (n + 1) "pic.jpg"
  obtain ⟨sound, hsound, hsoundlen⟩ :=
    initialIndexBytes_eq 1 (n + 1) "sound.wav"
  have hpicpage : dfPicIndexPage + n < 8192 := by
    simp only [dfPicIndexPage]
    omega
  have hsoundpage : dfSoundIndexPage + n < 8192 := by
    simp only [dfSoundIndexPage]
    omega
  rw [mediaIndexInitTurn, if_neg (Nat.ne_of_gt hpos)]
  intro t i hi
  rw [Device.issue_chip, Device.issue_chip,
    dfWriteFlashDirect_eq hpicpage (by rw [hpiclen]; decide),
    dfWriteFlashDirect_eq hsoundpage (by rw [hsoundlen]; decide),
    Chip.issue_flash, Chip.issue_flash, hpic, hsound, Nat.add_zero,
    Nat.add_zero]
  rcases Nat.lt_succ_iff_lt_or_eq.mp hi with hlt | rfl
  · exact execAll_programBytes_of_zero
      (execAll_programBytes_of_zero (h t i hlt) _ _) _ _
  · cases t with
    | picture =>
        exact execAll_programBytes_of_zero
          (execAll_programBytes_zero _ _ _) _ _
    | sound => exact execAll_programBytes_zero _ _ _

theorem flagsZero_init (d : Device) : FlagsZero 8 (mediaIndexInit d) := by
  have hturns : ∀ n, n < 8 →
      FlagsZero (n + 1) ((List.range (n + 1)).foldl mediaIndexInitTurn d) := by
    intro n hn
    induction n with
    | zero => exact flagsZero_first d
    | succ n ih =>
        rw [List.range_succ, List.foldl_append]
        exact flagsZero_turn (Nat.succ_pos n) hn (ih (by omega))
  exact hturns 7 (by decide)

/-! ## The search -/

/-- The pictures fill the records from 0 on, and the sounds only record 0. -/
structure Filled (p : ℕ) (s : Bool) (d : Device) : Prop where
  pictures : p ≤ 8
  picture : ∀ i < 8, effectiveFlag d .picture i = if i < p then 1 else 0
  sound : ∀ i < 8, effectiveFlag d .sound i = if i = 0 ∧ s then 1 else 0

theorem filled_init (d : Device) : Filled 0 false (mediaIndexInit d) where
  pictures := Nat.zero_le 8
  picture := fun i hi => by
    rw [effectiveFlag_eq _ _ hi, flagsZero_init d .picture i hi]
    rfl
  sound := fun i hi => by
    rw [effectiveFlag_eq _ _ hi, flagsZero_init d .sound i hi,
      if_neg fun h => Bool.false_ne_true h.2]

theorem find?_const (b : Bool) :
    ((List.range 8).find? fun _ => b).getD 0 = 0 := by
  cases b <;> rfl

/-- Every sound goes to record 0. -/
theorem slotOf_sound (d : Device) : slotOf d .sound = 0 :=
  find?_const (decide ((apiRecordNumRead d .voiceIndex 1 52).headD 0 = 0))

section Filled

variable {p : ℕ} {s : Bool} {d : Device} {c : MediaCall}

/-- A picture goes to the first free record, or to record 0. -/
theorem Filled.slotOf_picture (h : Filled p s d) :
    slotOf d .picture = if p < 8 then p else 0 := by
  have hsearch (i : ℕ) : (searchRead d 0 i).headD 0 =
      effectiveFlag d .picture i := rfl
  change ((List.range 8).find? fun i =>
    decide ((searchRead d 0 i).headD 0 = 0)).getD 0 = _
  split
  · rename_i hp
    rw [List.find?_range_eq_some.mpr ⟨?_, List.mem_range.mpr hp, ?_⟩]
    · rfl
    · rw [hsearch, h.picture p hp, if_neg (lt_irrefl p)]
      rfl
    · intro j hj
      rw [hsearch, h.picture j (hj.trans hp), if_pos hj]
      rfl
  · rename_i hp
    rw [List.find?_eq_none.mpr ?_]
    · rfl
    · intro i hi
      have hi : i < 8 := List.mem_range.mp hi
      rw [hsearch, h.picture i hi, if_pos (by omega)]
      decide

theorem Filled.picture_call (h : Filled p s d) (hc : c.type = .picture) :
    Filled (min 8 (p + 1)) s (saveCall d c) := by
  have hp := h.pictures
  refine ⟨Nat.min_le_left _ _, fun i hi => ?_, fun i hi => ?_⟩
  · rw [effectiveFlag_saveCall d c _ hi, hc, h.slotOf_picture, h.picture i hi]
    by_cases hfull : p < 8
    · rw [if_pos hfull]
      grind
    · rw [if_neg hfull]
      grind
  · rw [effectiveFlag_saveCall d c _ hi, hc, if_neg fun hsame =>
      IndexedType.noConfusion hsame.1]
    exact h.sound i hi

theorem Filled.sound_call (h : Filled p s d) (hc : c.type = .sound) :
    Filled p true (saveCall d c) := by
  refine ⟨h.pictures, fun i hi => ?_, fun i hi => ?_⟩
  · rw [effectiveFlag_saveCall d c _ hi, hc, if_neg fun hsame =>
      IndexedType.noConfusion hsame.1]
    exact h.picture i hi
  · rw [effectiveFlag_saveCall d c _ hi, hc, slotOf_sound, h.sound i hi]
    by_cases hzero : i = 0
    · rw [if_pos ⟨rfl, hzero⟩, if_pos ⟨hzero, rfl⟩]
    · rw [if_neg fun hsame => hzero hsame.2, if_neg fun hsame => hzero hsame.1,
        if_neg fun hsame => hzero hsame.1]

theorem Filled.spares_picture (h : Filled p s d) (hc : c.type = .picture) :
    SparesEffective d c := by
  rw [SparesEffective, hc, h.slotOf_picture]
  intro heffective j hj
  by_cases hp : p < 8
  · rw [if_pos hp, h.picture p hp, if_neg (lt_irrefl p)] at heffective
    exact absurd heffective (by decide)
  · rw [h.picture j hj, if_pos (by omega)]

theorem Filled.spares_sound_iff (h : Filled p s d) (hc : c.type = .sound) :
    SparesEffective d c ↔ s = false := by
  rw [SparesEffective, hc, slotOf_sound, h.sound 0 (by decide)]
  cases s with
  | false => exact iff_of_true (fun h => absurd h (by decide)) rfl
  | true =>
      refine iff_of_false (fun hall => ?_) Bool.noConfusion
      have hone := hall rfl 1 (by decide)
      rw [h.sound 1 (by decide)] at hone
      exact absurd hone (by decide)

end Filled

/-! ## Runs of calls -/

/-- The number of sounds among the calls. -/
def soundCount (cs : List MediaCall) : ℕ := cs.countP (·.type = .sound)

theorem Filled.throughout_iff {p : ℕ} {s : Bool} {d : Device}
    (h : Filled p s d) (cs : List MediaCall) :
    Throughout saveCall SparesEffective d cs ↔ soundCount cs + s.toNat ≤ 1 := by
  induction cs generalizing p s d with
  | nil =>
      refine iff_of_true ?_ (by cases s <;> decide)
      intro cs₁ c hpre
      exact absurd (List.prefix_nil.mp hpre) (by simp)
  | cons c cs ih =>
      rw [throughout_cons]
      cases hc : c.type with
      | picture =>
          have hcount : soundCount (c :: cs) = soundCount cs := by
            simp [soundCount, hc]
          rw [and_iff_right (h.spares_picture hc), ih (h.picture_call hc),
            hcount]
      | sound =>
          have hcount : soundCount (c :: cs) = soundCount cs + 1 := by
            simp [soundCount, hc]
          rw [h.spares_sound_iff hc, ih (h.sound_call hc), hcount]
          cases s with
          | false => simp
          | true => simp

theorem occupied_length (d : Device) (cs : List MediaCall) (t : IndexedType) :
    (occupied d cs t).length = cs.countP (·.type = t) := by
  induction cs generalizing d with
  | nil => rfl
  | cons c cs ih =>
      rw [occupied]
      by_cases hc : c.type = t
      · rw [if_pos hc, List.length_cons, ih]
        simp [hc]
      · rw [if_neg hc, ih]
        simp [hc]

/-- The pictures occupy the free records one after the other. -/
theorem Filled.occupied_picture {p : ℕ} {s : Bool} {d : Device}
    (h : Filled p s d) (cs : List MediaCall) {k : ℕ} (hk : p + k = 8) :
    (occupied d cs .picture).take k <+: List.range' p k := by
  induction cs generalizing p s d k with
  | nil =>
      rw [occupied, List.take_nil]
      exact List.nil_prefix
  | cons c cs ih =>
      rw [occupied]
      cases hc : c.type with
      | sound =>
          rw [if_neg IndexedType.noConfusion]
          exact ih (h.sound_call hc) hk
      | picture =>
          rw [if_pos rfl]
          cases k with
          | zero => exact List.prefix_rfl
          | succ k =>
              have hp : p < 8 := by omega
              have hnext := h.picture_call hc
              rw [Nat.min_eq_right hp] at hnext
              rw [h.slotOf_picture, if_pos hp, List.take_succ_cons,
                List.range'_succ, List.cons_prefix_cons]
              exact ⟨rfl, ih hnext (by omega)⟩

/-- What is asked of the index: an effective record is overwritten only if all
are, and the first eight calls of a type go to different records. -/
structure SlotsRespected (d : Device) (cs : List MediaCall) : Prop where
  spared : Throughout saveCall SparesEffective d cs
  distinct : ∀ t, ((occupied d cs t).take 8).Nodup

/-- The slots are respected exactly when there is at most one sound. -/
theorem slotsRespected_iff (d : Device) (cs : List MediaCall) :
    SlotsRespected (mediaIndexInit d) cs ↔ soundCount cs ≤ 1 := by
  have hfilled := filled_init d
  have hspared := hfilled.throughout_iff cs
  refine ⟨fun h => hspared.mp h.spared, fun hcount => ?_⟩
  refine ⟨hspared.mpr hcount, ?_⟩
  intro t
  cases t with
  | picture =>
      exact (hfilled.occupied_picture cs (Nat.zero_add 8)).sublist.nodup
        List.nodup_range'
  | sound =>
      have hlen : (occupied (mediaIndexInit d) cs .sound).length ≤ 1 := by
        rw [occupied_length]
        exact hcount
      refine List.Nodup.sublist (List.take_sublist _ _) ?_
      match occupied (mediaIndexInit d) cs .sound, hlen with
      | [], _ => exact List.nodup_nil
      | [i], _ => exact List.nodup_cons.mpr ⟨List.not_mem_nil, List.nodup_nil⟩

/-- Two sounds on a fresh index. -/
theorem twoSounds_not_respected :
    ¬ SlotsRespected (mediaIndexInit .initial)
      [{ type := .sound, id := 1 }, { type := .sound, id := 2 }] :=
  fun h => absurd ((filled_init .initial).throughout_iff _ |>.mp h.spared)
    (by decide)

end VehicleRecorder.Camera
