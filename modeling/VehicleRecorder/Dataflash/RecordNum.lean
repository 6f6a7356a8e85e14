import VehicleRecorder.Dataflash.Device

/-!
# Numbered records

`Api_RecordNum_Write` and `Api_RecordNum_Read` of `Device_808.c` keep records
of twelve classes under small numbers, a page each, and map the class to its
base page by separate chains of string comparisons.

The module shows that a history of writes is a history of writes into a table
of pages, and from that when a record survives the writes that follow it: the
circular rails share the pages of the events, and only such a twin can change
a record.
-/

namespace VehicleRecorder.Dataflash

open NorFlash

/-- The record classes, `event_808` to `voice_index`. -/
inductive RecordName
  | event808
  | msgBroadcast
  | phonebook
  | railCycle
  | railRect
  | railPolygen
  | turnPoint
  | routeLine
  | askQuesstion
  | textMsg
  | picIndex
  | voiceIndex
  deriving DecidableEq, Repr

/-! ## Base pages -/

/-- `DF_Event_Page`. -/
abbrev dfEventPage : ℕ := 1424

/-- `DF_Msg_Page`. -/
abbrev dfMsgPage : ℕ := 1432

/-- `DF_PhoneBook_Page`. -/
abbrev dfPhoneBookPage : ℕ := 1440

/-- `DF_PolygenRail_Page`. -/
abbrev dfPolygenRailPage : ℕ := 1464

/-- `DF_PicIndex_Page`. -/
abbrev dfPicIndexPage : ℕ := 1480

/-- `DF_SoundIndex_Page`. -/
abbrev dfSoundIndexPage : ℕ := 1488

/-- `DF_RectangleRail_Page`. -/
abbrev dfRectangleRailPage : ℕ := 6000

/-- `DF_Broadcast_offset`. -/
abbrev dfBroadcastOffset : ℕ := 7300

/-- `DF_Route_Page`. -/
abbrev dfRoutePage : ℕ := 7400

/-- `DF_turnPoint_Page`. -/
abbrev dfTurnPointPage : ℕ := 7500

/-- `DF_AskQuestion_Page`. -/
abbrev dfAskQuestionPage : ℕ := 7600

/-- The base page in `Api_RecordNum_Write`.  The circular rails are written to
the event pages; `DF_CircleRail_Page` is defined and never used. -/
def RecordName.writePage : RecordName → ℕ
  | .event808 => dfEventPage
  | .msgBroadcast => dfBroadcastOffset
  | .phonebook => dfPhoneBookPage
  | .railCycle => dfEventPage
  | .railRect => dfRectangleRailPage
  | .railPolygen => dfPolygenRailPage
  | .turnPoint => dfTurnPointPage
  | .routeLine => dfRoutePage
  | .askQuesstion => dfAskQuestionPage
  | .textMsg => dfMsgPage
  | .picIndex => dfPicIndexPage
  | .voiceIndex => dfSoundIndexPage

/-- The base page in `Api_RecordNum_Read`. -/
def RecordName.readPage : RecordName → ℕ
  | .event808 => dfEventPage
  | .msgBroadcast => dfBroadcastOffset
  | .phonebook => dfPhoneBookPage
  | .railCycle => dfEventPage
  | .railRect => dfRectangleRailPage
  | .railPolygen => dfPolygenRailPage
  | .turnPoint => dfTurnPointPage
  | .routeLine => dfRoutePage
  | .askQuesstion => dfAskQuestionPage
  | .textMsg => dfMsgPage
  | .picIndex => dfPicIndexPage
  | .voiceIndex => dfSoundIndexPage

/-- `Api_RecordNum_Write`; it returns `true` for every class. -/
def apiRecordNumWrite (d : Device) (name : RecordName) (recNum : ℕ)
    (buffer : List UInt8) : Device :=
  d.issue (dfWriteFlash d.chip (name.writePage + recNum) 0 buffer)

/-- `Api_RecordNum_Read`: the bytes stored into the buffer. -/
def apiRecordNumRead (d : Device) (name : RecordName) (recNum len : ℕ) :
    List UInt8 :=
  dfReadFlash d.chip (name.readPage + recNum) 0 len

/-! ## Histories -/

/-- One call of `Api_RecordNum_Write`. -/
structure NumberedWrite where
  name : RecordName
  recNum : ℕ
  buffer : List UInt8
  deriving DecidableEq, Repr

namespace NumberedWrite

/-- The page the call writes. -/
def page (w : NumberedWrite) : ℕ := w.name.writePage + w.recNum

/-- The class and number of the call. -/
def key (w : NumberedWrite) : RecordName × ℕ := (w.name, w.recNum)

/-- The call as a write into the table of pages. -/
def slotWrite (w : NumberedWrite) : ℕ × List UInt8 := (w.page, w.buffer)

/-- The record numbers the program uses. -/
def InUse : RecordName → ℕ → Prop
  | .picIndex, n => n < 8
  | .voiceIndex, n => n < 8
  | _, n => 1 ≤ n ∧ n ≤ 8

/-- A record number the program uses, and a length `DF_WriteFlash` keeps. -/
structure Admissible (w : NumberedWrite) : Prop where
  recNum : InUse w.name w.recNum
  length : w.buffer.length ≤ 150

end NumberedWrite

/-- Perform a sequence of calls. -/
def writeNumbered (d : Device) (ws : List NumberedWrite) : Device :=
  ws.foldl (fun d w => apiRecordNumWrite d w.name w.recNum w.buffer) d

theorem writeNumbered_concat (d : Device) (ws : List NumberedWrite)
    (w : NumberedWrite) :
    writeNumbered d (ws ++ [w]) =
      apiRecordNumWrite (writeNumbered d ws) w.name w.recNum w.buffer := by
  simp [writeNumbered]

theorem RecordName.readPage_eq (name : RecordName) :
    name.readPage = name.writePage := by
  cases name <;> rfl

theorem RecordName.writePage_lt (name : RecordName) :
    name.writePage ≤ 7600 := by
  cases name <;> decide

theorem recNum_le {name : RecordName} {n : ℕ}
    (h : NumberedWrite.InUse name n) : n ≤ 8 := by
  cases name <;> simp only [NumberedWrite.InUse] at h <;> omega

theorem NumberedWrite.Admissible.page_lt {w : NumberedWrite}
    (h : w.Admissible) : w.page < 8192 := by
  have hpage := w.name.writePage_lt
  have hnum := recNum_le h.recNum
  rw [NumberedWrite.page]
  omega

/-- A history of calls is a history of writes into the table of pages. -/
theorem pageTable_writeNumbered (d : Device) {ws : List NumberedWrite}
    (h : ∀ w ∈ ws, w.Admissible) (page : ℕ) {i : ℕ} (hi : i < dfBakSize) :
    pageTable (writeNumbered d ws).chip page i =
      SlotTable.writeAll (pageTable d.chip)
        (ws.map NumberedWrite.slotWrite) page i := by
  induction ws using List.reverseRecOn with
  | nil => rfl
  | append_singleton ws w ih =>
      rw [List.forall_mem_append, List.forall_mem_singleton] at h
      obtain ⟨hws, hw⟩ := h
      have hpage : w.name.writePage + w.recNum < 8192 := hw.page_lt
      rw [writeNumbered_concat, apiRecordNumWrite, Device.issue_chip,
        pageTable_dfWriteFlash _ hpage hw.length hi, List.map_append,
        List.map_singleton, SlotTable.writeAll_concat]
      simp only [SlotTable.write, ih hws]
      rfl

/-! ## Reading behind one write -/

section ReadWrite

variable (d : Device) {name : RecordName} {n : ℕ} {buffer : List UInt8}

theorem pageTable_apiRecordNumWrite (hpage : name.writePage + n < 8192)
    (hlen : buffer.length ≤ dfBakSize) {page i : ℕ} (hi : i < dfBakSize) :
    pageTable (apiRecordNumWrite d name n buffer).chip page i =
      SlotTable.write (pageTable d.chip) (name.writePage + n, buffer) page i :=
  pageTable_dfWriteFlash d.chip hpage hlen hi

theorem apiRecordNumRead_eq (hpage : name.writePage + n < 8192) {len : ℕ}
    (hlen : len ≤ dfBakSize) :
    apiRecordNumRead d name n len =
      SlotTable.read (pageTable d.chip) (name.writePage + n) len := by
  rw [apiRecordNumRead, RecordName.readPage_eq,
    dfReadFlash_pageTable _ hpage hlen]

/-- A record just written is read back. -/
theorem apiRecordNumRead_write (hpage : name.writePage + n < 8192)
    (hlen : buffer.length ≤ dfBakSize) :
    apiRecordNumRead (apiRecordNumWrite d name n buffer) name n
      buffer.length = buffer := by
  have hread := SlotTable.read_write (pageTable d.chip) (name.writePage + n)
    buffer
  rw [apiRecordNumRead_eq _ hpage hlen]
  refine Eq.trans ?_ hread
  apply List.map_congr_left
  intro i hi
  have hi : i < dfBakSize := Nat.lt_of_lt_of_le (List.mem_range.mp hi) hlen
  exact pageTable_apiRecordNumWrite d hpage hlen hi

/-- A record of another page is read as before. -/
theorem apiRecordNumRead_write_of_ne (hpage : name.writePage + n < 8192)
    (hlen : buffer.length ≤ dfBakSize) {name' : RecordName} {n' len : ℕ}
    (hpage' : name'.writePage + n' < 8192) (hlen' : len ≤ dfBakSize)
    (hne : name'.writePage + n' ≠ name.writePage + n) :
    apiRecordNumRead (apiRecordNumWrite d name n buffer) name' n' len =
      apiRecordNumRead d name' n' len := by
  rw [apiRecordNumRead_eq _ hpage' hlen', apiRecordNumRead_eq _ hpage' hlen']
  apply List.map_congr_left
  intro i hi
  have hi : i < dfBakSize := Nat.lt_of_lt_of_le (List.mem_range.mp hi) hlen'
  rw [pageTable_apiRecordNumWrite d hpage hlen hi]
  exact if_neg hne

end ReadWrite

/-! ## Shared pages -/

/-- The class that shares its pages with another one. -/
def RecordName.twin : RecordName → Option RecordName
  | .event808 => some .railCycle
  | .railCycle => some .event808
  | _ => none

/-- Two records in use have one page exactly if they are the same record, or
twins of one number. -/
theorem page_eq_iff {a b : RecordName} {m n : ℕ}
    (hm : NumberedWrite.InUse a m) (hn : NumberedWrite.InUse b n) :
    a.writePage + m = b.writePage + n ↔
      (a, m) = (b, n) ∨ (a.twin = some b ∧ m = n) := by
  cases a <;> cases b <;>
    simp only [RecordName.writePage, NumberedWrite.InUse, RecordName.twin,
      Prod.mk.injEq, reduceCtorEq, true_and, false_and, or_false, false_or,
      Option.some.injEq, iff_false, dfEventPage, dfMsgPage, dfPhoneBookPage,
      dfPolygenRailPage, dfPicIndexPage, dfSoundIndexPage, dfRectangleRailPage,
      dfBroadcastOffset, dfRoutePage, dfTurnPointPage,
      dfAskQuestionPage] at hm hn ⊢ <;>
    omega

/-- The call writes to the twin of a record. -/
def NumberedWrite.IsTwinOf (v w : NumberedWrite) : Prop :=
  w.name.twin = some v.name ∧ v.recNum = w.recNum

instance (v w : NumberedWrite) : Decidable (v.IsTwinOf w) :=
  inferInstanceAs (Decidable (_ ∧ _))

/-- The buffers written to the twin of a record. -/
def twinBuffers (w : NumberedWrite) (ws : List NumberedWrite) :
    List (List UInt8) :=
  (ws.filter (·.IsTwinOf w)).map NumberedWrite.buffer

/-- Byte `i` of the last of the buffers longer than `i`. -/
def lastByte (buffers : List (List UInt8)) (i : ℕ) : Option UInt8 :=
  (buffers.filterMap (·[i]?)).getLast?

/-- Every byte that later writes to the twin put over the record is the one it
held. -/
def Unharmed (w : NumberedWrite) (post : List NumberedWrite) : Prop :=
  ∀ i b, i < w.buffer.length →
    lastByte (twinBuffers w post) i = some b → w.buffer[i]? = some b

theorem lastAt_slotWrite {w : NumberedWrite} {post : List NumberedWrite}
    (hw : w.Admissible) (hpost : ∀ v ∈ post, v.Admissible)
    (hlast : ∀ v ∈ post, v.key ≠ w.key) (i : ℕ) :
    SlotTable.lastAt (post.map NumberedWrite.slotWrite) w.page i =
      lastByte (twinBuffers w post) i := by
  have hshared : ∀ v ∈ post, (w.page = v.page ↔ v.IsTwinOf w) := by
    intro v hv
    rw [NumberedWrite.page, NumberedWrite.page,
      page_eq_iff hw.recNum (hpost v hv).recNum]
    constructor
    · rintro (hkey | ⟨htwin, hnum⟩)
      · exact absurd hkey.symm (hlast v hv)
      · exact ⟨htwin, hnum.symm⟩
    · rintro ⟨htwin, hnum⟩
      exact Or.inr ⟨htwin, hnum.symm⟩
  rw [SlotTable.lastAt, lastByte, twinBuffers, List.filterMap_map,
    List.filterMap_map, List.filterMap_filter]
  congr 1
  apply List.filterMap_congr
  intro v hv
  simp [NumberedWrite.slotWrite, hshared v hv]

/-- The last buffer written to a record is read back exactly if later writes
to its twin leave it unharmed. -/
theorem read_last_write_iff (d : Device) {pre post : List NumberedWrite}
    {w : NumberedWrite} (hadm : ∀ v ∈ pre ++ w :: post, v.Admissible)
    (hlast : ∀ v ∈ post, v.key ≠ w.key) :
    apiRecordNumRead (writeNumbered d (pre ++ w :: post)) w.name w.recNum
        w.buffer.length = w.buffer ↔
      Unharmed w post := by
  have hw : w.Admissible := hadm w (by simp)
  have hpost : ∀ v ∈ post, v.Admissible := fun v hv =>
    hadm v (List.mem_append_right _ (List.mem_cons_of_mem w hv))
  have htable : SlotTable.read
        (pageTable (writeNumbered d (pre ++ w :: post)).chip) w.page
        w.buffer.length =
      SlotTable.read (SlotTable.writeAll
        (SlotTable.write (SlotTable.writeAll (pageTable d.chip)
          (pre.map NumberedWrite.slotWrite)) w.slotWrite)
        (post.map NumberedWrite.slotWrite)) w.page w.buffer.length := by
    apply List.map_congr_left
    intro i hi
    have hi : i < dfBakSize :=
      Nat.lt_of_lt_of_le (List.mem_range.mp hi) hw.length
    rw [pageTable_writeNumbered d hadm w.page hi, List.map_append,
      List.map_cons, SlotTable.writeAll_append]
    rfl
  have hsurvives := SlotTable.read_writeAll_iff
    (SlotTable.writeAll (pageTable d.chip) (pre.map NumberedWrite.slotWrite))
    w.page w.buffer (post.map NumberedWrite.slotWrite)
  simp only [SlotTable.Survives, lastAt_slotWrite hw hpost hlast] at hsurvives
  rw [apiRecordNumRead, RecordName.readPage_eq, ← NumberedWrite.page,
    dfReadFlash_pageTable _ hw.page_lt hw.length, htable]
  exact hsurvives

/-! ## Isolation of the records -/

/-- In the history `ws`, the call `w` is the last one for its record, and the
calls `post` follow it. -/
def LastWrite (ws : List NumberedWrite) (w : NumberedWrite)
    (post : List NumberedWrite) : Prop :=
  (∃ pre, ws = pre ++ w :: post) ∧ ∀ v ∈ post, v.key ≠ w.key

/-- Every record reads back as it was last written. -/
def RecordsIsolated (d : Device) (ws : List NumberedWrite) : Prop :=
  ∀ w post, LastWrite ws w post →
    apiRecordNumRead (writeNumbered d ws) w.name w.recNum w.buffer.length =
      w.buffer

/-- Every record last written is left unharmed by what follows. -/
def TwinsAgree (ws : List NumberedWrite) : Prop :=
  ∀ w post, LastWrite ws w post → Unharmed w post

/-- After any history over all classes, every record reads back as it was last
written exactly if no later write to its twin changed a byte of it. -/
theorem recordsIsolated_iff_twinsAgree (d : Device) (ws : List NumberedWrite)
    (hadm : ∀ w ∈ ws, w.Admissible) :
    RecordsIsolated d ws ↔ TwinsAgree ws := by
  constructor
  · intro h w post hlast
    have hread := h w post hlast
    obtain ⟨⟨pre, rfl⟩, hpost⟩ := hlast
    exact (read_last_write_iff d hadm hpost).mp hread
  · intro h w post hlast
    have hunharmed := h w post hlast
    obtain ⟨⟨pre, rfl⟩, hpost⟩ := hlast
    exact (read_last_write_iff d hadm hpost).mpr hunharmed

theorem admissible_one {name : RecordName} {buffer : List UInt8}
    (hname : NumberedWrite.InUse name 1) (hlen : buffer.length ≤ 150) :
    NumberedWrite.Admissible ⟨name, 1, buffer⟩ := ⟨hname, hlen⟩

/-- An event, a text, and the circular rail of the event's number. -/
theorem recordsIsolated_iff_twinsAgree_sample :
    let ws : List NumberedWrite :=
      [⟨.event808, 1, [1]⟩, ⟨.textMsg, 1, [7]⟩, ⟨.railCycle, 1, [9]⟩]
    RecordsIsolated .initial ws ↔ TwinsAgree ws := by
  refine recordsIsolated_iff_twinsAgree .initial _ ?_
  simp only [List.forall_mem_cons]
  exact ⟨admissible_one ⟨by decide, by decide⟩ (by decide),
    admissible_one ⟨by decide, by decide⟩ (by decide),
    admissible_one ⟨by decide, by decide⟩ (by decide), nofun⟩

/-- Circular rail 1 replaces event 1. -/
theorem not_recordsIsolated_event_railCycle :
    ¬ ∀ ws : List NumberedWrite, (∀ w ∈ ws, w.Admissible) →
      RecordsIsolated .initial ws := by
  intro h
  let event : NumberedWrite := ⟨.event808, 1, [1]⟩
  let rail : NumberedWrite := ⟨.railCycle, 1, [9]⟩
  have hadm : ∀ w ∈ [] ++ event :: [rail], w.Admissible := by
    simp only [List.nil_append, List.forall_mem_cons]
    exact ⟨admissible_one ⟨by decide, by decide⟩ (by decide),
      admissible_one ⟨by decide, by decide⟩ (by decide), nofun⟩
  have hlast : ∀ v ∈ [rail], v.key ≠ event.key :=
    List.forall_mem_singleton.mpr (by decide)
  have hread := h _ hadm event [rail] ⟨⟨[], rfl⟩, hlast⟩
  have hunharmed := (read_last_write_iff .initial hadm hlast).mp hread
  exact absurd (hunharmed 0 9 (by decide) (by decide)) (by decide)

end VehicleRecorder.Dataflash
