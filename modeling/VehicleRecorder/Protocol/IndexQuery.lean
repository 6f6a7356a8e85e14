import VehicleRecorder.Camera.IndexRecords
import VehicleRecorder.Protocol.PositionReader
import VehicleRecorder.Protocol.TcpRxProcess

/-!
# Queries of the media index

A query `0x8802` names a type of media and an event, and
`Stuff_MultiMedia_IndexAck_0802H` answers with the records of the index that are
in use and belong to the event.

The answer for pictures lists the pictures in the index.  A query for sounds
falls through to the case of videos, for which no record is read: the answer
lists what `MediaIndex` holds from before, eight times or not at all.
-/

namespace VehicleRecorder.Protocol

open Bytes Layout Dataflash Camera AppState Runs

/-! ## The answer -/

/-- What turn `i` of the search leaves in `MediaIndex`. -/
def readIndex (d : Device) (ack : UInt8) (i : ℕ) (mediaIndex : List UInt8) :
    List UInt8 :=
  if ack = 1 then apiRecordNumRead d .picIndex i 52
  else if ack = 2 then apiRecordNumRead d .voiceIndex i 52
  else mediaIndex

/-- The record in `MediaIndex` is in use and belongs to the event. -/
def Listed (code : UInt8) (mediaIndex : List UInt8) : Prop :=
  mediaIndex.headD 0 = 1 ∧ code = mediaIndex.getD 10 0

instance (code : UInt8) (mediaIndex : List UInt8) :
    Decidable (Listed code mediaIndex) :=
  inferInstanceAs (Decidable (_ ∧ _))

/-- The number, the type, the channel and the event of a record in an answer. -/
def entryHead (mediaIndex : List UInt8) : List UInt8 :=
  beBytes4 (leValue ((mediaIndex.drop 4).take 4)) ++
    [mediaIndex.getD 8 0, mediaIndex.getD 9 0, mediaIndex.getD 10 0]

/-- `PosInfo` of a record. -/
def posInfo (mediaIndex : List UInt8) : List UInt8 :=
  (mediaIndex.drop 23).take 28

/-- The variables of the search. -/
structure IndexAck where
  w : CursorWriter
  mediaIndex : List UInt8
  totalNum : ℕ := 0

/-- A turn of the search. -/
def indexAckTurn (d : Device) (flags : SdAckFlag) (s : IndexAck) (i : ℕ) :
    IndexAck :=
  let mediaIndex := readIndex d flags.mediaIndexAck0802H i s.mediaIndex
  if Listed flags.queryEventCode mediaIndex then
    let w := s.w.puts (entryHead mediaIndex)
    { w := (w.copy (posInfo mediaIndex)).advance 28
      mediaIndex
      totalNum := s.totalNum + 1 }
  else { s with mediaIndex }

/-- `Stuff_MultiMedia_IndexAck_0802H`, with `MediaIndex` behind it. -/
def Uplink.stuffMultiMediaIndexAck0802H (u : Uplink) (d : Device)
    (flags : SdAckFlag) (mediaIndex : List UInt8) : Uplink × List UInt8 :=
  let w := (u.head 0x0802).puts (beBytes2 u.vars.centreFloatId)
  let lenregwr := w.wr
  let w := w.puts [0, 0]
  let s := (List.range 8).foldl (indexAckTurn d flags) { w, mediaIndex }
  let w := s.w.store lenregwr (UInt8.ofNat (s.totalNum / 256))
  let w := w.store (lenregwr + 1) (UInt8.ofNat s.totalNum)
  (u.finish w, s.mediaIndex)

/-! ## What is stuffed -/

/-- The records that the turns of the search find. -/
def found (d : Device) (flags : SdAckFlag) (mediaIndex : List UInt8)
    (is : List ℕ) : List (List UInt8) :=
  (is.map fun i => readIndex d flags.mediaIndexAck0802H i mediaIndex).filter
    (Listed flags.queryEventCode)

/-- A record in an answer. -/
def listedBytes (mediaIndex : List UInt8) : List UInt8 :=
  entryHead mediaIndex ++ posInfo mediaIndex

section Search

variable (d : Device) (flags : SdAckFlag) {mediaIndex : List UInt8}

theorem readIndex_length {ack : UInt8} (h : mediaIndex.length = 52) (i : ℕ) :
    (readIndex d ack i mediaIndex).length = 52 := by
  rw [readIndex]
  split
  · exact dfReadFlash_length _ _ _ _
  · split
    · exact dfReadFlash_length _ _ _ _
    · exact h

/-- A turn does not depend on what the turns before it have read. -/
theorem readIndex_readIndex (ack : UInt8) (i j : ℕ) (mediaIndex : List UInt8) :
    readIndex d ack i (readIndex d ack j mediaIndex) =
      readIndex d ack i mediaIndex := by
  simp only [readIndex]
  split
  · rfl
  · split <;> rfl

theorem found_cons (i : ℕ) (is : List ℕ) :
    found d flags mediaIndex (i :: is) =
      if Listed flags.queryEventCode
        (readIndex d flags.mediaIndexAck0802H i mediaIndex)
      then readIndex d flags.mediaIndexAck0802H i mediaIndex ::
        found d flags mediaIndex is
      else found d flags mediaIndex is := by
  rw [found, List.map_cons, List.filter_cons]
  simp only [decide_eq_true_eq]
  rfl

theorem posInfo_length (h : mediaIndex.length = 52) :
    (posInfo mediaIndex).length = 28 := by
  rw [posInfo, List.length_take, List.length_drop, h]
  rfl

theorem entryHead_length (mediaIndex : List UInt8) :
    (entryHead mediaIndex).length = 7 := by
  rw [entryHead, List.length_append, beBytes4_length]
  rfl

theorem listedBytes_length (h : mediaIndex.length = 52) :
    (listedBytes mediaIndex).length = 35 := by
  rw [listedBytes, List.length_append, entryHead_length, posInfo_length h]

theorem entry_holds {w : CursorWriter} {xs : List UInt8} (h : w.Holds 0 xs)
    (hlen : mediaIndex.length = 52) :
    (((w.puts (entryHead mediaIndex)).copy (posInfo mediaIndex)).advance
      28).Holds 0 (xs ++ listedBytes mediaIndex) := by
  have hcopy := (h.puts (entryHead mediaIndex)).copy (posInfo mediaIndex)
    (posInfo_length hlen).symm
  rw [List.append_assoc] at hcopy
  exact hcopy

/-- A turn of the search writes the record it reads if it is listed. -/
theorem indexAckTurn_holds {s : IndexAck} {xs : List UInt8}
    (h : s.w.Holds 0 xs) (hlen : s.mediaIndex.length = 52) (i : ℕ) :
    (indexAckTurn d flags s i).w.Holds 0
      (xs ++ (found d flags s.mediaIndex [i]).flatMap listedBytes) := by
  have hnil : found d flags s.mediaIndex [] = [] := rfl
  rw [indexAckTurn, found_cons, hnil]
  split
  · rw [List.flatMap_singleton]
    exact entry_holds h (readIndex_length d hlen i)
  · rw [List.flatMap_nil, List.append_nil]
    exact h

theorem indexAckTurn_totalNum (s : IndexAck) (i : ℕ) :
    (indexAckTurn d flags s i).totalNum =
      s.totalNum + (found d flags s.mediaIndex [i]).length := by
  rw [indexAckTurn, found_cons]
  split <;> rfl

theorem indexAckTurn_mediaIndex (s : IndexAck) (i : ℕ) :
    (indexAckTurn d flags s i).mediaIndex =
      readIndex d flags.mediaIndexAck0802H i s.mediaIndex := by
  rw [indexAckTurn]
  split <;> rfl

theorem found_readIndex (i : ℕ) (is : List ℕ) :
    found d flags (readIndex d flags.mediaIndexAck0802H i mediaIndex) is =
      found d flags mediaIndex is := by
  simp only [found, readIndex_readIndex]

/-- The search writes what it finds, and counts it. -/
theorem indexAck_foldl {s : IndexAck} {xs : List UInt8}
    (h : s.w.Holds 0 xs) (hlen : s.mediaIndex.length = 52) (is : List ℕ) :
    (is.foldl (indexAckTurn d flags) s).w.Holds 0
        (xs ++ (found d flags s.mediaIndex is).flatMap listedBytes) ∧
      (is.foldl (indexAckTurn d flags) s).totalNum =
        s.totalNum + (found d flags s.mediaIndex is).length := by
  induction is generalizing s xs with
  | nil =>
      rw [found, List.map_nil, List.filter_nil, List.flatMap_nil,
        List.append_nil]
      exact ⟨h, rfl⟩
  | cons i is ih =>
      have hturn := indexAckTurn_holds d flags h hlen i
      have hnext : (indexAckTurn d flags s i).mediaIndex.length = 52 := by
        rw [indexAckTurn_mediaIndex, readIndex_length d hlen]
      obtain ⟨hholds, hnum⟩ := ih hturn hnext
      have hsplit : found d flags s.mediaIndex (i :: is) =
          found d flags s.mediaIndex [i] ++ found d flags s.mediaIndex is := by
        rw [found, found, found, ← List.singleton_append, List.map_append,
          List.filter_append]
      rw [indexAckTurn_mediaIndex, found_readIndex] at hholds hnum
      rw [hsplit, List.flatMap_append, ← List.append_assoc]
      refine ⟨hholds, ?_⟩
      rw [List.foldl_cons, hnum, indexAckTurn_totalNum, List.length_append,
        Nat.add_assoc]

/-- The number of the records stored over the two bytes kept for it. -/
theorem storeNum_holds {w : CursorWriter} {xs ys : List UInt8}
    (h : w.Holds 0 (xs ++ ([0, 0] ++ ys))) (n : ℕ) :
    ((w.store xs.length (UInt8.ofNat (n / 256))).store (xs.length + 1)
      (UInt8.ofNat n)).Holds 0 (xs ++ (beBytes2 n ++ ys)) := by
  have hhigh := h.store_behind (UInt8.ofNat (n / 256))
  rw [Nat.zero_add, ← List.singleton_append, ← List.append_assoc] at hhigh
  have hlow := hhigh.store_behind (UInt8.ofNat n)
  rw [Nat.zero_add, List.length_append, List.append_assoc] at hlow
  exact hlow

/-- The answer holds the number of the records found, and the records. -/
theorem stuffMultiMediaIndexAck_eq (u : Uplink)
    (hlen : mediaIndex.length = 52) :
    ∃ w : CursorWriter,
      w.Holds 0 (headBytes 0x0802 u.vars.simCode u.tx.msgFloatID ++
        (beBytes2 u.vars.centreFloatId ++
          (beBytes2 (found d flags mediaIndex (List.range 8)).length ++
            (found d flags mediaIndex (List.range 8)).flatMap listedBytes))) ∧
      (u.stuffMultiMediaIndexAck0802H d flags mediaIndex).1 = u.finish w := by
  have hid := (protocolHead_holds u.vars.simCode u.tx.msgFloatID
    ⟨u.originalInfo, 0⟩ 0x0802).puts (beBytes2 u.vars.centreFloatId)
  obtain ⟨hholds, hnum⟩ := indexAck_foldl d flags
    (s := { w := ((u.head 0x0802).puts (beBytes2 u.vars.centreFloatId)).puts
              [0, 0], mediaIndex })
    (hid.puts [0, 0]) hlen (List.range 8)
  rw [List.append_assoc] at hholds
  have hstored := storeNum_holds hholds
    (found d flags mediaIndex (List.range 8)).length
  rw [List.append_assoc] at hstored
  refine ⟨_, hstored, ?_⟩
  have hwr := hid.wr
  rw [Nat.zero_add] at hnum hwr
  rw [← hwr, ← hnum]
  rfl

end Search

/-! ## Reading the answer -/

/-- A record in an answer, as the centre reads it. -/
structure IndexEntry where
  mediaId : ℕ
  type : UInt8
  id : UInt8
  eventCode : UInt8
  posInfo : List UInt8
  deriving DecidableEq, Repr

/-- An answer to a query of the index. -/
structure IndexAnswer where
  msgId : ℕ
  simCode : List UInt8
  floatId : ℕ
  queryId : ℕ
  entries : List IndexEntry
  deriving DecidableEq, Repr

/-- The record at the beginning of a body. -/
def readEntry (bs : List UInt8) : IndexEntry where
  mediaId := word bs 0 * 65536 + word bs 2
  type := bs.getD 4 0
  id := bs.getD 5 0
  eventCode := bs.getD 6 0
  posInfo := (bs.drop 7).take 28

/-- A number of records, and nothing behind them. -/
def readEntries : ℕ → List UInt8 → Option (List IndexEntry)
  | 0, bs => if bs = [] then some [] else none
  | n + 1, bs =>
      if 35 ≤ bs.length then
        (readEntries n (bs.drop 35)).map (readEntry bs :: ·)
      else none

/-- The answer in a frame. -/
def readIndexAnswer (f : List UInt8) : Option IndexAnswer :=
  (readMessage f).bind fun m =>
    (readEntries (word m.body 2) (m.body.drop 4)).map fun entries =>
      { msgId := m.msgId
        simCode := m.simCode
        floatId := m.floatId
        queryId := word m.body 0
        entries }

/-- What an answer says of a record. -/
def entryOf (mediaIndex : List UInt8) : IndexEntry where
  mediaId := leValue ((mediaIndex.drop 4).take 4)
  type := mediaIndex.getD 8 0
  id := mediaIndex.getD 9 0
  eventCode := mediaIndex.getD 10 0
  posInfo := posInfo mediaIndex

theorem dword_beBytes4 (v : ℕ) (rest : List UInt8) :
    word (beBytes4 v ++ rest) 0 * 65536 + word (beBytes4 v ++ rest) 2 =
      v % 2 ^ 32 := by
  have hbytes : beBytes4 v = [UInt8.ofNat (v / 256 / 256 / 256),
    UInt8.ofNat (v / 256 / 256), UInt8.ofNat (v / 256), UInt8.ofNat v] := rfl
  rw [hbytes]
  simp only [word, List.cons_append, List.getD_cons_zero, List.getD_cons_succ,
    word_toNat, Nat.reduceAdd]
  omega

theorem readEntry_listedBytes {mediaIndex : List UInt8}
    (h : mediaIndex.length = 52) (rest : List UInt8) :
    readEntry (listedBytes mediaIndex ++ rest) = entryOf mediaIndex := by
  have hid : leValue ((mediaIndex.drop 4).take 4) < 2 ^ 32 := by
    refine (leValue_lt _).trans_eq ?_
    rw [List.length_take, List.length_drop, h]
    rfl
  have hdword := dword_beBytes4 (leValue ((mediaIndex.drop 4).take 4))
    ([mediaIndex.getD 8 0, mediaIndex.getD 9 0, mediaIndex.getD 10 0] ++
      (posInfo mediaIndex ++ rest))
  rw [Nat.mod_eq_of_lt hid] at hdword
  have hpos : (((listedBytes mediaIndex ++ rest).drop 7).take 28) =
      posInfo mediaIndex := by
    rw [listedBytes, List.append_assoc,
      List.drop_left' (entryHead_length mediaIndex),
      List.take_left' (posInfo_length h)]
  have hbytes : listedBytes mediaIndex ++ rest =
      beBytes4 (leValue ((mediaIndex.drop 4).take 4)) ++
        ([mediaIndex.getD 8 0, mediaIndex.getD 9 0, mediaIndex.getD 10 0] ++
          (posInfo mediaIndex ++ rest)) := by
    simp only [listedBytes, entryHead, List.append_assoc]
  rw [← hbytes] at hdword
  rw [readEntry, entryOf, hdword, hpos, hbytes]
  rfl

theorem readEntries_flatMap {records : List (List UInt8)}
    (h : ∀ r ∈ records, r.length = 52) :
    readEntries records.length (records.flatMap listedBytes) =
      some (records.map entryOf) := by
  induction records with
  | nil => rfl
  | cons r records ih =>
      have hr := h r List.mem_cons_self
      have hlen := listedBytes_length hr
      have hle : 35 ≤ (listedBytes r ++ records.flatMap listedBytes).length := by
        rw [List.length_append, hlen]
        exact Nat.le_add_right _ _
      rw [List.length_cons, List.flatMap_cons, readEntries, if_pos hle,
        List.drop_left' hlen, ih fun r hr => h r (List.mem_cons_of_mem _ hr),
        readEntry_listedBytes hr, List.map_cons, Option.map_some]

theorem found_length (d : Device) (flags : SdAckFlag)
    {mediaIndex : List UInt8} (h : mediaIndex.length = 52) (is : List ℕ) :
    ∀ r ∈ found d flags mediaIndex is, r.length = 52 := by
  intro r hr
  obtain ⟨i, -, rfl⟩ := List.mem_map.mp (List.mem_of_mem_filter hr)
  exact readIndex_length d h i

/-- The centre reads the records that the search has found. -/
theorem readIndexAnswer_stuffed (u : Uplink) (d : Device) (flags : SdAckFlag)
    {mediaIndex : List UInt8} (hlen : mediaIndex.length = 52) :
    readIndexAnswer
        (u.stuffMultiMediaIndexAck0802H d flags mediaIndex).1.tx.gprsInfo =
      some { msgId := 0x0802
             simCode := readBytes u.vars.simCode 0 6
             floatId := u.tx.msgFloatID % 65536
             queryId := u.vars.centreFloatId % 65536
             entries := (found d flags mediaIndex (List.range 8)).map
               entryOf } := by
  obtain ⟨w, hholds, hfinish⟩ := stuffMultiMediaIndexAck_eq d flags u hlen
  have hrecords := found_length d flags hlen (List.range 8)
  have hle : (found d flags mediaIndex (List.range 8)).length ≤ 8 :=
    (List.length_filter_le _ _).trans_eq (by
      rw [List.length_map, List.length_range])
  generalize found d flags mediaIndex (List.range 8) = records at *
  have hbytes : (records.flatMap listedBytes).length = records.length * 35 := by
    rw [List.length_flatMap, List.map_congr_left fun r hr =>
      listedBytes_length (hrecords r hr), List.map_const',
      List.sum_replicate_nat]
  have hnum : word (beBytes2 u.vars.centreFloatId ++
      (beBytes2 records.length ++ records.flatMap listedBytes)) 2 =
        records.length :=
    (word_toNat _).trans (Nat.mod_eq_of_lt (by omega))
  rw [hfinish, readIndexAnswer, readMessage_finish hholds (by
    rw [List.length_append, List.length_append, beBytes2_length,
      beBytes2_length, hbytes]
    omega), Option.bind_some, hnum]
  have hdrop : (beBytes2 u.vars.centreFloatId ++
      (beBytes2 records.length ++ records.flatMap listedBytes)).drop 4 =
        records.flatMap listedBytes := rfl
  rw [hdrop, readEntries_flatMap hrecords, Option.map_some,
    ← word_toNat u.vars.centreFloatId]
  rfl

/-! ## The pictures in the index -/

/-- What an answer says of a media that was saved. -/
def entry (c : MediaCall) : IndexEntry where
  mediaId := c.stamp.msgFloatId % 2 ^ 32
  type := c.type.code
  id := UInt8.ofNat c.id
  eventCode := UInt8.ofNat c.evencode
  posInfo := padded 28 c.stamp.posInfo

theorem entryOf_bytes (c : MediaCall) : entryOf c.bytes = entry c := by
  have hname : (padded 12 c.name).length = 12 := by simp [padded]
  have hpos : (padded 28 c.stamp.posInfo).length = 28 := by simp [padded]
  have hid : leValue ((c.bytes.drop 4).take 4) = c.stamp.msgFloatId % 2 ^ 32 :=
    leValue_leBytes 4 c.stamp.msgFloatId
  have hfront : ([1, 0, 0, 0] ++ leBytes 4 c.stamp.msgFloatId ++
      [UInt8.ofNat c.type.code.toNat, UInt8.ofNat c.id,
        UInt8.ofNat c.evencode] ++ padded 12 c.name).length = 23 := by
    rw [List.length_append, hname]
    rfl
  have hinfo : posInfo c.bytes = padded 28 c.stamp.posInfo := by
    rw [posInfo, MediaCall.bytes, mediaIndexBytes, List.append_assoc,
      List.drop_left' hfront, List.take_left' hpos]
  have htype : UInt8.ofNat c.type.code.toNat = c.type.code :=
    UInt8.ofNat_toNat
  rw [entryOf, hid, hinfo, entry, ← htype]
  rfl

theorem listed_bytes (code : UInt8) (c : MediaCall) :
    Listed code c.bytes ↔ UInt8.ofNat c.evencode = code := by
  have hcode : Listed code c.bytes ↔
      (1 : UInt8) = 1 ∧ code = UInt8.ofNat c.evencode := Iff.rfl
  rw [hcode, and_iff_right rfl, eq_comm]

/-- The records in use hold the pictures. -/
theorem map_indexRecord {d : Device} {cs : List MediaCall} (h : Indexes d cs) :
    (List.range (recorded (pictures cs)).length).map (indexRecord d .picture) =
      (recorded (pictures cs)).map MediaCall.bytes := by
  refine List.ext_getElem (by simp) fun i hi hi' => ?_
  rw [List.getElem_map, List.getElem_map, List.getElem_range]
  exact h.record i _ (List.getElem?_eq_getElem _)

/-- The records behind the last picture are free. -/
theorem not_listed_of_free {d : Device} {cs : List MediaCall}
    (h : Indexes d cs) (code : UInt8) {i : ℕ} (hi : i < 8)
    (hfree : (recorded (pictures cs)).length ≤ i) :
    ¬ Listed code (indexRecord d .picture i) := by
  obtain ⟨sounds, hfilled⟩ := h.filled
  have hlen := length_recorded (pictures cs)
  have hflag := hfilled.picture i hi
  rw [if_neg (by omega)] at hflag
  rintro ⟨hused, -⟩
  exact absurd (hflag.symm.trans hused) (by decide)

/-- The search for pictures finds those in the index. -/
theorem found_pictures {d : Device} {cs : List MediaCall} (h : Indexes d cs)
    {flags : SdAckFlag} (hflags : flags.mediaIndexAck0802H = 1)
    (mediaIndex : List UInt8) :
    found d flags mediaIndex (List.range 8) =
      ((recorded (pictures cs)).filter
        (UInt8.ofNat ·.evencode = flags.queryEventCode)).map
          MediaCall.bytes := by
  have hread : (fun i => readIndex d flags.mediaIndexAck0802H i mediaIndex) =
      indexRecord d .picture := by
    funext i
    rw [readIndex, if_pos hflags]
    rfl
  have hle : (recorded (pictures cs)).length ≤ 8 :=
    (length_recorded _).trans_le (Nat.min_le_left _ _)
  have hfree :
      ((List.range (8 - (recorded (pictures cs)).length)).map fun i =>
        indexRecord d .picture ((recorded (pictures cs)).length + i)).filter
          (Listed flags.queryEventCode) = [] := by
    rw [List.filter_eq_nil_iff]
    intro r hr
    obtain ⟨i, hi, rfl⟩ := List.mem_map.mp hr
    have hi := List.mem_range.mp hi
    rw [decide_eq_true_eq]
    exact not_listed_of_free h _ (by omega) (Nat.le_add_right _ _)
  have hrange : 8 = (recorded (pictures cs)).length +
      (8 - (recorded (pictures cs)).length) := by omega
  rw [found, hread, hrange, List.range_add, List.map_append, List.map_map,
    List.filter_append, map_indexRecord h]
  refine (congrArg (_ ++ ·) hfree).trans ?_
  rw [List.append_nil, List.filter_map]
  congr 1
  refine List.filter_congr fun c _ => ?_
  exact decide_eq_decide.mpr (listed_bytes _ c)

/-- After any run of saves since the initialisation, a query for pictures is
answered with the pictures of the event among the eight that the index holds. -/
theorem pictures_listed {d : Device} {es : List IndexEvent}
    (hes : Meeting IndexEvent.step (fun d e => e.SparesIndex d)
      (mediaIndexInit d) es) (u : Uplink) (s : AppState) {rx : ℕ → UInt8}
    (hrx : rx 13 = 0) {mediaIndex : List UInt8}
    (hlen : mediaIndex.length = 52) :
    readIndexAnswer (u.stuffMultiMediaIndexAck0802H
        (es.foldl IndexEvent.step (mediaIndexInit d))
        (s.case8802 rx).sdAckFlag mediaIndex).1.tx.gprsInfo =
      some { msgId := 0x0802
             simCode := readBytes u.vars.simCode 0 6
             floatId := u.tx.msgFloatID % 65536
             queryId := u.vars.centreFloatId % 65536
             entries := ((recorded (pictures (saves es))).filter
               (UInt8.ofNat ·.evencode = rx 15)).map entry } := by
  have hflags : (s.case8802 rx).sdAckFlag = { s.sdAckFlag with
      queryEventCode := rx 15
      mediaIndexAck0802H := 1 } := by
    rw [case8802, hrx]
    rfl
  have hindexes := indexes_run (indexes_init d) hes
  rw [List.nil_append] at hindexes
  rw [readIndexAnswer_stuffed u _ _ hlen, hflags,
    found_pictures hindexes rfl, List.map_map]
  congr 3
  funext c
  exact entryOf_bytes c

/-- A picture of the event 3, a text message, a picture of the event 1, and a
query for the event 3. -/
theorem pictures_listed_event :
    readIndexAnswer ((Uplink.stuffMultiMediaIndexAck0802H {}
        (List.foldl IndexEvent.step (mediaIndexInit .initial)
          [.save { type := .picture, id := 2, evencode := 3 },
            .other fun d => apiRecordNumWrite d .textMsg 0 [1],
            .save { type := .picture, id := 1, evencode := 1 }])
        (case8802 (fun i => if i = 15 then 3 else 0) {}).sdAckFlag
        (List.replicate 52 0)).1.tx.gprsInfo) =
      some { msgId := 0x0802
             simCode := readBytes (fun _ => 0) 0 6
             floatId := 0
             queryId := 0
             entries :=
               [entry { type := .picture, id := 2, evencode := 3 }] } :=
  have hes : Meeting IndexEvent.step (fun d e => e.SparesIndex d)
      (mediaIndexInit .initial)
      [.save { type := .picture, id := 2, evencode := 3 },
        .other fun d => apiRecordNumWrite d .textMsg 0 [1],
        .save { type := .picture, id := 1, evencode := 1 }] :=
    ⟨trivial, sparesIndex_write _ (by decide) (by decide) (by decide), trivial,
      trivial⟩
  pictures_listed hes {} {} rfl (by decide)

/-- A query for sounds or videos is answered with what `MediaIndex` holds from
before, eight times if it is of the event, whatever the index holds. -/
theorem sounds_stale (u : Uplink) (s : AppState) {rx : ℕ → UInt8}
    (hrx : rx 13 = 1 ∨ rx 13 = 2) (d : Device) {mediaIndex : List UInt8}
    (hlen : mediaIndex.length = 52) :
    readIndexAnswer (u.stuffMultiMediaIndexAck0802H d
        (s.case8802 rx).sdAckFlag mediaIndex).1.tx.gprsInfo =
      some { msgId := 0x0802
             simCode := readBytes u.vars.simCode 0 6
             floatId := u.tx.msgFloatID % 65536
             queryId := u.vars.centreFloatId % 65536
             entries :=
               if Listed (rx 15) mediaIndex then
                 List.replicate 8 (entryOf mediaIndex)
               else [] } := by
  have hflags : (s.case8802 rx).sdAckFlag = { s.sdAckFlag with
      queryEventCode := rx 15
      mediaIndexAck0802H := 3 } := by
    rcases hrx with hrx | hrx <;> rw [case8802, hrx] <;> rfl
  rw [readIndexAnswer_stuffed u _ _ hlen, hflags]
  congr 2
  have hread : (fun i => readIndex d 3 i mediaIndex) = fun _ => mediaIndex := by
    funext i
    rfl
  rw [found, hread, List.map_const', List.length_range, List.filter_replicate]
  simp only [decide_eq_true_eq]
  split <;> rfl

/-- A picture of the event 0 in `MediaIndex`, and a query for sounds. -/
theorem sounds_stale_picture :
    readIndexAnswer ((Uplink.stuffMultiMediaIndexAck0802H {}
        (mediaIndexInit .initial)
        (case8802 (fun i => if i = 13 then 1 else 0) {}).sdAckFlag
        (MediaCall.bytes { type := .picture })).1.tx.gprsInfo) =
      some { msgId := 0x0802
             simCode := readBytes (fun _ => 0) 0 6
             floatId := 0
             queryId := 0
             entries := List.replicate 8
               (entryOf (MediaCall.bytes { type := .picture })) } :=
  sounds_stale {} {} (Or.inl rfl) (mediaIndexInit .initial)
    (MediaCall.bytes_length _)

end VehicleRecorder.Protocol
