import Mathlib.Logic.Function.Basic
import VehicleRecorder.Dataflash.PageRewrite
import VehicleRecorder.Protocol.ListBytes

/-!
# The table of text messages

`TEXTMSG_Write` puts a message into one of eight numbered records, round and
round, and `TEXTMsg_Read` lists them from the newest on.  A message is three
bytes longer than what `DF_WriteFlash` keeps of a page: its last bytes run on
into the record behind, whose number they clear.
-/

namespace VehicleRecorder.Protocol.TextTable

open Bytes Dataflash

/-! ## The writer -/

/-- `sizeof(TEXT_Obj)`. -/
abbrev msgTextSize : ℕ := 153

/-- `TEXT_Obj`: whether the message is new, its number, its length, and the
text in 150 cleared bytes. -/
def msgTextBytes (mOld type : UInt8) (str : List UInt8) : List UInt8 :=
  [mOld, type, UInt8.ofNat str.length] ++ str ++
    List.replicate (150 - str.length) 0

/-- `TEXTMSG_Write`. -/
def textmsgWrite (d : Device) (num newState : UInt8) (str : List UInt8) :
    Device :=
  let pos := if num.toNat % 8 ≠ 0 then num.toNat % 8 else 8
  apiRecordNumWrite d .textMsg pos (msgTextBytes newState num str)

/-- `TEXTMSG_Write_Init`. -/
def textmsgWriteInit (d : Device) : Device :=
  (List.range 8).foldl (fun d i =>
    apiRecordNumWrite d .textMsg (i + 1)
      (msgTextBytes (if i = 0 then 1 else 0) (UInt8.ofNat (i + 1)) [])) d

/-- A text from the centre is written so. -/
theorem textmsgWrite_device (s : AppState) (num newState len : UInt8)
    (hlen : len.toNat ≤ 150) :
    (s.textmsgWrite num newState len).device =
      textmsgWrite s.device num newState
        (readBytes (s.mem .textContent) 0 len.toNat) := by
  have hsize : sizeT (len.toNat : ℤ) = len.toNat := sizeT_ofNat (by omega)
  have hstr : readBytes (overlay (overlay (s.mem .textStr)
      (List.replicate 150 0)) (readBytes (s.mem .textContent) 0 len.toNat)) 0
        150 = readBytes (s.mem .textContent) 0 len.toNat ++
          List.replicate (150 - len.toNat) 0 := by
    apply List.ext_getElem?
    intro k
    have hcopied : (readBytes (s.mem .textContent) 0 len.toNat).length =
        len.toNat := readBytes_length _ _ _
    rw [getElem?_readBytes, overlay, Nat.zero_add]
    rcases Nat.lt_or_ge k len.toNat with hin | hout
    · rw [if_pos (by omega), List.getElem?_append_left (by omega),
        List.getElem?_eq_getElem (by omega), Option.getD_some]
    · rw [List.getElem?_append_right (by omega), hcopied,
        List.getElem?_replicate, List.getElem?_eq_none (by omega),
        Option.getD_none, overlay, List.getElem?_replicate]
      split
      · rw [if_pos (by omega)]
        rfl
      · rw [if_neg (by omega)]
  simp only [AppState.textmsgWrite, AppState.recordNumWrite,
    AppState.textBytes, AppState.bytes, AppState.memcpy, AppState.memset,
    AppState.store, textmsgWrite, msgTextBytes, Function.update_self, hsize,
    Arr.size, hstr, readBytes_length, UInt8.ofNat_toNat, List.append_assoc]

/-! ## One record -/

theorem msgTextBytes_length {mOld type : UInt8} {str : List UInt8}
    (h : str.length ≤ 150) : (msgTextBytes mOld type str).length = 153 := by
  simp only [msgTextBytes, List.length_append, List.length_cons,
    List.length_nil, List.length_replicate]
  omega

/-- Byte `k` of the record in page `1432 + j`. -/
def row (d : Device) (j k : ℕ) : UInt8 := pageTable d.chip (dfMsgPage + j) k

/-- A write reaches the record it is for and, unless that is one of the last
two, the first three bytes of the record behind. -/
theorem row_write (d : Device) {p j k : ℕ} (b : List UInt8)
    (hlen : b.length = 153) (hp : 1 ≤ p ∧ p ≤ 8) (hj : 1 ≤ j ∧ j ≤ 8)
    (hk : k < 150) :
    row (apiRecordNumWrite d .textMsg p b) j k =
      if j = p then b.getD k 0
      else if j = p + 1 ∧ p ≤ 6 ∧ k < 3 then b.getD (150 + k) 0
      else row d j k := by
  have hpage : dfMsgPage + p < 8192 := by simp only [dfMsgPage]; omega
  by_cases hsector : (dfMsgPage + j) / 8 = (dfMsgPage + p) / 8
  · obtain ⟨r, hr, hplace⟩ := exists_place hsector
    have hrow := pageTable_rewritten_row d.chip b hpage hr hk
    rw [← hplace] at hrow
    simp only [row, apiRecordNumWrite, RecordName.writePage, Device.issue] at *
    rw [hrow]
    simp only [dfMsgPage, dfBakSize] at hplace hsector ⊢
    rcases Nat.lt_trichotomy j p with hlt | heq | hgt
    · rw [if_neg (by omega), if_neg (by omega), if_neg (by omega)]
    · have hself : (r - (1432 + p) % 8) * 150 + k = k := by
        have hzero : r - (1432 + p) % 8 = 0 := by omega
        rw [hzero, Nat.zero_mul, Nat.zero_add]
      rw [if_pos (by omega), if_pos heq, hself,
        List.getD_eq_getElem _ _ (by omega), List.getD_eq_getElem _ _ (by omega)]
    · rw [if_pos (by omega), if_neg (by omega)]
      by_cases hnext : j = p + 1 ∧ p ≤ 6 ∧ k < 3
      · have hone : (r - (1432 + p) % 8) * 150 + k = 150 + k := by
          have hstep : r - (1432 + p) % 8 = 1 := by omega
          rw [hstep, Nat.one_mul]
        rw [if_pos hnext, hone, List.getD_eq_getElem _ _ (by omega),
          List.getD_eq_getElem _ _ (by omega)]
      · have hbehind : 153 ≤ (r - (1432 + p) % 8) * 150 + k := by
          rcases Nat.lt_or_ge (r - (1432 + p) % 8) 2 with hlt | hge
          · have hstep : r - (1432 + p) % 8 = 1 := by omega
            rw [hstep]
            omega
          · have hmul := Nat.mul_le_mul_right 150 hge
            omega
        rw [if_neg hnext, List.getD_eq_default _ _ (by omega)]
  · have hother := pageTable_dfWriteFlash_of_ne d.chip b hpage
      (Nat.lt_trans hk (by decide)) hsector
    simp only [row, apiRecordNumWrite, RecordName.writePage, Device.issue] at *
    simp only [dfMsgPage] at hsector
    rw [hother, if_neg (by omega), if_neg (by omega)]

/-! ## Writing round and round -/

/-- Writes into the eight records in turn. -/
def writeRounds (d : Device) (b : ℕ → List UInt8) (n : ℕ) : Device :=
  (List.range n).foldl (fun d i =>
    apiRecordNumWrite d .textMsg (i % 8 + 1) (b i)) d

theorem writeRounds_succ (d : Device) (b : ℕ → List UInt8) (n : ℕ) :
    writeRounds d b (n + 1) =
      apiRecordNumWrite (writeRounds d b n) .textMsg (n % 8 + 1) (b n) := by
  rw [writeRounds, List.range_succ, List.foldl_append]
  rfl

/-- The last of `n` writes that went to record `j`. -/
def latest (n j : ℕ) : ℕ := n - 1 - (n - j) % 8

/-- The last of `n` writes ran on into record `j`. -/
def Torn (n j : ℕ) : Prop := n % 8 ≠ 0 ∧ n % 8 ≤ 6 ∧ j = n % 8 + 1

instance (n j : ℕ) : Decidable (Torn n j) :=
  inferInstanceAs (Decidable (_ ∧ _))

section Rounds

variable {n j : ℕ}

theorem latest_self (hn : j = n % 8 + 1) : latest (n + 1) j = n := by
  rw [latest]
  omega

theorem latest_succ (hj : 1 ≤ j ∧ j ≤ 8) (hn : j ≤ n) (hne : j ≠ n % 8 + 1) :
    latest (n + 1) j = latest n j := by
  rw [latest, latest]
  omega

/-- After any number of writes a record is the last one written there, with
the first three bytes cleared if the very last write ran on into it. -/
theorem row_writeRounds (d : Device) {b : ℕ → List UInt8}
    (hlen : ∀ i, (b i).length = 153)
    (htail : ∀ i, ∀ k < 3, (b i).getD (150 + k) 0 = 0) (n : ℕ) {k : ℕ}
    (hk : k < 150) (j : ℕ) (hj : 1 ≤ j ∧ j ≤ 8) (hn : j ≤ n) :
    row (writeRounds d b n) j k =
      if Torn n j ∧ k < 3 then 0 else (b (latest n j)).getD k 0 := by
  induction n with
  | zero => omega
  | succ n ih =>
      have hslot : 1 ≤ n % 8 + 1 ∧ n % 8 + 1 ≤ 8 := by omega
      rw [writeRounds_succ, row_write _ _ (hlen n) hslot hj hk]
      by_cases hself : j = n % 8 + 1
      · have htorn : ¬ (Torn (n + 1) j ∧ k < 3) := by
          rintro ⟨htorn, -⟩
          rw [Torn] at htorn
          omega
        rw [if_pos hself, if_neg htorn, latest_self hself]
      · have hle : j ≤ n := by omega
        have hold : ¬ (Torn n j ∧ k < 3) := fun h => hself h.1.2.2
        have hnext : (j = n % 8 + 1 + 1 ∧ n % 8 + 1 ≤ 6 ∧ k < 3) ↔
            (Torn (n + 1) j ∧ k < 3) := by
          rw [Torn]
          omega
        rw [if_neg hself, latest_succ hj hle hself]
        by_cases htorn : Torn (n + 1) j ∧ k < 3
        · rw [if_pos (hnext.mpr htorn), if_pos htorn, htail n k htorn.2]
        · rw [if_neg (mt hnext.mp htorn), if_neg htorn, ih hle, if_neg hold]

end Rounds

/-! ## A history of messages -/

/-- A message that leaves the last three bytes of its record cleared. -/
structure TextMessage where
  newState : UInt8
  text : List UInt8
  length_le : text.length ≤ 147

/-- The messages numbered 1 to `n` written into a fresh table. -/
def writeMessages (d : Device) (ms : ℕ → TextMessage) (n : ℕ) : Device :=
  (List.range n).foldl (fun d i =>
    textmsgWrite d (UInt8.ofNat (i + 1)) (ms (i + 1)).newState
      (ms (i + 1)).text) (textmsgWriteInit d)

/-- What the `i`-th write stores, those of the initialisation included. -/
def written (ms : ℕ → TextMessage) (i : ℕ) : List UInt8 :=
  if i < 8 then
    msgTextBytes (if i = 0 then 1 else 0) (UInt8.ofNat (i + 1)) []
  else
    msgTextBytes (ms (i - 7)).newState (UInt8.ofNat (i - 7)) (ms (i - 7)).text

/-- The initialisation is a round of its own. -/
theorem writeMessages_eq (d : Device) (ms : ℕ → TextMessage) {n : ℕ}
    (hn : n ≤ 255) :
    writeMessages d ms n = writeRounds d (written ms) (8 + n) := by
  rw [writeRounds, List.range_add, List.foldl_append, List.foldl_map,
    writeMessages]
  have hinit : textmsgWriteInit d = (List.range 8).foldl (fun d i =>
      apiRecordNumWrite d .textMsg (i % 8 + 1) (written ms i)) d := by
    refine List.foldl_ext _ _ d fun e i hi => ?_
    have hlt : i < 8 := List.mem_range.mp hi
    rw [Nat.mod_eq_of_lt hlt, written, if_pos hlt]
  rw [← hinit]
  refine List.foldl_ext _ _ _ fun e i hi => ?_
  have hlt : i < n := List.mem_range.mp hi
  have hnum : (UInt8.ofNat (i + 1)).toNat = i + 1 := Nat.mod_eq_of_lt (by omega)
  have hpos : (if (i + 1) % 8 ≠ 0 then (i + 1) % 8 else 8) =
      (8 + i) % 8 + 1 := by
    split <;> omega
  have hmessage : 8 + i - 7 = i + 1 := by omega
  simp only [textmsgWrite, hnum, hpos, written, hmessage]
  rw [if_neg (by omega)]

/-- The record of a message: its head, its text, and the cleared rest. -/
theorem msgTextBytes_tail {mOld type : UInt8} {str : List UInt8}
    (h : str.length ≤ 147) (k : ℕ) :
    (msgTextBytes mOld type str).getD (150 + k) 0 = 0 := by
  rw [msgTextBytes, List.getD_eq_getElem?_getD, List.getElem?_append_right,
    List.getElem?_replicate]
  · split <;> rfl
  · simp only [List.length_append, List.length_cons, List.length_nil]
    omega

theorem written_length (ms : ℕ → TextMessage) (i : ℕ) :
    (written ms i).length = 153 := by
  rw [written]
  split
  · exact msgTextBytes_length (Nat.zero_le _)
  · exact msgTextBytes_length ((ms _).length_le.trans (by decide))

theorem written_tail (ms : ℕ → TextMessage) (i k : ℕ) :
    (written ms i).getD (150 + k) 0 = 0 := by
  rw [written]
  split
  · exact msgTextBytes_tail (Nat.zero_le _) k
  · exact msgTextBytes_tail (ms _).length_le k

/-! ## The reader -/

/-- What `TEXTMsg_Read` fills. -/
structure TextView where
  textInforCounter : UInt8
  textObj8 : ℕ → List UInt8

/-- `Api_RecordNum_Read(text_msg,n,(u8*)&TEXT_Obj,sizeof(TEXT_Obj))`. -/
def textRecord (d : Device) (n : ℕ) : List UInt8 :=
  apiRecordNumRead d .textMsg n msgTextSize

/-- `TEXT_TYPE` of a record. -/
def textType (r : List UInt8) : ℕ := (r.getD 1 0).toNat

/-- The records of a loop copied into `TEXT_Obj_8`: the place and the number of
each. -/
def copyRecords (d : Device) (v : TextView) (is : List ℕ) (place num : ℕ → ℕ) :
    TextView :=
  { v with
    textObj8 := is.foldl (fun o i =>
      Function.update o (place i) (textRecord d (num i))) v.textObj8 }

/-- The largest `TEXT_TYPE` of the eight records. -/
def maxType (d : Device) : ℕ :=
  (List.range 8).foldl (fun m i => max m (textType (textRecord d (i + 1))))
    (textType (textRecord d 1))

/-- `TEXTMsg_Read`. -/
def textMsgRead (d : Device) (v : TextView) : TextView :=
  let max := maxType d
  let v := { v with textInforCounter := UInt8.ofNat max }
  if max < 1 then v
  else if max ≤ 8 then
    copyRecords d v (List.range' 1 max) (fun i => i - 1) (fun i => max - i + 1)
  else
    let max := max % 8
    if max = 0 then copyRecords d v (List.range 8) id (fun i => 7 - i)
    else
      let v := copyRecords d v (List.range max) id (fun i => max - i)
      copyRecords d v (List.range' max (8 - max)).reverse
        (fun i => max + 7 - i) (fun i => i + 1)

/-! ## Copying records -/

section Copy

variable (d : Device) (v : TextView) {is : List ℕ} {place num : ℕ → ℕ}

theorem copyRecords_concat (i : ℕ) :
    (copyRecords d v (is ++ [i]) place num).textObj8 =
      Function.update (copyRecords d v is place num).textObj8 (place i)
        (textRecord d (num i)) := by
  rw [copyRecords, List.foldl_append]
  rfl

theorem copyRecords_of_ne {k : ℕ} (h : ∀ i ∈ is, place i ≠ k) :
    (copyRecords d v is place num).textObj8 k = v.textObj8 k := by
  induction is using List.reverseRecOn with
  | nil => rfl
  | append_singleton is i ih =>
      have hlast : place i ≠ k := h i (by simp)
      rw [copyRecords_concat, Function.update_of_ne hlast.symm]
      exact ih fun i' hi' => h i' (List.mem_append_left _ hi')

/-- A place that is filled from one record only holds it. -/
theorem copyRecords_of_mem (is : List ℕ) (place num : ℕ → ℕ) {i : ℕ}
    (hi : i ∈ is) (h : ∀ i' ∈ is, place i' = place i → num i' = num i) :
    (copyRecords d v is place num).textObj8 (place i) =
      textRecord d (num i) := by
  induction is using List.reverseRecOn with
  | nil => exact absurd hi List.not_mem_nil
  | append_singleton is i' ih =>
      rw [copyRecords_concat]
      by_cases hplace : place i' = place i
      · rw [hplace, Function.update_self, h i' (by simp) hplace]
      · have hin : i ∈ is := by
          rcases List.mem_append.mp hi with hin | hlast
          · exact hin
          · rw [List.mem_singleton] at hlast
            exact absurd (congrArg place hlast.symm) hplace
        rw [Function.update_of_ne (Ne.symm hplace)]
        exact ih hin fun j hj => h j (List.mem_append_left _ hj)

end Copy

theorem le_foldl_max_iff (f : ℕ → ℕ) (a n b : ℕ) :
    (List.range n).foldl (fun m i => max m (f i)) a ≤ b ↔
      a ≤ b ∧ ∀ i < n, f i ≤ b := by
  induction n with
  | zero => simp
  | succ n ih =>
      rw [List.range_succ, List.foldl_append, List.foldl_cons, List.foldl_nil,
        Nat.max_le, ih, Nat.forall_lt_succ_right]
      tauto

/-- The largest number of the eight records. -/
theorem maxType_le_iff (d : Device) (b : ℕ) :
    maxType d ≤ b ↔ ∀ j, 1 ≤ j ∧ j ≤ 8 → textType (textRecord d j) ≤ b := by
  rw [maxType, le_foldl_max_iff]
  constructor
  · rintro ⟨-, h⟩ j hj
    have hj' := h (j - 1) (by omega)
    rwa [Nat.sub_add_cancel hj.1] at hj'
  · intro h
    exact ⟨h 1 (by decide), fun i hi => h (i + 1) (by omega)⟩

theorem textType_le_maxType (d : Device) {j : ℕ} (hj : 1 ≤ j ∧ j ≤ 8) :
    textType (textRecord d j) ≤ maxType d :=
  (maxType_le_iff d _).mp (Nat.le_refl _) j hj

theorem maxType_lt (d : Device) : maxType d < 256 := by
  have hle : maxType d ≤ 255 := (maxType_le_iff d 255).mpr fun j _ =>
    Nat.le_of_lt_succ (UInt8.toNat_lt _)
  omega

/-! ## The records read -/

theorem getElem?_textRecord (d : Device) {j k : ℕ} (hj : j ≤ 8) (hk : k < 150) :
    (textRecord d j)[k]? = some (row d j k) := by
  have hpage : dfMsgPage + j < 8192 := by simp only [dfMsgPage]; omega
  have hsize : k < msgTextSize := Nat.lt_trans hk (by decide)
  simp only [textRecord, apiRecordNumRead, RecordName.readPage]
  rw [dfReadFlash_eq d.chip hpage (by decide), getElem?_readBytes,
    if_pos hsize, Nat.add_zero]
  rfl

theorem textType_textRecord (d : Device) {j : ℕ} (hj : j ≤ 8) :
    textType (textRecord d j) = (row d j 1).toNat := by
  rw [textType, List.getD_eq_getElem?_getD,
    getElem?_textRecord d hj (by decide), Option.getD_some]

theorem take_textRecord (d : Device) {j n : ℕ} {b : List UInt8} (hj : j ≤ 8)
    (hn : n ≤ 150) (hlen : n ≤ b.length)
    (h : ∀ k < 150, row d j k = b.getD k 0) :
    (textRecord d j).take n = b.take n := by
  apply List.ext_getElem?
  intro k
  rw [List.getElem?_take, List.getElem?_take]
  split
  · rename_i hk
    rw [getElem?_textRecord d hj (by omega), h k (by omega),
      List.getD_eq_getElem _ _ (by omega), List.getElem?_eq_getElem (by omega)]
  · rfl

/-- The record shows a message: its head and its text. -/
def Shows (r : List UInt8) (num : ℕ) (m : TextMessage) : Prop :=
  r.take (3 + m.text.length) =
    [m.newState, UInt8.ofNat num, UInt8.ofNat m.text.length] ++ m.text

theorem Shows.textType {r : List UInt8} {num : ℕ} {m : TextMessage}
    (h : Shows r num m) : textType r = num % 256 := by
  have hbyte := congrArg (fun bs => bs[1]?) h
  simp only [List.getElem?_take] at hbyte
  rw [if_pos (by omega)] at hbyte
  rw [TextTable.textType, List.getD_eq_getElem?_getD, hbyte]
  rfl

/-! ## The three branches of the reader -/

section Branches

variable {d : Device} {v : TextView} {k : ℕ}

theorem textMsgRead_counter (d : Device) (v : TextView) :
    (textMsgRead d v).textInforCounter = UInt8.ofNat (maxType d) := by
  rw [textMsgRead]
  dsimp only
  split
  · rfl
  · split
    · rfl
    · split <;> rfl

theorem textMsgRead_le (hle : maxType d ≤ 8) (hk : k < maxType d) :
    (textMsgRead d v).textObj8 k = textRecord d (maxType d - k) := by
  rw [textMsgRead]
  dsimp only
  rw [if_neg (by omega), if_pos hle]
  have hcopy := copyRecords_of_mem d
    { v with textInforCounter := UInt8.ofNat (maxType d) }
    (List.range' 1 (maxType d)) (fun i => i - 1) (fun i => maxType d - i + 1)
    (i := k + 1) (List.mem_range'_1.mpr (by omega)) (by
      intro i hi hplace
      have hi := List.mem_range'_1.mp hi
      omega)
  have hnum : maxType d - (k + 1) + 1 = maxType d - k := by omega
  rw [hnum, Nat.add_sub_cancel] at hcopy
  exact hcopy

theorem textMsgRead_zero (hgt : 8 < maxType d) (hmod : maxType d % 8 = 0)
    (hk : k < 8) : (textMsgRead d v).textObj8 k = textRecord d (7 - k) := by
  rw [textMsgRead]
  dsimp only
  rw [if_neg (by omega), if_neg (by omega), if_pos hmod]
  refine copyRecords_of_mem d _ _ _ _ (List.mem_range.mpr hk) ?_
  intro i _ hplace
  exact congrArg (7 - ·) hplace

theorem textMsgRead_front (hgt : 8 < maxType d) (hk : k < maxType d % 8) :
    (textMsgRead d v).textObj8 k = textRecord d (maxType d % 8 - k) := by
  rw [textMsgRead]
  dsimp only
  rw [if_neg (by omega), if_neg (by omega), if_neg (by omega),
    copyRecords_of_ne]
  · refine copyRecords_of_mem d _ _ _ _ (List.mem_range.mpr hk) ?_
    intro i _ hplace
    exact congrArg (maxType d % 8 - ·) hplace
  · intro i hi
    have hi := List.mem_range'_1.mp (List.mem_reverse.mp hi)
    omega

theorem textMsgRead_back (hgt : 8 < maxType d) (hmod : maxType d % 8 ≠ 0)
    (hk : maxType d % 8 ≤ k) (hk8 : k < 8) :
    (textMsgRead d v).textObj8 k = textRecord d (maxType d % 8 + 8 - k) := by
  rw [textMsgRead]
  dsimp only
  rw [if_neg (by omega), if_neg (by omega), if_neg hmod]
  have hplace : maxType d % 8 + 7 - (maxType d % 8 + 7 - k) = k := by omega
  have hcopy := copyRecords_of_mem d
    (copyRecords d { v with textInforCounter := UInt8.ofNat (maxType d) }
      (List.range (maxType d % 8)) id fun i => maxType d % 8 - i)
    (List.range' (maxType d % 8) (8 - maxType d % 8)).reverse
    (fun i => maxType d % 8 + 7 - i) (fun i => i + 1)
    (i := maxType d % 8 + 7 - k)
    (List.mem_reverse.mpr (List.mem_range'_1.mpr (by omega))) (by
      intro i hi heq
      have hi := List.mem_range'_1.mp (List.mem_reverse.mp hi)
      omega)
  have hnum : maxType d % 8 + 7 - k + 1 = maxType d % 8 + 8 - k := by omega
  rw [hplace, hnum] at hcopy
  exact hcopy

end Branches

/-! ## The records after a history -/

section History

variable (d : Device) (ms : ℕ → TextMessage) {n j : ℕ}

theorem row_writeMessages (hn : n ≤ 255) (hj : 1 ≤ j ∧ j ≤ 8) {k : ℕ}
    (hk : k < 150) :
    row (writeMessages d ms n) j k =
      if Torn n j ∧ k < 3 then 0
      else (written ms (latest (8 + n) j)).getD k 0 := by
  have htorn : Torn (8 + n) j ↔ Torn n j := by
    rw [Torn, Torn]
    omega
  rw [writeMessages_eq d ms hn, row_writeRounds d (written_length ms)
    (fun i k _ => written_tail ms i k) (8 + n) hk j hj (by omega)]
  simp only [htorn]

/-- A record that the last write did not run on into shows its message. -/
theorem shows_writeMessages (hn : n ≤ 255) (hj : 1 ≤ j ∧ j ≤ 8)
    (htorn : ¬ Torn n j) {i : ℕ} (hi : 1 ≤ i) (hin : i ≤ n) (hnew : n < i + 8)
    (hmod : i % 8 = j % 8) :
    Shows (textRecord (writeMessages d ms n) j) i (ms i) := by
  have hlatest : latest (8 + n) j = i + 7 := by
    rw [latest]
    omega
  have hwritten : written ms (i + 7) =
      msgTextBytes (ms i).newState (UInt8.ofNat i) (ms i).text := by
    rw [written, if_neg (by omega), Nat.add_sub_cancel]
  have hlen := (ms i).length_le
  have htake := take_textRecord (writeMessages d ms n) (j := j)
    (n := 3 + (ms i).text.length) (b := written ms (i + 7)) hj.2 (by omega)
    (by rw [written_length]; omega) (by
      intro k hk
      rw [row_writeMessages d ms hn hj hk, if_neg (fun h => htorn h.1), hlatest])
  rw [Shows, htake, hwritten, msgTextBytes]
  exact List.take_left' (by
    simp only [List.length_append, List.length_cons, List.length_nil])

theorem textType_torn (hn : n ≤ 255) (hj : 1 ≤ j ∧ j ≤ 8) (htorn : Torn n j) :
    textType (textRecord (writeMessages d ms n) j) = 0 := by
  rw [textType_textRecord _ hj.2, row_writeMessages d ms hn hj (by decide),
    if_pos ⟨htorn, by decide⟩]
  rfl

/-- Before the eighth message the last record still has its number from the
initialisation. -/
theorem textType_fresh (hn : n < 8) :
    textType (textRecord (writeMessages d ms n) 8) = 8 := by
  have hj : 1 ≤ 8 ∧ 8 ≤ 8 := ⟨by decide, le_rfl⟩
  have htorn : ¬ (Torn n 8 ∧ 1 < 3) := by
    rw [Torn]
    omega
  have hlatest : latest (8 + n) 8 = 7 := by
    rw [latest]
    omega
  rw [textType_textRecord _ le_rfl,
    row_writeMessages d ms (by omega) hj (by decide), if_neg htorn, hlatest]
  rfl

/-- With no record torn the largest number is that of the newest message. -/
theorem maxType_writeMessages (hn : n ≤ 255) (h8 : 8 ≤ n)
    (htorn : ∀ j, ¬ Torn n j) : maxType (writeMessages d ms n) = n := by
  have htype (j : ℕ) (hj : 1 ≤ j ∧ j ≤ 8) (i : ℕ) (hi : 1 ≤ i) (hin : i ≤ n)
      (hnew : n < i + 8) (hmod : i % 8 = j % 8) :
      textType (textRecord (writeMessages d ms n) j) = i := by
    rw [(shows_writeMessages d ms hn hj (htorn j) hi hin hnew hmod).textType]
    exact Nat.mod_eq_of_lt (by omega)
  apply Nat.le_antisymm
  · rw [maxType_le_iff]
    intro j hj
    rw [htype j hj (n - (n - j) % 8) (by omega) (by omega) (by omega)
      (by omega)]
    omega
  · by_cases hmod : n % 8 = 0
    · have h := textType_le_maxType (writeMessages d ms n) (j := 8) (by decide)
      rwa [htype 8 (by decide) n (by omega) le_rfl (by omega) (by omega)] at h
    · have h := textType_le_maxType (writeMessages d ms n) (j := n % 8)
        (by omega)
      rwa [htype (n % 8) (by omega) n (by omega) le_rfl (by omega)
        (by omega)] at h

end History

/-! ## Newest first -/

/-- The reader counts `n` messages and lists the newest of them, newest
first. -/
def ListsNewestFirst (ms : ℕ → TextMessage) (n : ℕ) (v : TextView) : Prop :=
  v.textInforCounter = UInt8.ofNat n ∧
    ∀ k < min n 8, Shows (v.textObj8 k) (n - k) (ms (n - k))

/-- The messages are listed newest first exactly at the eighth one, and later
at those whose record is the seventh. -/
theorem textMsgRead_newest_iff (d : Device) (ms : ℕ → TextMessage) (n : ℕ)
    (v : TextView) (hpos : 1 ≤ n) (hn : n ≤ 255) :
    ListsNewestFirst ms n (textMsgRead (writeMessages d ms n) v) ↔
      n = 8 ∨ (8 < n ∧ n % 8 = 7) := by
  constructor
  · rintro ⟨hcount, hlist⟩
    have hmax : maxType (writeMessages d ms n) = n := by
      have hlt := maxType_lt (writeMessages d ms n)
      have h := congrArg UInt8.toNat (hcount.symm.trans (textMsgRead_counter _ v))
      rw [UInt8.toNat_ofNat', UInt8.toNat_ofNat'] at h
      omega
    by_contra hnot
    rcases Nat.lt_or_ge n 8 with hlt | hge
    · -- the counter still sees the numbers of the initialisation
      have h := textType_le_maxType (writeMessages d ms n) (j := 8) (by decide)
      rw [textType_fresh d ms hlt] at h
      omega
    · by_cases hmod : n % 8 = 0
      · -- this branch begins at the second newest record
        have hfirst := (hlist 0 (by omega)).textType
        have hread : (textMsgRead (writeMessages d ms n) v).textObj8 0 =
            textRecord (writeMessages d ms n) 7 :=
          textMsgRead_zero (by omega) (by omega) (by decide)
        have htorn : ¬ Torn n 7 := fun h => h.1 hmod
        have hseven := (shows_writeMessages d ms hn (j := 7) (by decide) htorn
          (i := n - 1) (by omega) (by omega) (by omega) (by omega)).textType
        rw [hread, hseven] at hfirst
        omega
      · -- the record behind the newest one has lost its number
        have hlast := (hlist 7 (by omega)).textType
        have hread := textMsgRead_back (d := writeMessages d ms n) (v := v)
          (k := 7) (by omega) (by omega) (by omega) (by decide)
        have hplace : n % 8 + 8 - 7 = n % 8 + 1 := by omega
        have htorn : Torn n (n % 8 + 1) := ⟨hmod, by omega, rfl⟩
        have hzero := textType_torn d ms hn (by omega) htorn
        rw [hread, hmax, hplace, hzero] at hlast
        omega
  · intro hcase
    have htorn (j : ℕ) : ¬ Torn n j := by
      rw [Torn]
      omega
    have hmax := maxType_writeMessages d ms hn (by omega) htorn
    refine ⟨by rw [textMsgRead_counter, hmax], ?_⟩
    intro k hk
    rcases hcase with heq | ⟨hgt, hmod⟩
    · rw [textMsgRead_le (by omega) (by omega), hmax]
      exact shows_writeMessages d ms hn (by omega) (htorn _) (by omega)
        (by omega) (by omega) rfl
    · rcases Nat.lt_or_ge k 7 with hfront | hback
      · rw [textMsgRead_front (by omega) (by omega), hmax]
        exact shows_writeMessages d ms hn (by omega) (htorn _) (by omega)
          (by omega) (by omega) (by omega)
      · rw [textMsgRead_back (by omega) (by omega) (by omega) (by omega), hmax]
        exact shows_writeMessages d ms hn (by omega) (htorn _) (by omega)
          (by omega) (by omega) (by omega)

/-- Empty messages. -/
def emptyMessages (_ : ℕ) : TextMessage := ⟨1, [], by decide⟩

/-- Messages with their number as the text. -/
def numberedMessages (n : ℕ) : TextMessage :=
  ⟨1, [0x30 + UInt8.ofNat (n / 10), 0x30 + UInt8.ofNat (n % 10)], by simp⟩

/-- A reader that has not read yet. -/
def TextView.initial : TextView := ⟨0, fun _ => []⟩

/-- Of fifteen messages the newest eight are listed. -/
theorem textMsgRead_newest_iff_fifteen :
    ListsNewestFirst numberedMessages 15
      (textMsgRead (writeMessages .initial numberedMessages 15) .initial) :=
  (textMsgRead_newest_iff .initial numberedMessages 15 .initial (by decide)
    (by decide)).mpr (Or.inr ⟨by decide, by decide⟩)

/-- After one message the counter is 8. -/
theorem not_listsNewestFirst_one :
    ¬ ListsNewestFirst emptyMessages 1
      (textMsgRead (writeMessages .initial emptyMessages 1) .initial) := by
  rintro ⟨hcount, -⟩
  rw [textMsgRead_counter] at hcount
  have hlt := maxType_lt (writeMessages .initial emptyMessages 1)
  have hfresh := textType_le_maxType (writeMessages .initial emptyMessages 1)
    (j := 8) (by decide)
  rw [textType_fresh .initial emptyMessages (by decide)] at hfresh
  have hmax := congrArg UInt8.toNat hcount
  rw [UInt8.toNat_ofNat', UInt8.toNat_ofNat'] at hmax
  omega

end VehicleRecorder.Protocol.TextTable
