import VehicleRecorder.Protocol.RecordFrame

/-!
# Events and the menu

The messages `0x8301` and `0x8303` set, change and delete the events and the
entries of the menu of information on demand.  Both are records under numbers
from 1 to 8 with a flag; the display shows the records whose flag is not zero.

The module compares the records with the tables the messages describe, for
messages of at most one item.
-/

namespace VehicleRecorder.Protocol

open Bytes Dataflash

/-! ## Stored items -/

/-- The two tables. -/
inductive ItemTable
  | events
  | menu
  deriving DecidableEq, Repr

/-- An event or a menu entry. -/
structure StoredItem where
  id : UInt8
  len : ℕ
  text : List UInt8
  deriving DecidableEq, Repr

namespace ItemTable

/-- The class of the records. -/
def record : ItemTable → RecordName
  | events => .event808
  | menu => .msgBroadcast

/-- The size of the structure. -/
def size : ItemTable → ℕ
  | events => 23
  | menu => 38

/-- The offset of `Event_Effective` or `INFO_Effective`. -/
def flagOffset : ItemTable → ℕ
  | events => 2
  | menu => 6

/-- The offset of `Event_Str` or `INFO_STR`. -/
def textOffset : ItemTable → ℕ
  | events => 3
  | menu => 7

/-- The size of `Event_Str` or `INFO_STR`. -/
def capacity : ItemTable → ℕ
  | events => 20
  | menu => 30

/-- `Event_Len` or `INFO_LEN` of a record. -/
def itemLen (xs : List UInt8) : ItemTable → ℕ
  | events => (xs.getD 1 0).toNat
  | menu => leValue [xs.getD 2 0, xs.getD 3 0]

/-- The message about the table. -/
def cmd : ItemTable → ℕ
  | events => 0x8301
  | menu => 0x8303

/-- The pages of the records 1 to 8. -/
def slots : ItemTable → ℕ → Prop
  | events => pages 1425 1432
  | menu => pages 7301 7308

theorem page_lt (t : ItemTable) {n : ℕ} (hn : n ≤ 8) :
    t.record.writePage + n < 8192 := by
  have hpage := t.record.writePage_lt
  omega

theorem size_le (t : ItemTable) : t.size ≤ dfBakSize := by
  cases t <;> decide

theorem page_eq_iff {t t' : ItemTable} {m n : ℕ} (hm : m ≤ 8) (hn : n ≤ 8) :
    t'.record.writePage + m = t.record.writePage + n ↔ t' = t ∧ m = n := by
  cases t <;> cases t' <;>
    simp only [record, RecordName.writePage, dfEventPage, dfBroadcastOffset,
      reduceCtorEq, false_and, true_and, iff_false] <;>
    omega

/-- The item of a record, if it is shown. -/
def item (xs : List UInt8) (t : ItemTable) : Option StoredItem :=
  if xs.getD t.flagOffset 0 = 0 then none
  else
    some ⟨xs.getD 0 0, t.itemLen xs, (xs.drop t.textOffset).take (t.itemLen xs)⟩

/-- The item under a number. -/
def entry (d : Device) (t : ItemTable) (n : ℕ) : Option StoredItem :=
  t.item (apiRecordNumRead d t.record n t.size)

theorem entry_write (d : Device) (t : ItemTable) {n k : ℕ}
    {buffer : List UInt8} (hn : n ≤ 8) (hk : k ≤ 8)
    (hlen : buffer.length = t.size) (t' : ItemTable) :
    entry (apiRecordNumWrite d t.record k buffer) t' n =
      if t' = t ∧ n = k then t.item buffer else entry d t' n := by
  have hsize : buffer.length ≤ dfBakSize := hlen ▸ t.size_le
  split
  next h =>
    obtain ⟨rfl, rfl⟩ := h
    rw [entry, ← hlen, apiRecordNumRead_write d (t'.page_lt hk) hsize]
  next h =>
    rw [entry, apiRecordNumRead_write_of_ne d (t.page_lt hk) hsize
      (t'.page_lt hn) t'.size_le (fun heq => h ((page_eq_iff hn hk).mp heq)),
      entry]

/-- Records without their flag take their items out of the table. -/
theorem entry_writeNumbered (d : Device) {t : ItemTable}
    {ws : List NumberedWrite}
    (h : ∀ w ∈ ws, w.name = t.record ∧ w.recNum ≤ 8 ∧
      w.buffer.length = t.size ∧ t.item w.buffer = none)
    (t' : ItemTable) {n : ℕ} (hn : n ≤ 8) :
    entry (writeNumbered d ws) t' n =
      if t' = t ∧ n ∈ ws.map NumberedWrite.recNum then none
      else entry d t' n := by
  induction ws using List.reverseRecOn with
  | nil => simp [writeNumbered]
  | append_singleton ws w ih =>
      rw [List.forall_mem_append, List.forall_mem_singleton] at h
      obtain ⟨hname, hnum, hlen, hitem⟩ := h.2
      rw [writeNumbered_concat, hname, entry_write _ t hn hnum hlen t', hitem,
        ih h.1]
      by_cases ht : t' = t <;> by_cases hw : n = w.recNum <;> simp [ht, hw]

end ItemTable

/-! ## Messages -/

/-- A message about one of the tables, as it lies in the buffer. -/
structure ItemMsg where
  table : ItemTable
  rx : ℕ → UInt8

namespace ItemMsg

/-- The length of the text in a message. -/
def len (m : ItemMsg) : ℕ :=
  match m.table with
  | .events => (m.rx 16).toNat
  | .menu => be16 m.rx 16

/-- The item in a message. -/
def given (m : ItemMsg) : StoredItem :=
  match m.table with
  | .events => ⟨m.rx 15, m.len, readBytes m.rx 17 m.len⟩
  | .menu => ⟨m.rx 15, m.len, readBytes m.rx 18 m.len⟩

/-- The message carries one item, unless it deletes all of them. -/
def WellFormed (m : ItemMsg) : Prop := m.rx 13 = 0 ∨ m.rx 14 = 1

/-- The message handled. -/
def handle (linkNum : ℕ) (s : AppState) (m : ItemMsg) : AppState :=
  s.commandSwitch m.table.cmd linkNum m.rx

/-- What a message makes of the tables. -/
def apply (f : ItemTable → ℕ → Option StoredItem) (m : ItemMsg) (t : ItemTable)
    (n : ℕ) : Option StoredItem :=
  if t ≠ m.table then f t n
  else if m.rx 13 = 0 then none
  else if n ≠ (m.rx 15).toNat then f t n
  else if m.rx 13 ≤ 3 then some m.given
  else if m.rx 13 = 4 ∧ t = .events then none
  else f t n

/-- The message does not delete a single event, and an item it sets has a number
between 1 and 8 and a text that fits. -/
structure Handled (m : ItemMsg) : Prop where
  not_delete : ¬ (m.table = .events ∧ m.rx 13 = 4)
  fits : m.rx 13 ≠ 0 → m.rx 13 ≤ 3 →
    1 ≤ (m.rx 15).toNat ∧ (m.rx 15).toNat ≤ 8 ∧ m.len ≤ m.table.capacity

end ItemMsg

/-! ## The records behind the handlers -/

/-- The front of an array behind a copy into it. -/
theorem take_readBytes_overlay (f : ℕ → UInt8) {xs : List UInt8} {n : ℕ}
    (hn : xs.length ≤ n) : (readBytes (overlay f xs) 0 n).take xs.length = xs := by
  apply List.ext_getElem?
  intro i
  rw [List.getElem?_take, getElem?_readBytes, Nat.zero_add, overlay]
  by_cases hi : i < xs.length
  · rw [if_pos hi, if_pos (by omega), List.getElem?_eq_getElem hi]
    rfl
  · rw [if_neg hi, List.getElem?_eq_none (by omega)]

namespace AppState

variable (rx : ℕ → UInt8) (s : AppState) {d : Device}

theorem item_eventBytes : ItemTable.events.item s.eventBytes =
    if s.records.eventObj.eventEffective = 0 then none
    else some ⟨s.records.eventObj.eventId,
      s.records.eventObj.eventLen.toNat,
      (s.bytes .eventStr).take s.records.eventObj.eventLen.toNat⟩ := rfl

theorem item_msgBroadCastBytes (hlen : s.records.msgBroadCastObj.infoLen ≤ 30) :
    ItemTable.menu.item s.msgBroadCastBytes =
      if s.records.msgBroadCastObj.infoEffective = 0 then none
      else some ⟨s.records.msgBroadCastObj.infoType,
        s.records.msgBroadCastObj.infoLen,
        (s.bytes .infoStr).take s.records.msgBroadCastObj.infoLen⟩ := by
  have hvalue : ItemTable.menu.itemLen s.msgBroadCastBytes =
      leValue (leBytes 2 s.records.msgBroadCastObj.infoLen) := rfl
  rw [leValue_leBytes, Nat.mod_eq_of_lt (by omega)] at hvalue
  have htext : s.msgBroadCastBytes.drop 7 = s.bytes .infoStr ++ [0] := rfl
  have htake : (s.bytes .infoStr ++ [0]).take
      s.records.msgBroadCastObj.infoLen =
        (s.bytes .infoStr).take s.records.msgBroadCastObj.infoLen := by
    apply List.take_append_of_le_length
    rw [bytes_length]
    exact hlen
  rw [ItemTable.item, hvalue, ItemTable.textOffset, htext, htake]
  rfl

/-- A text copied into a cleared array. -/
theorem take_bytes_memcpy {a : Arr} {src len : ℕ} (hlen : len ≤ a.size)
    (ha : a.size < 4294967296) :
    ((s.memcpy a rx src len).bytes a).take len = readBytes rx src len := by
  have hcopy : (s.memcpy a rx src len).mem a =
      overlay (s.mem a) (readBytes rx src (sizeT len)) :=
    Function.update_self a _ s.mem
  have hsize : sizeT len = len := by
    rw [sizeT]
    omega
  have hxs : (readBytes rx src len).length ≤ a.size := by
    rw [readBytes_length]
    exact hlen
  have htake := take_readBytes_overlay (s.mem a) hxs
  rw [readBytes_length] at htake
  rw [bytes, hcopy, hsize, htake]

/-! The handlers, for each kind of operation. -/

/-- A device with the records of a list, all of one table and not shown. -/
def Clears (t : ItemTable) (nums : List ℕ) (d d' : Device) : Prop :=
  ∃ ws : List NumberedWrite,
    (∀ w ∈ ws, w.name = t.record ∧ w.buffer.length = t.size ∧
      t.item w.buffer = none) ∧
    ws.map NumberedWrite.recNum = nums ∧ d' = writeNumbered d ws

variable {s}

theorem Clears.concat {t : ItemTable} {nums : List ℕ} {d d' : Device} {n : ℕ}
    (h : Clears t nums d d') {buffer : List UInt8}
    (hlen : buffer.length = t.size) (hitem : t.item buffer = none) :
    Clears t (nums ++ [n]) d (apiRecordNumWrite d' t.record n buffer) := by
  obtain ⟨ws, hws, rfl, rfl⟩ := h
  refine ⟨ws ++ [⟨t.record, n, buffer⟩], ?_, ?_, ?_⟩
  · rw [List.forall_mem_append, List.forall_mem_singleton]
    exact ⟨hws, rfl, hlen, hitem⟩
  · rw [List.map_append, List.map_singleton]
  · rw [writeNumbered_concat]

theorem Clears.writeEvent {nums : List ℕ} {t : AppState} {n : ℕ}
    (h : Clears .events nums d t.device)
    (heff : t.records.eventObj.eventEffective = 0)
    (hn : t.records.eventObj.eventId.toNat = n) :
    Clears .events (nums ++ [n]) d t.writeEvent.device := by
  subst hn
  exact h.concat t.eventBytes_length ((item_eventBytes t).trans (if_pos heff))

theorem Clears.writeMsgBroadCast {nums : List ℕ} {t : AppState} {n : ℕ}
    (h : Clears .menu nums d t.device)
    (heff : t.records.msgBroadCastObj.infoEffective = 0)
    (hlen : t.records.msgBroadCastObj.infoLen = 0)
    (hn : t.records.msgBroadCastObj.infoType.toNat = n) :
    Clears .menu (nums ++ [n]) d t.writeMsgBroadCast.device := by
  subst hn
  have hitem := item_msgBroadCastBytes t (by rw [hlen]; decide)
  exact h.concat t.msgBroadCastBytes_length (hitem.trans (if_pos heff))

theorem toNat_ofNat_succ {n : ℕ} (hn : n + 1 ≤ 8) :
    (UInt8.ofNat (n + 1)).toNat = n + 1 := Nat.mod_eq_of_lt (by omega)

theorem eventLoop_clears {t : AppState} (hd : t.device = d)
    (heff : t.records.eventObj.eventEffective = 0) (n : ℕ) (hn : n ≤ 8) :
    let t' := (List.range n).foldl (fun (s : AppState) i =>
      ({ s with records.eventObj.eventId := UInt8.ofNat (i + 1) } :
        AppState).writeEvent) t
    t'.records.eventObj.eventEffective = 0 ∧
      Clears .events ((List.range n).map (· + 1)) d t'.device := by
  induction n with
  | zero => exact ⟨heff, [], nofun, rfl, hd⟩
  | succ n ih =>
      obtain ⟨heff', hclears⟩ := ih (by omega)
      rw [List.range_succ, List.foldl_append, List.foldl_cons,
        List.foldl_nil, List.map_append, List.map_singleton]
      generalize List.foldl _ t (List.range n) = t' at heff' hclears
      exact ⟨heff', Clears.writeEvent hclears heff' (toNat_ofNat_succ hn)⟩

theorem eventInit_clears (s : AppState) :
    Clears .events ((List.range 8).map (· + 1)) s.device
      s.eventInit.device := by
  rw [eventInit]
  refine And.right (eventLoop_clears ?_ ?_ 8 (Nat.le_refl 8))
  · rfl
  · rfl

theorem menuLoop_clears {t : AppState} (hd : t.device = d)
    (heff : t.records.msgBroadCastObj.infoEffective = 0)
    (hlen : t.records.msgBroadCastObj.infoLen = 0) (n : ℕ) (hn : n ≤ 8) :
    let t' := (List.range n).foldl (fun (s : AppState) i =>
      ({ s with records.msgBroadCastObj.infoType := UInt8.ofNat (i + 1) } :
        AppState).writeMsgBroadCast) t
    (t'.records.msgBroadCastObj.infoEffective = 0 ∧
        t'.records.msgBroadCastObj.infoLen = 0) ∧
      Clears .menu ((List.range n).map (· + 1)) d t'.device := by
  induction n with
  | zero => exact ⟨⟨heff, hlen⟩, [], nofun, rfl, hd⟩
  | succ n ih =>
      obtain ⟨⟨heff', hlen'⟩, hclears⟩ := ih (by omega)
      rw [List.range_succ, List.foldl_append, List.foldl_cons,
        List.foldl_nil, List.map_append, List.map_singleton]
      generalize List.foldl _ t (List.range n) = t' at heff' hlen' hclears
      exact ⟨⟨heff', hlen'⟩, Clears.writeMsgBroadCast hclears heff' hlen'
        (toNat_ofNat_succ hn)⟩

theorem msgBroadCastInit_clears (s : AppState) :
    Clears .menu ((List.range 8).map (· + 1)) s.device
      s.msgBroadCastInit.device := by
  rw [msgBroadCastInit]
  refine And.right (menuLoop_clears ?_ ?_ ?_ 8 (Nat.le_refl 8))
  · rfl
  · rfl
  · rfl

/-- A device with one record more, that of an item of a table. -/
def Sets (t : ItemTable) (o : StoredItem) (d d' : Device) : Prop :=
  ∃ buffer, buffer.length = t.size ∧ t.item buffer = some o ∧
    d' = apiRecordNumWrite d t.record o.id.toNat buffer

theorem writeEvent_sets {t : AppState} {id len : UInt8} {text : List UInt8}
    (hd : t.device = d) (hobj : t.records.eventObj = ⟨id, len, 1⟩)
    (htext : (t.bytes .eventStr).take len.toNat = text) :
    Sets .events ⟨id, len.toNat, text⟩ d t.writeEvent.device := by
  subst hd
  refine ⟨t.eventBytes, t.eventBytes_length, ?_, ?_⟩
  · rw [item_eventBytes, hobj, htext]
    rfl
  · rw [AppState.writeEvent, hobj]
    rfl

theorem writeMsgBroadCast_sets {t : AppState} {id : UInt8} {len : ℕ}
    {text : List UInt8} (hd : t.device = d)
    (hid : t.records.msgBroadCastObj.infoType = id)
    (hlen : t.records.msgBroadCastObj.infoLen = len) (hle : len ≤ 30)
    (heff : t.records.msgBroadCastObj.infoEffective = 1)
    (htext : (t.bytes .infoStr).take len = text) :
    Sets .menu ⟨id, len, text⟩ d t.writeMsgBroadCast.device := by
  subst hd hid hlen
  refine ⟨t.msgBroadCastBytes, t.msgBroadCastBytes_length, ?_, ?_⟩
  · rw [item_msgBroadCastBytes _ hle, heff, htext]
    rfl
  · rw [AppState.writeMsgBroadCast]
    rfl

theorem case8301_sets (s : AppState) (h0 : rx 13 ≠ 0) (hop : rx 13 ≤ 4)
    (hone : rx 14 = 1) (hlen : (rx 16).toNat ≤ 20) :
    Sets .events ⟨rx 15, (rx 16).toNat, readBytes rx 17 (rx 16).toNat⟩
      s.device (s.case8301 rx).device := by
  rw [case8301, ack_device, if_neg h0, if_pos hop, if_neg (not_not.mpr hone)]
  refine writeEvent_sets ?_ ?_ ?_
  · rfl
  · rfl
  · rw [bytes_records]
    exact take_bytes_memcpy rx _ hlen (by decide)

theorem case8303_sets (s : AppState) (h0 : rx 13 ≠ 0) (hop : rx 13 ≤ 3)
    (hone : rx 14 = 1) (hlen : be16 rx 16 ≤ 30) :
    Sets .menu ⟨rx 15, be16 rx 16, readBytes rx 18 (be16 rx 16)⟩
      s.device (s.case8303 rx).device := by
  rw [case8303, ack_device, if_neg h0, if_pos hop, if_neg (not_not.mpr hone)]
  refine writeMsgBroadCast_sets ?_ ?_ ?_ hlen ?_ ?_
  · rfl
  · rfl
  · rfl
  · rfl
  · rw [bytes_records]
    exact take_bytes_memcpy rx _ hlen (by decide)

end AppState

namespace ItemMsg

variable {s : AppState} {m : ItemMsg} {linkNum : ℕ}

theorem handle_clears (h0 : m.rx 13 = 0) :
    AppState.Clears m.table ((List.range 8).map (· + 1)) s.device
      (m.handle linkNum s).device := by
  obtain ⟨t, rx⟩ := m
  cases t with
  | events =>
      rw [handle, ItemTable.cmd, AppState.commandSwitch, AppState.case8301,
        AppState.ack_device, if_pos h0]
      exact AppState.eventInit_clears s
  | menu =>
      rw [handle, ItemTable.cmd, AppState.commandSwitch, AppState.case8303,
        AppState.ack_device, if_pos h0]
      exact AppState.msgBroadCastInit_clears s

/-- Operations 1 to 3 set the item given. -/
theorem handle_sets (h0 : m.rx 13 ≠ 0) (hop : m.rx 13 ≤ 3)
    (hone : m.rx 14 = 1) (hlen : m.len ≤ m.table.capacity) :
    AppState.Sets m.table m.given s.device (m.handle linkNum s).device := by
  obtain ⟨t, rx⟩ := m
  cases t with
  | events =>
      have hop4 : rx 13 ≤ 4 := UInt8.le_trans hop (by decide)
      exact AppState.case8301_sets rx s h0 hop4 hone hlen
  | menu => exact AppState.case8303_sets rx s h0 hop hone hlen

/-- Other operations but 4 on events change no record. -/
theorem handle_device_of_not_le (hop : ¬ m.rx 13 ≤ 3)
    (hdelete : ¬ (m.table = .events ∧ m.rx 13 = 4)) :
    (m.handle linkNum s).device = s.device := by
  obtain ⟨t, rx⟩ := m
  change ¬ rx 13 ≤ 3 at hop
  have h0 : rx 13 ≠ 0 := fun h => hop (by rw [h]; decide)
  cases t with
  | events =>
      have hop4 : ¬ rx 13 ≤ 4 := by
        intro hle
        have hne : rx 13 ≠ 4 := fun h => hdelete ⟨rfl, h⟩
        rw [UInt8.le_iff_toNat_le] at hle hop
        have hval : (rx 13).toNat ≠ 4 := fun h => hne (UInt8.toNat_inj.mp h)
        change ¬ (rx 13).toNat ≤ 3 at hop
        change (rx 13).toNat ≤ 4 at hle
        omega
      rw [handle, ItemTable.cmd, AppState.commandSwitch, AppState.case8301,
        AppState.ack_device, if_neg h0, if_neg hop4]
  | menu =>
      rw [handle, ItemTable.cmd, AppState.commandSwitch, AppState.case8303,
        AppState.ack_device, if_neg h0, if_neg hop]

/-- The items behind a message are those it describes. -/
theorem entry_handle (hwf : m.WellFormed) (hm : m.Handled) (t : ItemTable)
    {n : ℕ} (hlo : 1 ≤ n) (hhi : n ≤ 8) :
    ItemTable.entry (m.handle linkNum s).device t n =
      m.apply (ItemTable.entry s.device) t n := by
  by_cases h0 : m.rx 13 = 0
  · obtain ⟨ws, hws, hnum, hdevice⟩ := handle_clears h0
    have hmem (k : ℕ) : k ∈ ws.map NumberedWrite.recNum ↔ 1 ≤ k ∧ k ≤ 8 := by
      rw [hnum, List.mem_map]
      simp only [List.mem_range]
      constructor
      · rintro ⟨i, hi, rfl⟩
        omega
      · intro hk
        exact ⟨k - 1, by omega, by omega⟩
    have hcleared := ItemTable.entry_writeNumbered s.device (fun w hw =>
      ⟨(hws w hw).1, ((hmem _).mp (List.mem_map_of_mem hw)).2, (hws w hw).2⟩)
      t hhi
    rw [hdevice, hcleared, apply]
    by_cases ht : t = m.table
    · rw [if_pos ⟨ht, (hmem n).mpr ⟨hlo, hhi⟩⟩, if_neg (not_not.mpr ht),
        if_pos h0]
    · rw [if_neg (fun h => ht h.1), if_pos ht]
  · by_cases hop : m.rx 13 ≤ 3
    · obtain ⟨hid, hid', hlen⟩ := hm.fits h0 hop
      obtain ⟨buffer, hsize, hitem, hdevice⟩ := handle_sets h0 hop
        (hwf.resolve_left h0) hlen
      have hnum : m.given.id = m.rx 15 := by
        rw [given]
        split <;> rfl
      rw [hdevice, hnum, ItemTable.entry_write _ _ hhi hid' hsize, hitem, apply]
      by_cases ht : t = m.table
      · rw [if_neg (not_not.mpr ht), if_neg h0]
        by_cases hn : n = (m.rx 15).toNat
        · rw [if_pos ⟨ht, hn⟩, if_neg (not_not.mpr hn), if_pos hop]
        · rw [if_neg (fun h => hn h.2), if_pos hn]
      · rw [if_neg (fun h => ht h.1), if_pos ht]
    · rw [handle_device_of_not_le hop hm.not_delete, apply]
      have hnone : ¬ (m.rx 13 = 4 ∧ t = .events) ∨ t ≠ m.table := by
        by_cases ht : t = m.table
        · left
          rintro ⟨h4, hevents⟩
          exact hm.not_delete ⟨ht ▸ hevents, h4⟩
        · exact Or.inr ht
      rcases hnone with hnone | ht
      · rw [if_neg h0, if_neg hop, if_neg hnone, ite_self, ite_self]
      · rw [if_pos ht]

/-- A message writes the records 1 to 8 of its table only. -/
theorem handle_writes (hm : m.Handled) :
    WritesPages m.table.slots s.device (m.handle linkNum s).device := by
  by_cases hop : m.rx 13 ≤ 3
  · obtain ⟨t, rx⟩ := m
    have hnum (h0 : rx 13 ≠ 0) :
        1 ≤ (rx 15).toNat ∧ (rx 15).toNat ≤ 8 := by
      obtain ⟨hlo, hhi, -⟩ := hm.fits h0 hop
      exact ⟨hlo, hhi⟩
    cases t with
    | events =>
        refine (AppState.case8301_writes rx s).mono fun p hp => ?_
        rw [AppState.eventPages] at hp
        split at hp
        next => exact hp
        next h0 =>
          have h := hnum h0
          subst hp
          exact ⟨by omega, by omega⟩
    | menu =>
        refine (AppState.case8303_writes rx s).mono fun p hp => ?_
        rw [AppState.msgBroadCastPages] at hp
        split at hp
        next => exact hp
        next h0 =>
          have h := hnum h0
          subst hp
          exact ⟨by omega, by omega⟩
  · exact .of_eq (handle_device_of_not_le hop hm.not_delete)

end ItemMsg

/-! ## Runs -/

/-- The state behind a sequence of messages. -/
def runItems (linkNum : ℕ) (s : AppState) (ms : List ItemMsg) : AppState :=
  ms.foldl (ItemMsg.handle linkNum) s

/-- What a sequence of messages makes of the items stored before. -/
def itemsDescribed (d : Device) (ms : List ItemMsg) :
    ItemTable → ℕ → Option StoredItem :=
  ms.foldl ItemMsg.apply (ItemTable.entry d)

/-- The records 1 to 8 hold the items the messages describe, and every message
wrote only such records of its own table. -/
def ItemsStored (linkNum : ℕ) (s : AppState) (ms : List ItemMsg) : Prop :=
  (∀ t n, 1 ≤ n → n ≤ 8 →
    ItemTable.entry (runItems linkNum s ms).device t n =
      itemsDescribed s.device ms t n) ∧
  ∀ pre m post, ms = pre ++ m :: post →
    WritesPages m.table.slots (runItems linkNum s pre).device
      (m.handle linkNum (runItems linkNum s pre)).device

theorem ItemMsg.apply_congr (m : ItemMsg) {f g : ItemTable → ℕ → Option StoredItem}
    {t : ItemTable} {n : ℕ} (h : f t n = g t n) :
    m.apply f t n = m.apply g t n := by
  rw [apply, apply, h]

/-- After any sequence of messages that set items within their bounds, or delete
all of them, the tables hold the items described. -/
theorem itemsStored_of_handled (linkNum : ℕ) (s : AppState)
    (ms : List ItemMsg) (hwf : ∀ m ∈ ms, m.WellFormed)
    (hm : ∀ m ∈ ms, m.Handled) : ItemsStored linkNum s ms := by
  constructor
  · induction ms using List.reverseRecOn with
    | nil => exact fun _ _ _ _ => rfl
    | append_singleton ms m ih =>
        rw [List.forall_mem_append, List.forall_mem_singleton] at hwf hm
        intro t n hlo hhi
        have hrun : runItems linkNum s (ms ++ [m]) =
            m.handle linkNum (runItems linkNum s ms) := by
          rw [runItems, List.foldl_append]
          rfl
        rw [hrun, ItemMsg.entry_handle hwf.2 hm.2 t hlo hhi, itemsDescribed,
          List.foldl_append]
        exact m.apply_congr (ih hwf.1 hm.1 t n hlo hhi)
  · rintro pre m post rfl
    exact ItemMsg.handle_writes (hm m (by simp))

/-- Event 2 with the text of one byte. -/
def eventTwo (op : UInt8) : ItemMsg where
  table := .events
  rx
    | 13 => op
    | 14 => 1
    | 15 => 2
    | 16 => 1
    | 17 => 0x41
    | _ => 0

theorem handled_eventTwo : (eventTwo 1).Handled :=
  ⟨by decide, by decide⟩

/-- Item 5 of the menu with the text of two bytes. -/
def menuFive (op : UInt8) : ItemMsg where
  table := .menu
  rx
    | 13 => op
    | 14 => 1
    | 15 => 5
    | 17 => 2
    | 18 => 0x42
    | 19 => 0x43
    | _ => 0

theorem handled_menuFive : (menuFive 2).Handled :=
  ⟨by decide, by decide⟩

/-- All events deleted. -/
def noEvents : ItemMsg := ⟨.events, fun _ => 0⟩

theorem handled_noEvents : noEvents.Handled :=
  ⟨by decide, fun hop => absurd rfl hop⟩

/-- Event 2 and item 5 of the menu set on a fresh device, all events deleted and
event 2 set again. -/
theorem itemsStored_of_handled_eventTwo :
    ItemsStored 0 {} [eventTwo 1, menuFive 2, noEvents, eventTwo 3] := by
  refine itemsStored_of_handled 0 {} _ ?_ ?_
  · rw [List.forall_mem_cons, List.forall_mem_cons, List.forall_mem_cons,
      List.forall_mem_singleton]
    exact ⟨Or.inr rfl, Or.inr rfl, Or.inl rfl, Or.inr rfl⟩
  · rw [List.forall_mem_cons, List.forall_mem_cons, List.forall_mem_cons,
      List.forall_mem_singleton]
    exact ⟨handled_eventTwo, handled_menuFive, handled_noEvents,
      by decide, by decide⟩

/-- Deleting event 2 sets it. -/
theorem not_itemsStored_delete :
    ¬ ∀ (s : AppState) (ms : List ItemMsg), (∀ m ∈ ms, m.WellFormed) →
      ItemsStored 0 s ms := by
  intro h
  have hstored := (h {} [eventTwo 4]
    (List.forall_mem_singleton.mpr (Or.inr rfl))).1 .events 2 (by decide)
    (by decide)
  obtain ⟨buffer, hsize, hitem, hdevice⟩ := AppState.case8301_sets
    (eventTwo 4).rx {} (by decide) (by decide) rfl (by decide)
  have hrun : runItems 0 {} [eventTwo 4] =
      AppState.case8301 (eventTwo 4).rx {} := rfl
  rw [hrun, hdevice, ItemTable.entry_write _ .events (by decide) (by decide)
    hsize, hitem, if_pos (by decide)] at hstored
  exact absurd hstored (by simp [itemsDescribed, ItemMsg.apply, eventTwo])

end VehicleRecorder.Protocol
