import VehicleRecorder.Protocol.TcpRxProcess

/-!
# The records a message writes

The handlers change the flash through `Api_RecordNum_Write` only.  For every
message the pages are given that it can write; all other records stay as they
are.
-/

namespace VehicleRecorder.Protocol

open Bytes Dataflash

/-! ## Pages written -/

/-- The pages from `a` to `b`. -/
def pages (a b page : ℕ) : Prop := a ≤ page ∧ page ≤ b

instance (a b page : ℕ) : Decidable (pages a b page) :=
  inferInstanceAs (Decidable (_ ∧ _))

/-- A record of a length that `DF_WriteFlash` keeps with the other pages of its
sector, or a text. -/
def FitsPage (w : NumberedWrite) : Prop :=
  w.buffer.length ≤ dfBakSize ∨ pages 1433 1440 w.page

/-- One device comes from another by writes of records into certain pages. -/
def WritesPages (P : ℕ → Prop) (d d' : Device) : Prop :=
  ∃ ws : List NumberedWrite,
    (∀ w ∈ ws, P w.page ∧ FitsPage w) ∧ d' = writeNumbered d ws

namespace WritesPages

variable {P Q : ℕ → Prop} {d d' d'' : Device}

theorem refl (d : Device) : WritesPages P d d := ⟨[], nofun, rfl⟩

theorem of_eq (h : d' = d) : WritesPages P d d' := ⟨[], nofun, h⟩

theorem write {name : RecordName} {recNum : ℕ} (h : P (name.writePage + recNum))
    (d : Device) {buffer : List UInt8}
    (hfits : FitsPage ⟨name, recNum, buffer⟩) :
    WritesPages P d (apiRecordNumWrite d name recNum buffer) :=
  ⟨[⟨name, recNum, buffer⟩], List.forall_mem_singleton.mpr ⟨h, hfits⟩, rfl⟩

theorem mono (h : WritesPages P d d') (hPQ : ∀ p, P p → Q p) :
    WritesPages Q d d' := by
  obtain ⟨ws, hws, rfl⟩ := h
  exact ⟨ws, fun w hw => ⟨hPQ _ (hws w hw).1, (hws w hw).2⟩, rfl⟩

theorem trans (h : WritesPages P d d') (h' : WritesPages P d' d'') :
    WritesPages P d d'' := by
  obtain ⟨ws, hws, rfl⟩ := h
  obtain ⟨ws', hws', rfl⟩ := h'
  refine ⟨ws ++ ws', List.forall_mem_append.mpr ⟨hws, hws'⟩, ?_⟩
  rw [writeNumbered, writeNumbered, writeNumbered, List.foldl_append]

theorem foldl {α : Type*} {step : AppState → α → AppState} {l : List α}
    (h : ∀ s, ∀ a ∈ l, WritesPages P s.device (step s a).device)
    {s : AppState} (hd : s.device = d) :
    WritesPages P d (l.foldl step s).device := by
  subst hd
  induction l generalizing s with
  | nil => exact refl _
  | cons a l ih =>
      have hhead := h s a List.mem_cons_self
      have htail : WritesPages P (step s a).device
          (l.foldl step (step s a)).device :=
        ih fun s b hb => h s b (List.mem_cons_of_mem a hb)
      exact hhead.trans htail

/-- Behind the texts, a page that is not written stays as it is. -/
theorem pageTable_eq (h : WritesPages P d d') {page i : ℕ}
    (hi : i < dfBakSize) (hpage : 1448 ≤ page) (hP : ¬ P page)
    (hlt : ∀ p, P p → p < 8192) :
    pageTable d'.chip page i = pageTable d.chip page i := by
  obtain ⟨ws, hws, rfl⟩ := h
  induction ws using List.reverseRecOn with
  | nil => rfl
  | append_singleton ws w ih =>
      rw [List.forall_mem_append, List.forall_mem_singleton] at hws
      obtain ⟨hw, hfits⟩ := hws.2
      have hne : page ≠ w.page := fun heq => hP (heq ▸ hw)
      have hwlt := hlt _ hw
      rw [NumberedWrite.page] at hne hwlt
      rw [writeNumbered_concat, ← ih hws.1]
      rcases hfits with hlen | ⟨-, htext⟩
      · rw [pageTable_apiRecordNumWrite _ hwlt hlen hi]
        exact if_neg hne
      · rw [NumberedWrite.page] at htext
        rw [apiRecordNumWrite, Device.issue_chip]
        exact pageTable_dfWriteFlash_of_ne _ _ hwlt
          (Nat.lt_trans hi (by decide)) (by omega)

end WritesPages

namespace AppState

variable {P : ℕ → Prop} (rx : ℕ → UInt8) (s : AppState)

theorem bytes_records (s : AppState) (records : Records) (d : Arr) :
    ({ s with records := records } : AppState).bytes d = s.bytes d := by
  rw [bytes, bytes]

theorem bytes_memcpy (s : AppState) (d : Arr) (rx : ℕ → UInt8) (src : ℕ)
    (hd : d.size = 6) : (s.memcpy d rx src 6).bytes d = readBytes rx src 6 := by
  have hcopy : (s.memcpy d rx src 6).mem d =
      overlay (s.mem d) (readBytes rx src 6) :=
    Function.update_self d _ s.mem
  rw [bytes, hcopy, hd]
  rfl

theorem bytes_memcpy_of_ne (s : AppState) {d d' : Arr} (hne : d' ≠ d)
    (rx : ℕ → UInt8) (src : ℕ) (len : ℤ) :
    (s.memcpy d rx src len).bytes d' = s.bytes d' := by
  have hmem : (s.memcpy d rx src len).mem d' = s.mem d' :=
    Function.update_of_ne hne _ s.mem
  rw [bytes, hmem, bytes]

/-! The records are shorter than what `DF_WriteFlash` keeps. -/

theorem eventBytes_length : s.eventBytes.length = 23 := by
  simp only [eventBytes, List.length_append, bytes_length, List.length_cons,
    List.length_nil, Arr.size]

theorem askBytes_length : s.askBytes.length = 68 := by
  simp only [askBytes, List.length_append, bytes_length, leBytes_length,
    List.length_cons, List.length_nil, Arr.size]

theorem msgBroadCastBytes_length : s.msgBroadCastBytes.length = 38 := by
  simp only [msgBroadCastBytes, List.length_append, bytes_length,
    leBytes_length, List.length_cons, List.length_nil, Arr.size]

theorem phoneBookBytes_length (o : PhoneBook) :
    (phoneBookBytes o (s.bytes .numberStr) (s.bytes .userStr)).length =
      34 := by
  simp only [phoneBookBytes, List.length_append, bytes_length,
    List.length_cons, List.length_nil, Arr.size]

theorem railCycleBytes_length : s.railCycleBytes.length = 40 := by
  simp only [railCycleBytes, List.length_append, leBytes_length, bytes_length,
    Arr.size, List.length_cons, List.length_nil]

theorem railRectangleBytes_length : s.railRectangleBytes.length = 44 := by
  simp only [railRectangleBytes, List.length_append, leBytes_length,
    bytes_length, Arr.size, List.length_cons, List.length_nil]

theorem railPolygenBytes_length : s.railPolygenBytes.length = 52 := by
  simp only [railPolygenBytes, List.length_append, leBytes_length,
    bytes_length, Arr.size, List.length_cons, List.length_nil]

theorem routePointBytes_length (p : RoutePoint) :
    (routePointBytes p).length = 28 := by
  simp only [routePointBytes, List.length_append, leBytes_length,
    List.length_cons, List.length_nil]

theorem routeBytes_length : s.routeBytes.length = 108 := by
  simp only [routeBytes, List.length_append, leBytes_length, bytes_length,
    Arr.size, List.length_cons, List.length_nil, List.length_flatMap,
    routePointBytes_length]
  rfl

/-! The devices in front of a write are given apart, for the states there
differ from `s` in other members. -/

variable {s} {d : Device}

theorem recordNumWrite_writes {name : RecordName} {recNum : ℕ}
    {record : List UInt8} (hd : s.device = d)
    (hfits : FitsPage ⟨name, recNum, record⟩)
    (h : P (name.writePage + recNum)) :
    WritesPages P d (s.recordNumWrite name recNum record).device :=
  hd ▸ WritesPages.write h s.device hfits

theorem fitsPage_of_length {name : RecordName} {recNum n : ℕ}
    {record : List UInt8} (hlen : record.length = n) (hn : n ≤ dfBakSize) :
    FitsPage ⟨name, recNum, record⟩ := Or.inl (hlen.trans_le hn)

theorem writeEvent_writes (hd : s.device = d)
    (h : P (1424 + s.records.eventObj.eventId.toNat)) :
    WritesPages P d s.writeEvent.device :=
  recordNumWrite_writes hd
    (fitsPage_of_length s.eventBytes_length (by decide)) h

theorem writeMsgBroadCast_writes (hd : s.device = d)
    (h : P (7300 + s.records.msgBroadCastObj.infoType.toNat)) :
    WritesPages P d s.writeMsgBroadCast.device :=
  recordNumWrite_writes hd
    (fitsPage_of_length s.msgBroadCastBytes_length (by decide)) h

theorem writeRailCycle_writes (hd : s.device = d)
    (h : P (1424 + s.records.railCycle.areaId)) :
    WritesPages P d s.writeRailCycle.device :=
  recordNumWrite_writes hd
    (fitsPage_of_length s.railCycleBytes_length (by decide)) h

theorem writeRailRectangle_writes (hd : s.device = d)
    (h : P (6000 + s.records.railRectangle.areaId)) :
    WritesPages P d s.writeRailRectangle.device :=
  recordNumWrite_writes hd
    (fitsPage_of_length s.railRectangleBytes_length (by decide)) h

theorem writeRailPolygen_writes (hd : s.device = d)
    (h : P (1464 + s.records.railPolygen.areaId)) :
    WritesPages P d s.writeRailPolygen.device :=
  recordNumWrite_writes hd
    (fitsPage_of_length s.railPolygenBytes_length (by decide)) h

theorem writeRoute_writes (hd : s.device = d)
    (h : P (7400 + s.records.routeObj.routeId)) :
    WritesPages P d s.writeRoute.device :=
  recordNumWrite_writes hd
    (fitsPage_of_length s.routeBytes_length (by decide)) h

variable (s)

theorem keepText_writes (len : ℤ) :
    WritesPages (pages 1433 1440) s.device (s.keepText rx len).device := by
  rw [keepText]
  split
  · have hpage (n : ℕ) : pages 1433 1440
        (RecordName.textMsg.writePage + if n % 8 ≠ 0 then n % 8 else 8) := by
      rw [pages, RecordName.writePage, dfMsgPage]
      split <;> omega
    exact recordNumWrite_writes rfl (Or.inr (hpage _)) (hpage _)
  · exact .refl _

theorem playText_device (len : ℤ) : (s.playText rx len).device = s.device := by
  rw [playText]
  split
  · rw [ttsGetData]
    dsimp only
    split <;> rfl
  · rfl

theorem case8300_writes :
    WritesPages (pages 1433 1440) s.device (s.case8300 rx).device := by
  have h := keepText_writes rx
    (({ s with texts.textFlag := rx 13 } : AppState).playText rx
      (infolen rx - 1)) (infolen rx - 1)
  rw [playText_device] at h
  exact h

theorem ofNat_succ_pages {base i : ℕ} (hi : i ∈ List.range 8) :
    pages (base + 1) (base + 8) (base + (UInt8.ofNat (i + 1)).toNat) := by
  have hlt := List.mem_range.mp hi
  have hnum : (UInt8.ofNat (i + 1)).toNat = i + 1 := Nat.mod_eq_of_lt (by omega)
  rw [pages, hnum]
  omega

theorem succ_pages {base i : ℕ} (hi : i ∈ List.range 8) :
    pages (base + 1) (base + 8) (base + (i + 1)) := by
  have hlt := List.mem_range.mp hi
  rw [pages]
  omega

theorem eventInit_writes :
    WritesPages (pages 1425 1432) s.device s.eventInit.device := by
  refine WritesPages.foldl (fun s i hi => ?_) rfl
  exact writeEvent_writes rfl (ofNat_succ_pages hi)

theorem msgBroadCastInit_writes :
    WritesPages (pages 7301 7308) s.device s.msgBroadCastInit.device := by
  refine WritesPages.foldl (fun s i hi => ?_) rfl
  exact writeMsgBroadCast_writes rfl (ofNat_succ_pages hi)

theorem railCycleInit_writes :
    WritesPages (pages 1424 1432) s.device s.railCycleInit.device := by
  refine WritesPages.foldl (fun s i hi => ?_) rfl
  refine writeRailCycle_writes rfl ?_
  have h : pages (1424 + 1) (1424 + 8) _ := succ_pages hi
  exact ⟨Nat.le_of_succ_le h.1, h.2⟩

theorem railRectInit_writes :
    WritesPages (pages 6001 6008) s.device s.railRectInit.device := by
  refine WritesPages.foldl (fun s i hi => ?_) rfl
  exact writeRailRectangle_writes rfl (succ_pages hi)

theorem railPolygenInit_writes :
    WritesPages (pages 1465 1472) s.device s.railPolygenInit.device := by
  refine WritesPages.foldl (fun s i hi => ?_) rfl
  exact writeRailPolygen_writes rfl (succ_pages hi)

theorem routeLineInit_writes :
    WritesPages (pages 7401 7416) s.device s.routeLineInit.device := by
  refine WritesPages.foldl (fun s i hi => ?_) rfl
  refine writeRoute_writes rfl ?_
  have h : pages (7400 + 1) (7400 + 8) _ := succ_pages hi
  exact ⟨h.1, Nat.le_trans h.2 (by decide)⟩

/-! ## The handlers -/

theorem ack_device : s.ack.device = s.device := rfl

/-- The pages written by a message that sets an event. -/
def eventPages (rx : ℕ → UInt8) : ℕ → Prop :=
  if rx 13 = 0 then pages 1425 1432 else (· = 1424 + (rx 15).toNat)

theorem case8301_writes :
    WritesPages (eventPages rx) s.device (s.case8301 rx).device := by
  rw [case8301, eventPages, ack_device]
  split
  next h0 => exact eventInit_writes s
  next h0 =>
    split
    · split
      · exact .refl _
      · exact writeEvent_writes rfl rfl
    · exact .refl _

theorem case8302_writes :
    WritesPages (· = 7601) s.device (s.case8302 rx).device := by
  rw [case8302, ack_device]
  exact recordNumWrite_writes rfl
    (fitsPage_of_length (askBytes_length _) (by decide)) rfl

/-- The pages written by a message that sets a menu entry. -/
def msgBroadCastPages (rx : ℕ → UInt8) : ℕ → Prop :=
  if rx 13 = 0 then pages 7301 7308 else (· = 7300 + (rx 15).toNat)

theorem case8303_writes :
    WritesPages (msgBroadCastPages rx) s.device (s.case8303 rx).device := by
  rw [case8303, msgBroadCastPages, ack_device]
  split
  next h0 => exact msgBroadCastInit_writes s
  next h0 =>
    split
    · split
      · exact .refl _
      · exact writeMsgBroadCast_writes rfl rfl
    · exact .refl _

theorem replacePhoneBook_writes (n i : ℕ) (hn : i + n = 8) {d : Device}
    (hd : s.device = d) :
    WritesPages (pages 1441 1448) d (replacePhoneBook n i s).device := by
  induction n generalizing i s with
  | zero => exact .of_eq hd
  | succ n ih =>
      rw [replacePhoneBook]
      dsimp only
      split
      · refine recordNumWrite_writes hd
          (fitsPage_of_length (phoneBookBytes_length _ _) (by decide)) ?_
        rw [pages, RecordName.writePage, dfPhoneBookPage]
        omega
      · exact ih _ _ (by omega) hd

theorem case8401_writes :
    WritesPages (pages 1441 1448) s.device (s.case8401 rx).device := by
  rw [case8401, ack_device]
  split
  · exact replacePhoneBook_writes _ 8 0 rfl rfl
  · exact replacePhoneBook_writes _ 8 0 rfl rfl
  · exact .refl _
  · exact .refl _

theorem areaNumber_of_mem {max id : ℕ} (hlo : 1 ≤ id) (hhi : id ≤ max) :
    areaNumber max id = id := if_neg (by omega)

theorem areaNumber_pages {base max : ℕ} (hmax : 1 ≤ max) (id : ℕ) :
    pages (base + 1) (base + max) (base + areaNumber max id) := by
  rw [pages, areaNumber]
  split <;> omega

theorem areaNumber_cycle_pages (id : ℕ) :
    pages 1424 1432 (1424 + areaNumber 8 id) := by
  have h : pages (1424 + 1) (1424 + 8) _ := areaNumber_pages (by decide) id
  exact ⟨Nat.le_of_succ_le h.1, h.2⟩

theorem zero_pages : pages 1424 1432 (1424 + 0) := by decide

theorem case8600_writes :
    WritesPages (pages 1424 1432) s.device (s.case8600 rx).device := by
  rw [case8600, ack_device]
  split
  · split
    · refine .trans (WritesPages.foldl (fun s _ _ => ?_) rfl)
        (writeRailCycle_writes rfl (areaNumber_cycle_pages _))
      exact writeRailCycle_writes rfl zero_pages
    · exact writeRailCycle_writes rfl (areaNumber_cycle_pages _)
  · exact .refl _

theorem deleteLoop_writes {delete : ℕ → AppState → AppState} {d : Device}
    (h : ∀ i < (rx 13).toNat, ∀ s,
      WritesPages P s.device (delete (be32 rx (14 + i)) s).device)
    (hd : s.device = d) :
    WritesPages P d (deleteLoop delete rx s).device :=
  WritesPages.foldl (fun s i hi => h i (List.mem_range.mp hi) s) hd

theorem case8601_writes :
    WritesPages (pages 1424 1432) s.device (s.case8601 rx).device := by
  rw [case8601, ack_device]
  split
  · exact railCycleInit_writes s
  · refine deleteLoop_writes rx _ (fun i hi s => ?_) rfl
    exact writeRailCycle_writes rfl (areaNumber_cycle_pages _)

theorem case8602_writes :
    WritesPages (pages 6001 6008) s.device (s.case8602 rx).device := by
  rw [case8602, ack_device]
  split
  · exact writeRailRectangle_writes rfl (areaNumber_pages (by decide) _)
  · exact .refl _

theorem case8603_writes :
    WritesPages (pages 6001 6008) s.device (s.case8603 rx).device := by
  rw [case8603, ack_device]
  split
  · exact railRectInit_writes s
  · refine deleteLoop_writes rx _ (fun i hi s => ?_) rfl
    exact writeRailRectangle_writes rfl (areaNumber_pages (by decide) _)

theorem case8604_writes :
    WritesPages (pages 1465 1472) s.device (s.case8604 rx).device := by
  rw [case8604, ack_device]
  split
  · exact writeRailPolygen_writes rfl (areaNumber_pages (by decide) _)
  · exact .refl _

theorem case8605_writes :
    WritesPages (pages 1465 1472) s.device (s.case8605 rx).device := by
  rw [case8605, ack_device]
  split
  · exact railPolygenInit_writes s
  · refine deleteLoop_writes rx _ (fun i hi s => ?_) rfl
    exact writeRailPolygen_writes rfl (areaNumber_pages (by decide) _)

theorem routeLoop_device (n i r : ℕ) :
    (routeLoop rx n i r s).device = s.device := by
  induction n generalizing i r s with
  | zero => rfl
  | succ n ih =>
      rw [routeLoop, ih]

theorem routeLoop_routeId (n i r : ℕ) :
    (routeLoop rx n i r s).records.routeObj.routeId =
      s.records.routeObj.routeId := by
  induction n generalizing i r s with
  | zero => rfl
  | succ n ih => rw [routeLoop, ih]

/-- The page written by a message that sets a route. -/
def setRoutePage (rx : ℕ → UInt8) (page : ℕ) : Prop :=
  page = 7400 + areaNumber 16 (be32 rx 13)

theorem case8606_writes :
    WritesPages (setRoutePage rx) s.device (s.case8606 rx).device := by
  rw [case8606]
  dsimp only
  split
  · exact .refl _
  · rw [ack_device]
    refine writeRoute_writes ?_ ?_
    · exact routeLoop_device rx _ 6 0 33
    · rw [setRoutePage, routeLoop_routeId]

/-- The pages written by a message that deletes routes. -/
def deleteRoutePages (rx : ℕ → UInt8) (page : ℕ) : Prop :=
  if rx 13 = 0 then pages 7401 7416 page
  else ∃ i < (rx 13).toNat, page = 7400 + areaNumber 16 (be32 rx (14 + i))

theorem case8607_writes :
    WritesPages (deleteRoutePages rx) s.device (s.case8607 rx).device := by
  rw [case8607, ack_device]
  split
  next h0 =>
    refine (routeLineInit_writes s).mono fun p hp => ?_
    rw [deleteRoutePages, if_pos h0]
    exact hp
  next h0 =>
    have hpages (i : ℕ) (hi : i < (rx 13).toNat) :
        deleteRoutePages rx (7400 + areaNumber 16 (be32 rx (14 + i))) := by
      rw [deleteRoutePages, if_neg h0]
      exact ⟨i, hi, rfl⟩
    refine deleteLoop_writes rx _ (fun i hi s => ?_) rfl
    exact writeRoute_writes rfl (hpages i hi)

/-! Handlers that write no record. -/

section Device

variable (infolen : UInt8) (content : ℕ → UInt8)

theorem setDword_device {put : ℕ → AppState}
    (h : ∀ v, (put v).device = s.device) :
    (s.setDword infolen content put).device = s.device := by
  rw [setDword]
  split
  · rfl
  · exact h _

theorem setListenNum_device :
    (s.setListenNum infolen content).device = s.device := by
  rw [setListenNum]
  split <;> rfl

theorem centreSetSubService8103H_device (subId : ℕ) :
    (centreSetSubService8103H subId infolen content s).device =
      s.device := by
  rw [centreSetSubService8103H.eq_def]
  split
  case h_6 =>
    rw [setApn]
    split <;> rfl
  case h_7 =>
    rw [setMainServer]
    dsimp only
    split <;> rfl
  case h_8 =>
    rw [setAuxServer]
    dsimp only
    split <;> rfl
  case h_20 =>
    split
    · rfl
    · exact setListenNum_device _ infolen content
  case h_21 => exact setListenNum_device s infolen content
  case h_22 =>
    split
    · rfl
    · exact setListenNum_device s infolen content
  all_goals
    first
    | exact setDword_device s infolen content fun v => rfl
    | rfl
    | split <;> rfl

theorem centreSetSubServiceFF01H_device (subId : ℕ) :
    (centreSetSubServiceFF01H subId infolen content s).device =
      s.device := by
  rw [centreSetSubServiceFF01H.eq_def]
  split
  case h_8 => rfl
  all_goals
    apply setDword_device
    intro v
    first
    | rfl
    | dsimp only; split <;> rfl

theorem centreSetSubServiceFF03H_device (subId : ℕ) :
    (centreSetSubServiceFF03H subId infolen content s).device =
      s.device := by
  rw [centreSetSubServiceFF03H.eq_def]
  split
  · rw [setCanFilter]
    split
    · rfl
    · dsimp only
      split <;> rfl
  · rfl
  · rfl

theorem run_device (sub : SubService) (subId : ℕ) :
    (sub.run subId infolen content s).device = s.device := by
  cases sub with
  | sub8103H => exact centreSetSubService8103H_device s infolen content _
  | subFF01H => exact centreSetSubServiceFF01H_device s infolen content _
  | subFF03H => exact centreSetSubServiceFF03H_device s infolen content _

theorem parameterLoop_device (sub : SubService) (n c : ℕ) :
    (parameterLoop sub rx n c s).device = s.device := by
  induction n generalizing c s with
  | zero => rfl
  | succ n ih =>
      rw [parameterLoop, ih, serveItem, run_device]
      cases sub <;> rfl

end Device

theorem case8001_device : (s.case8001 rx).device = s.device := by
  rw [case8001]
  split
  · split
    · rfl
    · rw [ackPosition]
      dsimp only
      repeat' split
      all_goals rfl
  · rfl
  · split <;> rfl
  · split
    · dsimp only
      split <;> rfl
    · rfl
  · rfl

theorem case8100_device : (s.case8100 rx).device = s.device := by
  rw [case8100]
  split
  · rfl
  · split
    · rfl
    · split <;> rfl
  · rfl

theorem case8103_device : (s.case8103 rx).device = s.device := by
  have h := parameterLoop_device rx s .sub8103H (rx 13).toNat 14
  rw [case8103]
  dsimp only
  split
  · exact h
  · split <;> exact h

theorem case8105_device : (s.case8105 rx).device = s.device := by
  have h : (centreSetSubService8105H (rx 13) s).device = s.device := by
    rw [centreSetSubService8105H.eq_def]
    split <;> rfl
  rw [case8105]
  split
  · exact h
  · exact h

theorem case8400_device : (s.case8400 rx).device = s.device := by
  rw [case8400]
  split
  · rfl
  · split <;> rfl

theorem case8701_device : (s.case8701 rx).device = s.device := by
  rw [case8701, centerSetSubService8701H.eq_def]
  split <;> rfl

theorem case8800_device : (s.case8800 rx).device = s.device := by
  rw [case8800]
  split
  · dsimp only
    split <;> rfl
  · split <;> rfl

theorem case8801_device : (s.case8801 rx).device = s.device := by
  rw [case8801]
  dsimp only
  split
  · split <;> rfl
  · rfl

theorem case8802_device : (s.case8802 rx).device = s.device := by
  rw [case8802]
  dsimp only
  split <;> rfl

theorem case8803_device : (s.case8803 rx).device = s.device := by
  rw [case8803, ack_device]
  split <;> rfl

theorem case8804_device : (s.case8804 rx).device = s.device := by
  rw [case8804, ack_device]
  split
  · rw [vocRecStart]
    split <;> rfl
  · rfl

theorem case8900_device (linkNum : ℕ) :
    (s.case8900 linkNum rx).device = s.device := by
  rw [case8900]
  split
  · rfl
  · split
    · rw [nullpro8900H]
      split <;> rfl
    · rfl

/-! ## The command switch -/

/-- The pages a message can write. -/
def messagePages (rx : ℕ → UInt8) : ℕ → ℕ → Prop
  | 0x8300 => pages 1433 1440
  | 0x8301 => eventPages rx
  | 0x8302 => (· = 7601)
  | 0x8303 => msgBroadCastPages rx
  | 0x8401 => pages 1441 1448
  | 0x8600 => pages 1424 1432
  | 0x8601 => pages 1424 1432
  | 0x8602 => pages 6001 6008
  | 0x8603 => pages 6001 6008
  | 0x8604 => pages 1465 1472
  | 0x8605 => pages 1465 1472
  | 0x8606 => setRoutePage rx
  | 0x8607 => deleteRoutePages rx
  | _ => fun _ => False

/-- A message writes no other pages. -/
theorem commandSwitch_writes (cmdId linkNum : ℕ) :
    WritesPages (messagePages rx cmdId) s.device
      (s.commandSwitch cmdId linkNum rx).device := by
  rw [commandSwitch.eq_def]
  split
  · exact .of_eq (case8001_device rx s)
  · exact .of_eq (case8100_device rx s)
  · exact .of_eq (case8103_device rx s)
  · exact .of_eq rfl
  · exact .of_eq (case8105_device rx s)
  · exact .of_eq rfl
  · exact .of_eq rfl
  · exact case8300_writes rx s
  · exact case8301_writes rx s
  · exact case8302_writes rx s
  · exact case8303_writes rx s
  · exact .of_eq rfl
  · exact .of_eq (case8400_device rx s)
  · exact case8401_writes rx s
  · exact .of_eq rfl
  · exact case8600_writes rx s
  · exact case8601_writes rx s
  · exact case8602_writes rx s
  · exact case8603_writes rx s
  · exact case8604_writes rx s
  · exact case8605_writes rx s
  · exact case8606_writes rx s
  · exact case8607_writes rx s
  · exact .of_eq rfl
  · exact .of_eq (case8701_device rx s)
  · exact .of_eq (case8800_device rx s)
  · exact .of_eq (case8801_device rx s)
  · exact .of_eq (case8802_device rx s)
  · exact .of_eq (case8803_device rx s)
  · exact .of_eq (case8804_device rx s)
  · exact .of_eq rfl
  · exact .of_eq (case8900_device rx s linkNum)
  · exact .of_eq rfl
  · exact .of_eq (parameterLoop_device rx s .subFF01H _ 14)
  · exact .of_eq rfl
  · exact .of_eq (parameterLoop_device rx s .subFF03H _ 14)
  · exact .of_eq rfl

end AppState

end VehicleRecorder.Protocol
