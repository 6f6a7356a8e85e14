import VehicleRecorder.Protocol.TcpRxProcess

/-!
# Copies and their destinations

Most handlers of downlink messages take the length of a copy from the header or
from a field of the message and do not compare it with the size of the
destination.  Here it is worked out for each of them which messages keep all
copies inside.
-/

namespace VehicleRecorder.Protocol

open Bytes

/-- The destinations of the handlers in question. -/
def copyDests : List Arr :=
  [.confirmCode, .textContent, .playInfo, .eventStr, .askInfo, .askAnswer,
    .infoStr, .listenNum, .numberStr, .userStr, .routePoints, .mediaReSdList,
    .dataRx]

/-- The stores into these destinations. -/
def copies (l : List Store) : List Store :=
  l.filter fun st => st.dest ∈ copyDests

@[simp] theorem copies_append (l l' : List Store) :
    copies (l ++ l') = copies l ++ copies l' := List.filter_append ..

/-- No store of the list leaves its array. -/
def AllFit (l : List Store) : Prop := ∀ st ∈ l, st.Fits

instance (l : List Store) : Decidable (AllFit l) :=
  inferInstanceAs (Decidable (∀ st ∈ l, st.Fits))

@[simp] theorem allFit_nil : AllFit [] := nofun

@[simp] theorem allFit_cons (st : Store) (l : List Store) :
    AllFit (st :: l) ↔ st.Fits ∧ AllFit l := List.forall_mem_cons

@[simp] theorem allFit_append (l l' : List Store) :
    AllFit (l ++ l') ↔ AllFit l ∧ AllFit l' := List.forall_mem_append

namespace AppState

/-! ## The log of stores -/

section Stores

variable (s : AppState) (d : Arr) (f : ℕ → UInt8) (src : ℕ) (len : ℤ)

@[simp] theorem store_stores (xs : List UInt8) :
    (s.store d xs len).stores = s.stores ++ [⟨d, 0, len⟩] := rfl

@[simp] theorem memset_stores (n : ℕ) :
    (s.memset d n).stores = s.stores ++ [⟨d, 0, n⟩] := rfl

@[simp] theorem memcpy_stores :
    (s.memcpy d f src len).stores = s.stores ++ [⟨d, 0, len⟩] := rfl

@[simp] theorem saveJT808_stores : s.saveJT808.stores = s.stores := rfl

@[simp] theorem ack_stores : s.ack.stores = s.stores := rfl

@[simp] theorem recordNumWrite_stores (name : Dataflash.RecordName)
    (recNum : ℕ) (record : List UInt8) :
    (s.recordNumWrite name recNum record).stores = s.stores := by
  dsimp only [recordNumWrite]

@[simp] theorem storeGb_stores :
    (s.storeGb d f src len).stores =
      s.stores ++ [⟨d, 0, (asciiToGb f src len).length⟩] := rfl

@[simp] theorem mediaClearState_stores :
    s.mediaClearState.stores = s.stores := rfl

theorem foldl_stores {α : Type*} {step : AppState → α → AppState}
    (h : ∀ s a, (step s a).stores = s.stores) (l : List α) (s : AppState) :
    (l.foldl step s).stores = s.stores := by
  induction l generalizing s with
  | nil => rfl
  | cons a l ih => rw [List.foldl_cons, ih, h]

@[simp] theorem eventInit_stores :
    s.eventInit.stores = s.stores ++ [⟨.eventStr, 0, 20⟩] := by
  refine (foldl_stores ?_ _ _).trans rfl
  intro s i
  exact recordNumWrite_stores _ _ _ _

@[simp] theorem msgBroadCastInit_stores :
    s.msgBroadCastInit.stores = s.stores ++ [⟨.infoStr, 0, 30⟩] := by
  refine (foldl_stores ?_ _ _).trans rfl
  intro s i
  exact recordNumWrite_stores _ _ _ _

/-! Stores into other arrays. -/

@[simp] theorem ttsGetData_copies :
    copies (s.ttsGetData f src len).stores = copies s.stores := by
  rw [ttsGetData]
  dsimp only
  split
  · simp [copies, copyDests]
  · simp [copies, copyDests]

@[simp] theorem showText_copies :
    copies (s.showText f src len).stores = copies s.stores := by
  simp [showText, copies, copyDests]

@[simp] theorem textmsgWrite_copies (num newState n : UInt8) :
    copies (s.textmsgWrite num newState n).stores = copies s.stores := by
  simp [textmsgWrite, copies, copyDests]

@[simp] theorem readPhoneBook_copies (recNum : ℕ) :
    copies (s.readPhoneBook recNum).stores = copies s.stores := by
  simp [readPhoneBook, copies, copyDests]

@[simp] theorem replacePhoneBook_copies (n i : ℕ) :
    copies (replacePhoneBook n i s).stores = copies s.stores := by
  induction n generalizing i s with
  | zero => rfl
  | succ n ih =>
      rw [replacePhoneBook]
      dsimp only
      split
      · rw [recordNumWrite_stores, readPhoneBook_copies]
        simp [copies, copyDests]
      · rw [ih, readPhoneBook_copies]
        simp [copies, copyDests]

theorem routeLoop_stores (rx : ℕ → UInt8) (n i r : ℕ) :
    (routeLoop rx n i r s).stores =
      s.stores ++ (List.range' i n).map fun j => ⟨.routePoints, j, 1⟩ := by
  induction n generalizing i r s with
  | zero => exact (List.append_nil _).symm
  | succ n ih =>
      rw [routeLoop, ih, List.range'_succ, List.map_cons, List.append_assoc]
      rfl

end Stores

/-! ## The handlers -/

section Handlers

variable (rx : ℕ → UInt8) (s : AppState)

theorem case8100_fits :
    AllFit (copies (s.case8100 rx).stores) ↔
      AllFit (copies s.stores) ∧
        (rx 15 = 0 → 3 ≤ infolen rx ∧ infolen rx ≤ 23) := by
  rw [case8100]
  split
  next h0 => simp [copies, copyDests, Store.Fits, Arr.size, h0]
  next h3 =>
    have h0 : rx 15 ≠ 0 := by simp [h3]
    split
    · simp [h0]
    · split <;> simp [h0]
  next h0 _ =>
    have h0 : rx 15 ≠ 0 := h0
    simp [h0]

theorem playText_copies (len : ℤ) :
    copies (s.playText rx len).stores =
      copies s.stores ++
        if s.texts.textFlag &&& 0x09 ≠ 0 then
          [⟨.playInfo, 0, 100⟩, ⟨.playInfo, 0, len⟩]
        else [] := by
  rw [playText]
  split
  · dsimp only
    rw [ttsGetData_copies]
    simp [copies, copyDests]
  · exact (List.append_nil _).symm

theorem playText_textFlag (len : ℤ) :
    (s.playText rx len).texts.textFlag = s.texts.textFlag := by
  rw [playText]
  split
  · rw [ttsGetData]
    dsimp only
    split <;> rfl
  · rfl

theorem keepText_copies (len : ℤ) :
    copies (s.keepText rx len).stores =
      copies s.stores ++
        if s.texts.textFlag &&& 0x04 ≠ 0 ∨ s.texts.textFlag &&& 0x01 ≠ 0 then
          [⟨.textContent, 0, 100⟩, ⟨.textContent, 0, len⟩]
        else [] := by
  rw [keepText]
  split
  · dsimp only
    rw [textmsgWrite_copies]
    simp [copies, copyDests]
  · exact (List.append_nil _).symm

theorem case8300_fits :
    AllFit (copies (s.case8300 rx).stores) ↔
      AllFit (copies s.stores) ∧
        (rx 13 &&& 0x09 ≠ 0 ∨ rx 13 &&& 0x04 ≠ 0 ∨ rx 13 &&& 0x01 ≠ 0 →
          1 ≤ infolen rx ∧ infolen rx ≤ 101) := by
  have hfit : ∀ d, d.size = 100 →
      (AllFit [⟨d, 0, 100⟩, ⟨d, 0, (infolen rx : ℤ) - 1⟩] ↔
        1 ≤ infolen rx ∧ infolen rx ≤ 101) := by
    intro d hd
    simp [Store.Fits, hd]
  rw [case8300]
  dsimp only
  rw [ack_stores, showText_copies, keepText_copies, playText_copies,
    playText_textFlag, allFit_append, allFit_append, and_assoc]
  apply and_congr_right'
  by_cases h9 : rx 13 &&& 0x09 ≠ 0
  · by_cases h5 : rx 13 &&& 0x04 ≠ 0 ∨ rx 13 &&& 0x01 ≠ 0
    · rw [if_pos h9, if_pos h5, hfit _ rfl, hfit _ rfl]
      tauto
    · rw [if_pos h9, if_neg h5, hfit _ rfl]
      simp [h9]
  · by_cases h5 : rx 13 &&& 0x04 ≠ 0 ∨ rx 13 &&& 0x01 ≠ 0
    · rw [if_neg h9, if_pos h5, hfit _ rfl]
      simp [h5]
    · rw [if_neg h9, if_neg h5]
      simp [h9, h5]

theorem case8301_fits :
    AllFit (copies (s.case8301 rx).stores) ↔
      AllFit (copies s.stores) ∧
        (rx 13 ≠ 0 → rx 13 ≤ 4 → rx 14 = 1 → rx 16 ≤ 20) := by
  rw [case8301]
  dsimp only
  rw [ack_stores]
  split
  next h0 => simp [h0, copies, copyDests, Store.Fits, Arr.size]
  next h0 =>
    split
    next h4 =>
      split
      next h1 => simp [h1]
      next h1 =>
        have h1 : rx 14 = 1 := not_not.mp h1
        rw [writeEvent, recordNumWrite_stores]
        simp [h0, h4, h1, copies, copyDests, Store.Fits, Arr.size,
          UInt8.le_iff_toNat_le]
    next h4 => simp [h4]

theorem case8302_fits :
    AllFit (copies (s.case8302 rx).stores) ↔
      AllFit (copies s.stores) ∧ (rx 14).toNat ≤ 30 ∧
        (rx 14).toNat + 2 ≤ infolen rx ∧ infolen rx ≤ (rx 14).toNat + 32 := by
  rw [case8302]
  dsimp only
  rw [ack_stores, recordNumWrite_stores]
  simp [copies, copyDests, Store.Fits, Arr.size]
  omega

theorem case8303_fits :
    AllFit (copies (s.case8303 rx).stores) ↔
      AllFit (copies s.stores) ∧
        (rx 13 ≠ 0 → rx 13 ≤ 3 → rx 14 = 1 → be16 rx 16 ≤ 30) := by
  rw [case8303]
  dsimp only
  rw [ack_stores]
  split
  next h0 => simp [h0, copies, copyDests, Store.Fits, Arr.size]
  next h0 =>
    split
    next h3 =>
      split
      next h1 => simp [h1]
      next h1 =>
        have h1 : rx 14 = 1 := not_not.mp h1
        rw [writeMsgBroadCast, recordNumWrite_stores]
        simp [h0, h3, h1, copies, copyDests, Store.Fits, Arr.size]
    next h3 => simp [h3]

theorem case8304_fits :
    AllFit (copies (s.case8304 rx).stores) ↔
      AllFit (copies s.stores) ∧ 3 ≤ infolen rx ∧ infolen rx ≤ 33 := by
  rw [case8304]
  simp [copies, copyDests, Store.Fits, Arr.size]
  omega

theorem case8400_fits :
    AllFit (copies (s.case8400 rx).stores) ↔
      AllFit (copies s.stores) ∧
        (infolen rx ≠ 0 → rx 13 ≤ 1 → infolen rx ≤ 31) := by
  rw [case8400]
  split
  next h0 => simp [h0]
  next h0 =>
    split
    next h1 =>
      simp [copies, copyDests, Store.Fits, Arr.size, h0, h1]
      omega
    next h1 => simp [h1]

theorem receivePhoneBook_fits (flag : PhoneBook → PhoneBook) :
    AllFit (copies (s.receivePhoneBook rx flag).stores) ↔
      AllFit (copies s.stores) ∧
        rx 16 ≤ 20 ∧ rx (17 + (rx 16).toNat) ≤ 10 := by
  rw [receivePhoneBook]
  simp [copies, copyDests, Store.Fits, Arr.size, UInt8.le_iff_toNat_le]

theorem readRxPhoneBook_copies (recNum : ℕ) :
    copies (s.readRxPhoneBook recNum).stores =
      copies s.stores ++ [⟨.numberStr, 0, 20⟩, ⟨.userStr, 0, 10⟩] := by
  simp [readRxPhoneBook, copies, copyDests]

theorem case8401_fits :
    AllFit (copies (s.case8401 rx).stores) ↔
      AllFit (copies s.stores) ∧
        (rx 13 = 1 ∨ rx 13 = 2 ∨ rx 13 = 3 →
          rx 16 ≤ 20 ∧ rx (17 + (rx 16).toNat) ≤ 10) := by
  rw [case8401, ack_stores]
  split
  next h => rw [replacePhoneBook_copies, receivePhoneBook_fits]; simp [h]
  next h => rw [replacePhoneBook_copies, receivePhoneBook_fits]; simp [h]
  next h =>
    rw [readRxPhoneBook_copies, allFit_append, receivePhoneBook_fits]
    simp [h, Store.Fits, Arr.size]
  next h1 h3 h2 =>
    have h1 : rx 13 ≠ 1 := h1
    have h2 : rx 13 ≠ 2 := h2
    have h3 : rx 13 ≠ 3 := h3
    simp [h1, h2, h3]

theorem clearRoute_copies :
    copies s.clearRoute.stores = copies s.stores ++ [⟨.routePoints, 0, 3⟩] := by
  rw [clearRoute]
  simp [copies, copyDests]

theorem case8606_fits :
    AllFit (copies (s.case8606 rx).stores) ↔
      AllFit (copies s.stores) ∧ be16 rx 31 < 3 := by
  have hclear : AllFit [⟨.routePoints, 0, 3⟩] := by decide
  rw [case8606]
  dsimp only
  split
  next h =>
    rw [ack_stores, memcpy_stores, memcpy_stores, copies_append, copies_append,
      clearRoute_copies]
    simp [copies, copyDests, Store.Fits, Arr.size, h]
  next h =>
    -- the points behind the third leave the array
    have hpoints : ¬ AllFit (copies
        ((List.range' 0 6).map fun j => ⟨.routePoints, j, 1⟩)) := by decide
    rw [ack_stores, writeRoute, recordNumWrite_stores]
    dsimp only
    rw [routeLoop_stores, copies_append, allFit_append]
    simp [h, hpoints]

theorem case8800_fits :
    AllFit (copies (s.case8800 rx).stores) ↔
      AllFit (copies s.stores) ∧ (infolen rx = 5 ∨ rx 17 = 0) := by
  rw [case8800]
  split
  next h5 =>
    rw [mediaClearState_stores]
    split <;> simp [h5, photoSendEnd, soundSendEnd, videoSendEnd]
  next h5 =>
    split
    next h =>
      simp [copies, copyDests, Store.Fits, Arr.size, h5, h]
    next h => simp [not_not.mp h]

theorem gbEntry_length (table : List UInt8) (i : ℕ) :
    (gbEntry table i).length ≤ 2 := List.length_take_le _ _

theorem gbChar_length (b : UInt8) : (gbChar b).length ≤ 2 := by
  rw [gbChar]
  split_ifs
  all_goals first | exact gbEntry_length _ _ | exact Nat.one_le_ofNat

theorem asciiToGb_length (f : ℕ → UInt8) (src : ℕ) (len : ℤ) :
    (asciiToGb f src len).length ≤ 2 * (len % 256).toNat := by
  have h : ∀ xs : List UInt8, (xs.flatMap gbChar).length ≤ 2 * xs.length := by
    intro xs
    induction xs with
    | nil => exact Nat.le_refl 0
    | cons b xs ih =>
        have hb := gbChar_length b
        rw [List.flatMap_cons, List.length_append, List.length_cons]
        omega
  have hlen := h (readBytes f src (len % 256).toNat)
  rwa [readBytes_length] at hlen

@[simp] theorem nullpro8900H_stores (instr : ℕ → UInt8) :
    (s.nullpro8900H instr).stores = s.stores := by
  rw [nullpro8900H]
  split <;> rfl

theorem case8900_fits (linkNum : ℕ) :
    AllFit (copies (s.case8900 linkNum rx).stores) ↔
      AllFit (copies s.stores) ∧
        (linkNum = 0 → 1 ≤ infolen rx ∧ infolen rx ≤ 11) := by
  rw [case8900]
  split
  next h =>
    have hgb := asciiToGb_length rx 14 (infolen rx - 1)
    dsimp only
    rw [ack_stores, showText_copies]
    simp [copies, copyDests, Store.Fits, Arr.size, h]
    omega
  next h =>
    split <;> simp [h]

end Handlers

/-! ## The command switch -/

/-- The commands of the handlers in question. -/
def copyCmds : List ℕ :=
  [0x8100, 0x8300, 0x8301, 0x8302, 0x8303, 0x8304, 0x8400, 0x8401, 0x8606,
    0x8800, 0x8900]

/-- The lengths in a message that keep the copies of its handler inside their
destinations. -/
def LengthsFit (linkNum : ℕ) (rx : ℕ → UInt8) : ℕ → Prop
  | 0x8100 => rx 15 = 0 → 3 ≤ infolen rx ∧ infolen rx ≤ 23
  | 0x8300 =>
      rx 13 &&& 0x09 ≠ 0 ∨ rx 13 &&& 0x04 ≠ 0 ∨ rx 13 &&& 0x01 ≠ 0 →
        1 ≤ infolen rx ∧ infolen rx ≤ 101
  | 0x8301 => rx 13 ≠ 0 → rx 13 ≤ 4 → rx 14 = 1 → rx 16 ≤ 20
  | 0x8302 =>
      (rx 14).toNat ≤ 30 ∧
        (rx 14).toNat + 2 ≤ infolen rx ∧ infolen rx ≤ (rx 14).toNat + 32
  | 0x8303 => rx 13 ≠ 0 → rx 13 ≤ 3 → rx 14 = 1 → be16 rx 16 ≤ 30
  | 0x8304 => 3 ≤ infolen rx ∧ infolen rx ≤ 33
  | 0x8400 => infolen rx ≠ 0 → rx 13 ≤ 1 → infolen rx ≤ 31
  | 0x8401 =>
      rx 13 = 1 ∨ rx 13 = 2 ∨ rx 13 = 3 →
        rx 16 ≤ 20 ∧ rx (17 + (rx 16).toNat) ≤ 10
  | 0x8606 => be16 rx 31 < 3
  | 0x8800 => infolen rx = 5 ∨ rx 17 = 0
  | 0x8900 => linkNum = 0 → 1 ≤ infolen rx ∧ infolen rx ≤ 11
  | _ => True

theorem commandSwitch_fits {cmdId : ℕ} (hcmd : cmdId ∈ copyCmds)
    (linkNum : ℕ) (rx : ℕ → UInt8) (s : AppState) :
    AllFit (copies (s.commandSwitch cmdId linkNum rx).stores) ↔
      AllFit (copies s.stores) ∧ LengthsFit linkNum rx cmdId := by
  simp only [copyCmds, List.mem_cons, List.not_mem_nil, or_false] at hcmd
  rcases hcmd with
    rfl | rfl | rfl | rfl | rfl | rfl | rfl | rfl | rfl | rfl | rfl
  · exact case8100_fits rx s
  · exact case8300_fits rx s
  · exact case8301_fits rx s
  · exact case8302_fits rx s
  · exact case8303_fits rx s
  · exact case8304_fits rx s
  · exact case8400_fits rx s
  · exact case8401_fits rx s
  · exact case8606_fits rx s
  · exact case8800_fits rx s
  · exact case8900_fits rx s linkNum

end AppState

/-- The copies made for a frame: what the handler adds to an empty log. -/
def copiesFor (linkNum : ℕ) (r : RxState) (s : AppState) : List Store :=
  copies (tcpRxProcess linkNum r { s with stores := [] }).2.stores

theorem copiesFor_of_accepted {r : RxState}
    (haccept : (tcpRxCheck r).2 = true) (linkNum : ℕ) (s : AppState) :
    copiesFor linkNum r s =
      copies (({ s with stores := [] } : AppState).commandSwitch
        (tcpRxCheck r).1.centreCmdID linkNum (tcpRxCheck r).1.hexRx).stores := by
  rw [copiesFor, tcpRxProcess_of_accepted haccept]

/-! ## Sample messages -/

/-- The body of a route with three straight sections. -/
def threePoints : List UInt8 :=
  beBytes4 1 ++ List.replicate 14 0 ++ [0, 3] ++ List.replicate 54 0

/-- The loop over the turning points of a route always stores six of them,
three behind the end of `RoutePoints`. -/
theorem threePoints_not_fit :
    (tcpRxCheck (received (message 0x8606 threePoints) 0)).2 = true ∧
      (tcpRxCheck (received (message 0x8606 threePoints) 0)).1.centreCmdID =
        0x8606 ∧
      ¬ AllFit (copiesFor 0 (received (message 0x8606 threePoints) 0) {}) := by
  refine ⟨received_accepted _ 0, received_centreCmdID (by decide) _ 0, ?_⟩
  intro hfit
  rw [copiesFor_of_accepted (received_accepted _ 0),
    received_centreCmdID (by decide)] at hfit
  have hnum := ((AppState.commandSwitch_fits (by decide) _ _ _).mp hfit).2
  have h31 : (message 0x8606 threePoints)[30]? = some 0 := by decide
  have h32 : (message 0x8606 threePoints)[31]? = some 3 := by decide
  simp only [AppState.LengthsFit, be16, received_hexRx h31,
    received_hexRx h32] at hnum
  exact absurd hnum (by decide)

/-! ## Which copies fit -/

/-- The copies made for a message stay inside their destinations exactly if its
lengths are those of a handler that has room for them. -/
theorem tcpRxProcess_copies_fit_iff {r : RxState}
    (haccept : (tcpRxCheck r).2 = true)
    (hcmd : (tcpRxCheck r).1.centreCmdID ∈ AppState.copyCmds) (linkNum : ℕ)
    (s : AppState) :
    AllFit (copiesFor linkNum r s) ↔
      AppState.LengthsFit linkNum (tcpRxCheck r).1.hexRx
        (tcpRxCheck r).1.centreCmdID := by
  rw [copiesFor_of_accepted haccept, AppState.commandSwitch_fits hcmd]
  exact and_iff_right allFit_nil

/-- A registration answered with a code of four bytes. -/
theorem tcpRxProcess_copies_fit_iff_registration :
    AllFit (copiesFor 0
      (received (message 0x8100 [0, 7, 0, 1, 2, 3, 4]) 0) {}) := by
  refine (tcpRxProcess_copies_fit_iff (received_accepted _ 0) ?_ 0 {}).mpr ?_
  · rw [received_centreCmdID (by decide)]
    decide
  · rw [received_centreCmdID (by decide), AppState.LengthsFit,
      received_infolen (by decide)]
    decide

end VehicleRecorder.Protocol
