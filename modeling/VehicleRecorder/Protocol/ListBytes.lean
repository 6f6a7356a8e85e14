import VehicleRecorder.Lib.Prefix
import VehicleRecorder.Protocol.CopyBounds
import VehicleRecorder.Protocol.ParameterList

/-!
# The bytes read for a parameter list

The loop over a parameter list reads its items and, for two parameters of the
message `0xFF03`, bytes behind their end.  The module works out how far it
reads, that nothing behind that matters, and that the last byte read does.
-/

namespace VehicleRecorder.Protocol

open Bytes Prefix

/-! ## The services -/

/-- `sizeT` of a length. -/
theorem sizeT_ofNat {n : ℕ} (h : n < 4294967296) : sizeT n = n := by
  rw [sizeT]
  omega

namespace AppState

variable {f g : ℕ → UInt8} {infolen : UInt8} (s : AppState)

theorem memcpy_congr {src : ℕ} {len : ℤ} (d : Arr)
    (h : readBytes f src (sizeT len) = readBytes g src (sizeT len)) :
    s.memcpy d f src len = s.memcpy d g src len := by
  rw [memcpy, memcpy, h]

theorem memcpy_content (h : Agree infolen.toNat f g) (d : Arr) :
    s.memcpy d f 0 infolen.toNat = s.memcpy d g 0 infolen.toNat := by
  have hlen := infolen.toNat_lt
  apply memcpy_congr
  rw [sizeT_ofNat (by omega)]
  exact h.readBytes (by omega)

theorem regIn_congr (h : Agree infolen.toNat f g) :
    regIn infolen f = regIn infolen g := by
  rw [regIn, regIn, h.readBytes (by omega)]

theorem setDword_congr (h : Agree infolen.toNat f g) (put : ℕ → AppState) :
    s.setDword infolen f put = s.setDword infolen g put := by
  rw [setDword, setDword]
  split
  · rfl
  next h4 =>
    obtain rfl := not_not.mp h4
    rw [h.be32 (by decide)]

theorem setListenNum_congr (h : Agree infolen.toNat f g) :
    s.setListenNum infolen f = s.setListenNum infolen g := by
  rw [setListenNum, setListenNum, memcpy_content _ h]

theorem setApn_congr (h : Agree infolen.toNat f g) :
    s.setApn infolen f = s.setApn infolen g := by
  rw [setApn, setApn]
  simp only [memcpy_content _ h]

theorem setMainServer_congr (h : Agree infolen.toNat f g) :
    s.setMainServer infolen f = s.setMainServer infolen g := by
  rw [setMainServer, setMainServer, regIn_congr h]
  simp only [memcpy_content _ h]

theorem setAuxServer_congr (h : Agree infolen.toNat f g) :
    s.setAuxServer infolen f = s.setAuxServer infolen g := by
  rw [setAuxServer, setAuxServer, regIn_congr h]
  simp only [memcpy_content _ h]

theorem centreSetSubService8103H_congr (h : Agree infolen.toNat f g)
    (subId : ℕ) :
    centreSetSubService8103H subId infolen f s =
      centreSetSubService8103H subId infolen g s := by
  rw [centreSetSubService8103H.eq_def, centreSetSubService8103H.eq_def]
  dsimp only
  split
  case h_6 => exact setApn_congr s h
  case h_7 => exact setMainServer_congr s h
  case h_8 => exact setAuxServer_congr s h
  case h_20 =>
    split
    · rfl
    next h2 =>
      obtain rfl := not_not.mp h2
      rw [h.be16 (by decide), setListenNum_congr _ h]
  case h_21 => exact setListenNum_congr s h
  case h_22 => rw [setListenNum_congr s h]
  case h_29 =>
    split
    · rfl
    next h2 =>
      obtain rfl := not_not.mp h2
      rw [h.be16 (by decide)]
  case h_30 =>
    split
    · rfl
    next h2 =>
      obtain rfl := not_not.mp h2
      rw [h.be16 (by decide)]
  case h_31 => rw [memcpy_content _ h]
  case h_32 =>
    split
    · rfl
    next h1 =>
      obtain rfl := not_not.mp h1
      rw [h 0 (by decide)]
  case h_33 => rw [regIn_congr h]
  all_goals first | exact setDword_congr s h _ | rfl

theorem centreSetSubServiceFF01H_congr (h : Agree infolen.toNat f g)
    (subId : ℕ) :
    centreSetSubServiceFF01H subId infolen f s =
      centreSetSubServiceFF01H subId infolen g s := by
  rw [centreSetSubServiceFF01H.eq_def, centreSetSubServiceFF01H.eq_def]
  split
  all_goals first | exact setDword_congr s h _ | rfl

theorem storeGb_congr {src : ℕ} {len : ℤ} (d : Arr)
    (h : readBytes f src (len % 256).toNat = readBytes g src (len % 256).toNat) :
    s.storeGb d f src len = s.storeGb d g src len := by
  rw [storeGb, storeGb, asciiToGb, asciiToGb, h]

theorem showText_congr {src : ℕ} {len : ℤ}
    (h : readBytes f src (len % 256).toNat = readBytes g src (len % 256).toNat) :
    s.showText f src len = s.showText g src len := by
  rw [showText, showText, storeGb_congr _ _ h, asciiToGb, asciiToGb, h]

/-- The length of the text of an item. -/
def textLen (infolen : UInt8) : ℕ := (((infolen.toNat : ℤ) - 2) % 256).toNat

theorem setItemText_congr (h : Agree (2 + textLen infolen) f g) :
    s.setItemText infolen f = s.setItemText infolen g := by
  have hread : readBytes f 2 (textLen infolen) =
      readBytes g 2 (textLen infolen) := h.readBytes (Nat.le_refl _)
  rw [setItemText, setItemText]
  simp only [storeGb_congr _ _ hread, showText_congr _ hread, asciiToGb]
  rw [← textLen, hread]

theorem setCanFilter_congr (h : Agree 11 f g) :
    s.setCanFilter infolen f = s.setCanFilter infolen g := by
  rw [setCanFilter, setCanFilter, h 3 (by decide), h.be32 (by decide),
    h.be16 (by decide), h.readBytes (by decide)]

/-! ## Filters of the first CAN controller -/

/-- What is saved of the first CAN controller, forgotten. -/
def forgetCan1 (s : AppState) : AppState :=
  { s with
    bdExt := { s.bdExt with can1Id := 0, can1Type := 0, can1Duration := 0 }
    saved.bdExt := { s.saved.bdExt with
      can1Id := 0, can1Type := 0, can1Duration := 0 } }

theorem forgetCan1_putCan1 (id id' : ℕ) (type duration type' duration' : UInt8) :
    (s.putCan1 id type duration).forgetCan1 =
      (s.putCan1 id' type' duration').forgetCan1 := rfl

end AppState

section Items

variable (sub : SubService) (rx : ℕ → UInt8) (c : ℕ) (s : AppState)

/-- The item at `c` sets a filter of the first CAN controller. -/
def setsCan1 : Bool :=
  be32 rx c = 1 ∧ ¬ rx (c + 4) < 4 ∧ rx (c + 8) &&& 0x80 = 0

/-- The end of the item at `c`. -/
def itemEnd : ℕ := c + 5 + (rx (c + 4)).toNat

/-- The end of the bytes read for the item at `c`; `later` says that an item
behind it sets a filter of the first CAN controller. -/
def itemReach (later : Bool) : ℕ :=
  if sub = .subFF03H ∧ be32 rx c = 1 ∧ ¬ rx (c + 4) < 4 ∧
      (rx (c + 8) &&& 0x80 = 0 → later = false) then
    max (itemEnd rx c) (c + 16)
  else if sub = .subFF03H ∧ be32 rx c = 2 then
    max (itemEnd rx c) (c + 7 + AppState.textLen (rx (c + 4)))
  else itemEnd rx c

theorem serveItem_forgetCan1 :
    (serveItem .subFF03H rx c s.forgetCan1).forgetCan1 =
      (serveItem .subFF03H rx c s).forgetCan1 := by
  rw [serveItem, serveItem, SubService.run]
  rw [AppState.centreSetSubServiceFF03H.eq_def, AppState.centreSetSubServiceFF03H.eq_def]
  split
  · rw [AppState.setCanFilter, AppState.setCanFilter]
    split
    · rfl
    · dsimp only
      split
      · rfl
      · rfl
  · rfl
  · rfl

variable {rx c} {rx' : ℕ → UInt8} {n : ℕ}

theorem agree_content (h : Agree n rx' rx) {k : ℕ} (hk : c + 5 + k ≤ n) :
    Agree k (fun i => rx' (c + 5 + i)) fun i => rx (c + 5 + i) :=
  fun i hi => h (c + 5 + i) (by omega)

theorem callAt_congr (h : Agree n rx' rx) (hend : itemEnd rx c ≤ n) :
    callAt sub rx' c = callAt sub rx c := by
  rw [itemEnd] at hend
  rw [callAt, callAt, h.be32 (by omega), h (c + 4) (by omega),
    h.readBytes hend]

theorem nextItem_congr (h : Agree n rx' rx) (hend : itemEnd rx c ≤ n) :
    nextItem rx' c = nextItem rx c := by
  rw [itemEnd] at hend
  rw [nextItem, nextItem, h (c + 4) (by omega)]

theorem serveItem_eq :
    serveItem sub rx c s =
      sub.run (be32 rx c) (rx (c + 4)) (fun i => rx (c + 5 + i))
        { sub.note (be32 rx c) s with
          serviceCalls := s.serviceCalls ++ [callAt sub rx c] } := by
  rw [serveItem, note_serviceCalls, readBytes_shift, Nat.add_zero, callAt]

/-- An item is served alike if all bytes read for it are the same. -/
theorem serveItem_congr (h : Agree n rx' rx)
    (hreach : itemReach sub rx c false ≤ n) :
    serveItem sub rx' c s = serveItem sub rx c s := by
  have hend : itemEnd rx c ≤ n := by
    refine Nat.le_trans ?_ hreach
    rw [itemReach]
    split_ifs
    · exact Nat.le_max_left _ _
    · exact Nat.le_max_left _ _
    · exact Nat.le_refl _
  have hcontent : Agree (rx (c + 4)).toNat (fun i => rx' (c + 5 + i))
      fun i => rx (c + 5 + i) := agree_content h hend
  rw [serveItem_eq, serveItem_eq, callAt_congr sub h hend]
  rw [itemEnd] at hend
  rw [h.be32 (by omega), h (c + 4) (by omega)]
  cases sub with
  | sub8103H => exact AppState.centreSetSubService8103H_congr _ hcontent _
  | subFF01H => exact AppState.centreSetSubServiceFF01H_congr _ hcontent _
  | subFF03H =>
      rw [SubService.run, AppState.centreSetSubServiceFF03H.eq_def,
        AppState.centreSetSubServiceFF03H.eq_def]
      split
      next hid =>
        by_cases hlen : rx (c + 4) < 4
        · rw [AppState.setCanFilter, if_pos hlen, AppState.setCanFilter,
            if_pos hlen]
        · rw [itemReach, if_pos ⟨rfl, hid, hlen, fun _ => rfl⟩] at hreach
          exact AppState.setCanFilter_congr _ (agree_content h (by omega))
      next hid =>
        rw [itemReach, if_neg (by simp [hid]), if_pos ⟨rfl, hid⟩] at hreach
        exact AppState.setItemText_congr _ (agree_content h (by omega))
      next => rfl

theorem setsCan1_iff : setsCan1 rx c = true ↔
    be32 rx c = 1 ∧ ¬ rx (c + 4) < 4 ∧ rx (c + 8) &&& 0x80 = 0 :=
  decide_eq_true_iff

theorem serveItem_can1 (hset : setsCan1 rx c = true) :
    serveItem .subFF03H rx c s =
      AppState.putCan1 { SubService.subFF03H.note (be32 rx c) s with
          serviceCalls := s.serviceCalls ++ [callAt .subFF03H rx c] }
        (be32 rx (c + 9)) (if rx (c + 8) &&& 0x40 ≠ 0 then 1 else 0)
        (UInt8.ofNat (be16 rx (c + 14))) := by
  obtain ⟨hid, hlen, hbit⟩ := setsCan1_iff.mp hset
  rw [serveItem_eq, hid]
  exact (if_neg hlen).trans (if_neg (not_not_intro hbit))

theorem serveItem_can1_congr (hset : setsCan1 rx c = true)
    (h : Agree n rx' rx) (hend : itemEnd rx c ≤ n) :
    (serveItem .subFF03H rx' c s).forgetCan1 =
      (serveItem .subFF03H rx c s).forgetCan1 := by
  obtain ⟨hid, hlen, hbit⟩ := setsCan1_iff.mp hset
  have hcall := callAt_congr .subFF03H h hend
  have hset' : setsCan1 rx' c = true := by
    rw [itemEnd] at hend
    have : 4 ≤ (rx (c + 4)).toNat := Nat.le_of_not_lt hlen
    rw [setsCan1_iff, h.be32 (by omega), h (c + 4) (by omega),
      h (c + 8) (by omega)]
    exact ⟨hid, hlen, hbit⟩
  have hid' := (setsCan1_iff.mp hset').1
  rw [serveItem_can1 _ hset, serveItem_can1 _ hset', hcall, hid, hid']
  exact AppState.forgetCan1_putCan1 _ _ _ _ _ _ _

theorem serveItem_can1_forget (hset : setsCan1 rx c = true) :
    serveItem .subFF03H rx c s.forgetCan1 = serveItem .subFF03H rx c s := by
  rw [serveItem_can1 _ hset, serveItem_can1 _ hset]
  rfl

/-! ## The loop -/

variable (rx c) in
/-- One of `n` items from offset `c` on sets a filter of the first CAN
controller. -/
def can1Later : ℕ → ℕ → Bool
  | 0, _ => false
  | n + 1, c => setsCan1 rx c || can1Later n (nextItem rx c)

variable (rx) in
/-- The end of the bytes read for `n` items from offset `c` on, with the count
in front of them. -/
def listReach : ℕ → ℕ → ℕ
  | 0, _ => 14
  | n + 1, c =>
      max (itemReach sub rx c (can1Later rx n (nextItem rx c)))
        (listReach n (nextItem rx c))

variable {sub s}

theorem itemEnd_le_itemReach (later : Bool) :
    itemEnd rx c ≤ itemReach sub rx c later := by
  rw [itemReach]
  split_ifs
  · exact Nat.le_max_left _ _
  · exact Nat.le_max_left _ _
  · exact Nat.le_refl _

theorem itemReach_later (h : sub = .subFF03H → setsCan1 rx c = false)
    (later : Bool) : itemReach sub rx c later = itemReach sub rx c false := by
  rw [itemReach, itemReach]
  refine if_congr ?_ rfl rfl
  constructor
  · rintro ⟨hsub, hid, hlen, -⟩
    exact ⟨hsub, hid, hlen, fun _ => rfl⟩
  · rintro ⟨hsub, hid, hlen, -⟩
    refine ⟨hsub, hid, hlen, fun hbit => ?_⟩
    exact absurd (setsCan1_iff.mpr ⟨hid, hlen, hbit⟩) (by simp [h hsub])

/-- The loop depends on the bytes read for its items.  A filter that a later
item sets anew need not be the same. -/
theorem parameterLoop_congr (h : Agree n rx' rx) (k c : ℕ)
    (hreach : listReach sub rx k c ≤ n) {s s' : AppState}
    (hforget : s'.forgetCan1 = s.forgetCan1)
    (heq : sub = .subFF03H ∧ can1Later rx k c = true ∨ s' = s) :
    parameterLoop sub rx' k c s' = parameterLoop sub rx k c s := by
  induction k generalizing c s s' with
  | zero =>
      rcases heq with ⟨-, hlater⟩ | rfl
      · exact absurd hlater Bool.false_ne_true
      · rfl
  | succ k ih =>
      rw [listReach, Nat.max_le] at hreach
      obtain ⟨hreach, hrest⟩ := hreach
      have hend : itemEnd rx c ≤ n :=
        Nat.le_trans (itemEnd_le_itemReach _) hreach
      rw [parameterLoop, parameterLoop, nextItem_congr h hend]
      by_cases hset : sub = .subFF03H ∧ setsCan1 rx c = true
      · obtain ⟨rfl, hset⟩ := hset
        have hserve : serveItem .subFF03H rx c s' =
            serveItem .subFF03H rx c s := by
          rw [← serveItem_can1_forget s' hset, hforget,
            serveItem_can1_forget s hset]
        cases hlater : can1Later rx k (nextItem rx c) with
        | false =>
            rw [hlater] at hreach
            rw [serveItem_congr _ s' h hreach, hserve]
            exact ih _ hrest rfl (.inr rfl)
        | true =>
            refine ih _ hrest ?_ (.inl ⟨rfl, hlater⟩)
            rw [serveItem_can1_congr s' hset h hend, hserve]
      · have hnot : sub = .subFF03H → setsCan1 rx c = false := by
          intro hsub
          exact eq_false_of_ne_true fun htrue => hset ⟨hsub, htrue⟩
        rw [itemReach_later hnot] at hreach
        rw [serveItem_congr _ s' h hreach]
        rcases heq with ⟨rfl, hlater⟩ | rfl
        · refine ih _ hrest ?_ (.inl ⟨rfl, ?_⟩)
          · rw [← serveItem_forgetCan1, hforget, serveItem_forgetCan1]
          · rwa [can1Later, hnot rfl, Bool.false_or] at hlater
        · exact ih _ hrest rfl (.inr rfl)

end Items

/-! ## Bytes that matter -/

namespace AppState

variable (s : AppState) (infolen : UInt8) (content : ℕ → UInt8)

/-- The frames a filter sends to the second CAN controller. -/
def canFrames : List Call :=
  if ¬ infolen < 4 ∧ content 3 &&& 0x80 ≠ 0 then
    [.can2Write (can2Frame (0x33 :: 0x02 :: readBytes content 3 8))]
  else []

theorem setCanFilter_calls :
    (s.setCanFilter infolen content).calls =
      s.calls ++ canFrames infolen content := by
  rw [setCanFilter]
  by_cases hlen : infolen < 4
  · rw [if_pos hlen, canFrames, if_neg fun h => h.1 hlen, List.append_nil]
  · rw [if_neg hlen]
    by_cases hbit : content 3 &&& 0x80 ≠ 0
    · rw [if_pos hbit, canFrames, if_pos (And.intro hlen hbit)]
      rfl
    · have hnone : canFrames infolen content = [] := if_neg fun h => hbit h.2
      rw [if_neg hbit, hnone, List.append_nil]
      rfl

theorem setCanFilter_stores :
    (s.setCanFilter infolen content).stores = s.stores := by
  rw [setCanFilter]
  by_cases hlen : infolen < 4
  · rw [if_pos hlen]
  · rw [if_neg hlen]
    by_cases hbit : content 3 &&& 0x80 ≠ 0
    · rw [if_pos hbit]
      rfl
    · rw [if_neg hbit]
      rfl

/-- The stores of the text of an item. -/
def textStores : List Store :=
  let text := asciiToGb content 2 (infolen.toNat - 2)
  [⟨.textContent, 0, 100⟩, ⟨.textContent, 0, text.length⟩,
    ⟨.txtContent, 0, 256⟩, ⟨.txtContent, 0, text.length⟩]

theorem setItemText_stores :
    (s.setItemText infolen content).stores =
      s.stores ++ textStores infolen content := by
  rw [textStores, setItemText]
  simp only [showText, storeGb_stores, memset_stores, List.append_assoc]
  rfl

end AppState

section Needed

open AppState

variable {sub : SubService} {rx rx' : ℕ → UInt8} {c p : ℕ} (s : AppState)

/-- The frames sent for the item at `c` to the second CAN controller. -/
def canFramesAt (rx : ℕ → UInt8) (c : ℕ) : List Call :=
  if be32 rx c = 1 then canFrames (rx (c + 4)) fun i => rx (c + 5 + i) else []

/-- The stores of the text of the item at `c`. -/
def textStoresAt (rx : ℕ → UInt8) (c : ℕ) : List Store :=
  if be32 rx c = 2 then textStores (rx (c + 4)) fun i => rx (c + 5 + i) else []

theorem serveItem_calls :
    (serveItem .subFF03H rx c s).calls = s.calls ++ canFramesAt rx c := by
  rw [serveItem_eq, SubService.run, centreSetSubServiceFF03H.eq_def,
    canFramesAt]
  split
  next hid => rw [setCanFilter_calls, if_pos hid]; rfl
  next hid => rw [if_neg (by simp [hid])]; exact (List.append_nil _).symm
  next hid _ => rw [if_neg hid]; exact (List.append_nil _).symm

theorem serveItem_stores :
    (serveItem .subFF03H rx c s).stores = s.stores ++ textStoresAt rx c := by
  rw [serveItem_eq, SubService.run, centreSetSubServiceFF03H.eq_def,
    textStoresAt]
  split
  next hid =>
    rw [setCanFilter_stores, if_neg (by simp [hid])]
    exact (List.append_nil _).symm
  next hid => rw [setItemText_stores, if_pos hid]; rfl
  next _ hid => rw [if_neg hid]; exact (List.append_nil _).symm

/-- A call tells every byte of its item. -/
theorem callAt_inj (h : callAt sub rx' c = callAt sub rx c) {i : ℕ}
    (hlo : c ≤ i) (hhi : i < itemEnd rx c) : rx' i = rx i := by
  rw [callAt, callAt, ServiceCall.mk.injEq] at h
  obtain ⟨-, hid, hlen, hcontent⟩ := h
  have hword : readBytes rx' c 4 = readBytes rx c 4 := by
    apply List.reverse_injective
    apply leValue_inj
    · rw [List.length_reverse, List.length_reverse, readBytes_length,
        readBytes_length]
    · rw [← be32_eq_leValue, ← be32_eq_leValue, hid]
  have hbyte : readBytes rx' (c + 4) 1 = readBytes rx (c + 4) 1 :=
    congrArg (fun b => [b]) hlen
  have hread : readBytes rx' c (4 + (1 + (rx (c + 4)).toNat)) =
      readBytes rx c (4 + (1 + (rx (c + 4)).toNat)) := by
    rw [hlen] at hcontent
    rw [readBytes_add, readBytes_add, readBytes_add, readBytes_add, hword,
      hbyte, hcontent]
  exact readBytes_inj hread hlo (by rw [itemEnd] at hhi; omega)

theorem callAt_header (h : callAt sub rx' c = callAt sub rx c) :
    be32 rx' c = be32 rx c ∧ rx' (c + 4) = rx (c + 4) :=
  ⟨congrArg ServiceCall.subId h, congrArg ServiceCall.infolen h⟩

theorem callAt_flags (h : callAt sub rx' c = callAt sub rx c)
    (hlen : ¬ rx (c + 4) < 4) : rx' (c + 8) = rx (c + 8) := by
  have h4 : 4 ≤ (rx (c + 4)).toNat := Nat.le_of_not_lt hlen
  apply callAt_inj h (Nat.le_add_right c 8)
  rw [itemEnd]
  omega

/-! What equal calls have in common. -/

theorem nextItem_of_callAt (h : callAt sub rx' c = callAt sub rx c) :
    nextItem rx' c = nextItem rx c := by
  rw [nextItem, nextItem, (callAt_header h).2]

theorem setsCan1_of_callAt (h : callAt sub rx' c = callAt sub rx c) :
    setsCan1 rx' c = setsCan1 rx c := by
  obtain ⟨hid, hlen⟩ := callAt_header h
  rw [Bool.eq_iff_iff, setsCan1_iff, setsCan1_iff, hid, hlen]
  apply and_congr_right'
  apply and_congr_right
  intro h4
  rw [callAt_flags h h4]

theorem can1Later_of_loopCalls {n : ℕ}
    (h : loopCalls sub rx' n c = loopCalls sub rx n c) :
    can1Later rx' n c = can1Later rx n c := by
  induction n generalizing c with
  | zero => rfl
  | succ n ih =>
      rw [loopCalls, loopCalls, List.cons.injEq] at h
      obtain ⟨hcall, hrest⟩ := h
      rw [nextItem_of_callAt hcall] at hrest
      rw [can1Later, can1Later, setsCan1_of_callAt hcall,
        nextItem_of_callAt hcall, ih hrest]

theorem canFramesAt_length (h : callAt sub rx' c = callAt sub rx c) :
    (canFramesAt rx' c).length = (canFramesAt rx c).length := by
  obtain ⟨hid, hlen⟩ := callAt_header h
  rw [canFramesAt, canFramesAt, hid, hlen]
  split
  · by_cases h4 : rx (c + 4) < 4
    · rw [canFrames, canFrames, if_neg fun h => h.1 h4, if_neg fun h => h.1 h4]
    · have h8 : rx' (c + 5 + 3) = rx (c + 5 + 3) := callAt_flags h h4
      rw [canFrames, canFrames, h8]
      split <;> rfl
  · rfl

theorem textStoresAt_length (h : callAt sub rx' c = callAt sub rx c) :
    (textStoresAt rx' c).length = (textStoresAt rx c).length := by
  rw [textStoresAt, textStoresAt, (callAt_header h).1]
  split <;> rfl

/-- A byte whose text has another length than that of `b`. -/
def otherByte (b : UInt8) : UInt8 := if (gbChar b).length = 1 then 0x30 else 0

theorem gbChar_otherByte (b : UInt8) :
    (gbChar (otherByte b)).length ≠ (gbChar b).length := by
  rw [otherByte]
  split
  next h =>
    rw [h]
    decide
  next h =>
    intro heq
    exact h (heq.symm.trans (by decide))

/-- The memory with such a byte at `p`. -/
def alter (rx : ℕ → UInt8) (p : ℕ) : ℕ → UInt8 :=
  Function.update rx p (otherByte (rx p))

theorem alter_self : alter rx p p ≠ rx p := by
  rw [alter, Function.update_self]
  intro h
  exact gbChar_otherByte (rx p) (congrArg (fun b => (gbChar b).length) h)

/-- The frame for the second CAN controller tells what it carries. -/
theorem can2Frame_inj {xs ys : List UInt8} (h : can2Frame xs = can2Frame ys) :
    xs = ys := by
  have hdecode := congrArg jt808.decode h
  rw [can2Frame, can2Frame, protocol808Encode_eq, protocol808Encode_eq]
    at hdecode
  change jt808.decode (jt808.frame xs) = jt808.decode (jt808.frame ys)
    at hdecode
  rw [ByteStuffing.Code.decode_frame, ByteStuffing.Code.decode_frame]
    at hdecode
  simpa using hdecode

theorem canFrames_inj {f g : ℕ → UInt8} {infolen : UInt8}
    (hlen : ¬ infolen < 4) (hbit : g 3 &&& 0x80 ≠ 0) (h3 : f 3 = g 3)
    (h : canFrames infolen f = canFrames infolen g) : f 10 = g 10 := by
  rw [canFrames, canFrames, h3, if_pos ⟨hlen, hbit⟩, if_pos ⟨hlen, hbit⟩,
    List.cons.injEq, Call.can2Write.injEq] at h
  have hsent := can2Frame_inj h.1
  rw [List.cons.injEq, List.cons.injEq] at hsent
  exact readBytes_inj hsent.2.2 (by decide) (by decide)

theorem textStores_inj {f g : ℕ → UInt8} {infolen : UInt8}
    (h : textStores infolen f = textStores infolen g) :
    (asciiToGb f 2 (infolen.toNat - 2)).length =
      (asciiToGb g 2 (infolen.toNat - 2)).length := by
  rw [textStores, textStores, List.cons.injEq, List.cons.injEq] at h
  exact Int.ofNat_inj.mp (congrArg Store.len h.2.1)

/-- The frames of `n` items from offset `c` on. -/
def loopFrames (rx : ℕ → UInt8) : ℕ → ℕ → List Call
  | 0, _ => []
  | n + 1, c => canFramesAt rx c ++ loopFrames rx n (nextItem rx c)

theorem parameterLoop_calls (n : ℕ) :
    (parameterLoop .subFF03H rx n c s).calls =
      s.calls ++ loopFrames rx n c := by
  induction n generalizing c s with
  | zero => rw [parameterLoop, loopFrames, List.append_nil]
  | succ n ih =>
      rw [parameterLoop, ih, serveItem_calls, loopFrames, List.append_assoc]

/-- The stores of the texts of `n` items from offset `c` on. -/
def loopStores (rx : ℕ → UInt8) : ℕ → ℕ → List Store
  | 0, _ => []
  | n + 1, c => textStoresAt rx c ++ loopStores rx n (nextItem rx c)

theorem parameterLoop_stores (n : ℕ) :
    (parameterLoop .subFF03H rx n c s).stores =
      s.stores ++ loopStores rx n c := by
  induction n generalizing c s with
  | zero => rw [parameterLoop, loopStores, List.append_nil]
  | succ n ih =>
      rw [parameterLoop, ih, serveItem_stores, loopStores, List.append_assoc]

theorem putCan1_can1Duration (id : ℕ) (type duration : UInt8) :
    (s.putCan1 id type duration).bdExt.can1Duration = duration := rfl

/-- A filter stands until the next one. -/
theorem serveItem_can1Duration (h : setsCan1 rx c = false) :
    (serveItem .subFF03H rx c s).bdExt.can1Duration =
      s.bdExt.can1Duration := by
  rw [serveItem_eq, SubService.run, centreSetSubServiceFF03H.eq_def]
  split
  next hid =>
    rw [setCanFilter]
    by_cases hlen : rx (c + 4) < 4
    · rw [if_pos hlen]
      rfl
    · have hbit : rx (c + 5 + 3) &&& 0x80 ≠ 0 := fun hbit =>
        absurd (setsCan1_iff.mpr ⟨hid, hlen, hbit⟩) (by simp [h])
      rw [if_neg hlen, if_pos hbit]
      rfl
  next hid => rfl
  next => rfl

theorem parameterLoop_can1Duration {n : ℕ} (h : can1Later rx n c = false) :
    (parameterLoop .subFF03H rx n c s).bdExt.can1Duration =
      s.bdExt.can1Duration := by
  induction n generalizing c s with
  | zero => rfl
  | succ n ih =>
      rw [can1Later, Bool.or_eq_false_iff] at h
      rw [parameterLoop, ih _ h.2, serveItem_can1Duration _ h.1]

theorem asciiToGb_shift (k src : ℕ) (len : ℤ) :
    asciiToGb (fun i => rx (k + i)) src len = asciiToGb rx (k + src) len := by
  rw [asciiToGb, readBytes_shift, asciiToGb]

/-- Another last byte gives a text of another length. -/
theorem asciiToGb_alter_ne {src : ℕ} {len : ℤ}
    (h : src + (len % 256).toNat = p + 1) (hsrc : src ≤ p) :
    (asciiToGb (alter rx p) src len).length ≠
      (asciiToGb rx src len).length := by
  obtain ⟨m, hm⟩ : ∃ m, (len % 256).toNat = m + 1 :=
    ⟨p - src, by omega⟩
  obtain rfl : p = src + m := by omega
  have hfront : readBytes (alter rx (src + m)) src m = readBytes rx src m :=
    readBytes_congr fun x _ hx => Function.update_of_ne (by omega) _ _
  rw [asciiToGb, asciiToGb, hm, readBytes_add, readBytes_add, hfront,
    List.flatMap_append, List.flatMap_append, List.length_append,
    List.length_append]
  intro heq
  have hlast := Nat.add_left_cancel heq
  simp only [readBytes, List.flatMap_cons, List.flatMap_nil, List.append_nil,
    alter, Function.update_self] at hlast
  exact gbChar_otherByte _ hlast

/-- The low byte of a word. -/
theorem ofNat_be16 (f : ℕ → UInt8) (a : ℕ) :
    UInt8.ofNat (be16 f a) = f (a + 1) := by
  rw [be16]
  apply UInt8.toNat_inj.mp
  have hlow := (f (a + 1)).toNat_lt
  rw [UInt8.toNat_ofNat']
  omega

/-- The item that reads a byte last is not served alike with another one
there. -/
theorem itemReach_ne {later : Bool}
    (hcall : callAt sub (alter rx p) c = callAt sub rx c)
    (hframes : sub = .subFF03H →
      canFramesAt (alter rx p) c = canFramesAt rx c)
    (hstores : sub = .subFF03H →
      textStoresAt (alter rx p) c = textStoresAt rx c)
    (hcan1 : sub = .subFF03H → setsCan1 rx c = true → later = false →
      alter rx p (c + 15) = rx (c + 15)) :
    itemReach sub rx c later ≠ p + 1 := by
  have hout : ¬ (c ≤ p ∧ p < itemEnd rx c) := fun hin =>
    alter_self (callAt_inj hcall hin.1 hin.2)
  have hend : itemEnd rx c ≠ p + 1 := by
    intro heq
    rw [heq] at hout
    rw [itemEnd] at heq
    omega
  obtain ⟨hid, hlen⟩ := callAt_header hcall
  rw [itemReach]
  split
  next hcan =>
    obtain ⟨hsub, hone, h4, hlater⟩ := hcan
    have hlast : alter rx p (c + 15) = rx (c + 15) := by
      by_cases hbit : rx (c + 8) &&& 0x80 = 0
      · exact hcan1 hsub (setsCan1_iff.mpr ⟨hone, h4, hbit⟩) (hlater hbit)
      · have h8 := callAt_flags hcall h4
        have hsame := hframes hsub
        rw [canFramesAt, canFramesAt, hid, hlen, if_pos hone, if_pos hone]
          at hsame
        exact canFrames_inj h4 hbit h8 hsame
    intro heq
    have hp : c + 15 ≠ p := by
      rintro rfl
      exact alter_self hlast
    rcases Nat.le_total (itemEnd rx c) (c + 16) with hle | hle
    · rw [Nat.max_eq_right hle] at heq
      omega
    · rw [Nat.max_eq_left hle] at heq
      exact hend heq
  next =>
    split
    next htext =>
      obtain ⟨hsub, htwo⟩ := htext
      have hsame := hstores hsub
      rw [textStoresAt, textStoresAt, hid, hlen, if_pos htwo, if_pos htwo]
        at hsame
      have hlength := textStores_inj hsame
      intro heq
      rcases Nat.le_total (c + 7 + textLen (rx (c + 4))) (itemEnd rx c) with
        hle | hle
      · rw [Nat.max_eq_left hle] at heq
        exact hend heq
      · rw [Nat.max_eq_right hle] at heq
        have hlt : (rx (c + 4)).toNat < 2 := by
          have hbyte := (rx (c + 4)).toNat_lt
          refine Nat.lt_of_not_le fun hge => hend ?_
          rw [itemEnd, ← heq, textLen]
          omega
        rw [asciiToGb_shift, asciiToGb_shift] at hlength
        exact asciiToGb_alter_ne heq (by rw [textLen] at heq; omega) hlength
    next => exact hend

/-- The loop does not serve a list alike with another byte where it reads
last. -/
theorem listReach_ne (hp : 14 ≤ p) (n c : ℕ) {s s' : AppState}
    (hcalls : loopCalls sub (alter rx p) n c = loopCalls sub rx n c)
    (hframes : sub = .subFF03H →
      loopFrames (alter rx p) n c = loopFrames rx n c)
    (hstores : sub = .subFF03H →
      loopStores (alter rx p) n c = loopStores rx n c)
    (hcan1 : sub = .subFF03H →
      (parameterLoop .subFF03H (alter rx p) n c s').bdExt.can1Duration =
        (parameterLoop .subFF03H rx n c s).bdExt.can1Duration) :
    listReach sub rx n c ≠ p + 1 := by
  induction n generalizing c s s' with
  | zero =>
      intro h
      rw [listReach] at h
      omega
  | succ n ih =>
      rw [loopCalls, loopCalls, List.cons.injEq] at hcalls
      obtain ⟨hcall, hcalls⟩ := hcalls
      have hnext := nextItem_of_callAt hcall
      rw [hnext] at hcalls
      simp only [loopFrames, loopStores, hnext] at hframes hstores
      have hcan1' : sub = .subFF03H →
          (parameterLoop .subFF03H (alter rx p) n (nextItem rx c)
            (serveItem .subFF03H (alter rx p) c s')).bdExt.can1Duration =
          (parameterLoop .subFF03H rx n (nextItem rx c)
            (serveItem .subFF03H rx c s)).bdExt.can1Duration := by
        intro hsub
        have hduration := hcan1 hsub
        rw [parameterLoop, parameterLoop, hnext] at hduration
        exact hduration
      have hframes' (hsub : sub = .subFF03H) :=
        List.append_inj (hframes hsub) (canFramesAt_length hcall)
      have hstores' (hsub : sub = .subFF03H) :=
        List.append_inj (hstores hsub) (textStoresAt_length hcall)
      have hhead : itemReach sub rx c (can1Later rx n (nextItem rx c)) ≠
          p + 1 := by
        apply itemReach_ne hcall (fun hsub => (hframes' hsub).1)
          fun hsub => (hstores' hsub).1
        intro hsub hset hlater
        subst hsub
        have hset' : setsCan1 (alter rx p) c = true :=
          (setsCan1_of_callAt hcall).trans hset
        have hduration := hcan1' rfl
        rw [parameterLoop_can1Duration _
            ((can1Later_of_loopCalls hcalls).trans hlater),
          parameterLoop_can1Duration _ hlater, serveItem_can1 _ hset,
          serveItem_can1 _ hset', putCan1_can1Duration, putCan1_can1Duration,
          ofNat_be16, ofNat_be16] at hduration
        exact hduration
      have htail := ih _ hcalls (fun hsub => (hframes' hsub).2)
        (fun hsub => (hstores' hsub).2) hcan1'
      rw [listReach]
      intro h
      rcases Nat.le_total (itemReach sub rx c (can1Later rx n (nextItem rx c)))
        (listReach sub rx n (nextItem rx c)) with hle | hle
      · rw [Nat.max_eq_right hle] at h
        exact htail h
      · rw [Nat.max_eq_left hle] at h
        exact hhead h

end Needed

end VehicleRecorder.Protocol
