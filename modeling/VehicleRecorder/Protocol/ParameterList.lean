import VehicleRecorder.Protocol.TcpRxProcess

/-!
# Parameter lists

The messages `0x8103`, `0xFF01` and `0xFF03` carry a count and that many items,
each with a number, a length and a content.  The loop that serves them keeps the
offset of the next item in a `u8`, so that an item behind the first 256 bytes of
the frame is looked for 256 bytes, or a multiple of it, in front of its place.
-/

namespace VehicleRecorder.Protocol

open Bytes

/-! ## Items -/

/-- An item of a parameter list. -/
structure Item where
  subId : ℕ
  content : List UInt8
  subId_lt : subId < 4294967296
  content_lt : content.length < 256

namespace Item

/-- The item in the message. -/
def bytes (it : Item) : List UInt8 :=
  beBytes4 it.subId ++ UInt8.ofNat it.content.length :: it.content

@[simp] theorem bytes_length (it : Item) :
    it.bytes.length = it.content.length + 5 := by
  rw [bytes, List.length_append, beBytes4_length, List.length_cons]
  omega

/-- The call of the service that the item asks for. -/
def call (sub : SubService) (it : Item) : ServiceCall :=
  ⟨sub, it.subId, UInt8.ofNat it.content.length, it.content⟩

theorem toNat_length (it : Item) :
    (UInt8.ofNat it.content.length).toNat = it.content.length :=
  Nat.mod_eq_of_lt it.content_lt

end Item

/-- The body of a message with a parameter list. -/
def listBody (items : List Item) : List UInt8 :=
  UInt8.ofNat items.length :: items.flatMap Item.bytes

/-- The offset of item `k` in the frame. -/
def itemOffset (items : List Item) (k : ℕ) : ℕ :=
  14 + ((items.take k).flatMap Item.bytes).length

/-- The message that calls a service. -/
def SubService.cmdId : SubService → ℕ
  | .sub8103H => 0x8103
  | .subFF01H => 0xFF01
  | .subFF03H => 0xFF03

/-- A decoded frame that carries a parameter list. -/
structure CarriesList (r : RxState) (sub : SubService) (items : List Item) :
    Prop where
  cmd : r.centreCmdID = sub.cmdId
  count : items.length < 256
  size : (listBody items).length ≤ 1023
  infolen : infolen r.hexRx = (listBody items).length
  inFrame : 13 + (listBody items).length + 2 ≤ r.decodeHexLen
  body : readBytes r.hexRx 13 (listBody items).length = listBody items

/-! ## The calls of the loop -/

/-- The call for the item at offset `c`. -/
def callAt (sub : SubService) (rx : ℕ → UInt8) (c : ℕ) : ServiceCall :=
  ⟨sub, be32 rx c, rx (c + 4), readBytes rx (c + 5) (rx (c + 4)).toNat⟩

/-- The calls of the loop for `n` more items from offset `c` on. -/
def loopCalls (sub : SubService) (rx : ℕ → UInt8) : ℕ → ℕ → List ServiceCall
  | 0, _ => []
  | n + 1, c => callAt sub rx c :: loopCalls sub rx n (nextItem rx c)

section ServiceCalls

/-! The services leave the log of calls alone. -/

variable (infolen : UInt8) (content : ℕ → UInt8) (s : AppState)

open AppState

@[simp] theorem setDword_serviceCalls {put : ℕ → AppState}
    (h : ∀ v, (put v).serviceCalls = s.serviceCalls) :
    (s.setDword infolen content put).serviceCalls = s.serviceCalls := by
  rw [setDword]
  split
  · rfl
  · exact h _

@[simp] theorem setListenNum_serviceCalls :
    (s.setListenNum infolen content).serviceCalls = s.serviceCalls := by
  rw [setListenNum]
  split <;> rfl

@[simp] theorem setApn_serviceCalls :
    (s.setApn infolen content).serviceCalls = s.serviceCalls := by
  rw [setApn]
  split <;> rfl

@[simp] theorem setMainServer_serviceCalls :
    (s.setMainServer infolen content).serviceCalls = s.serviceCalls := by
  rw [setMainServer]
  dsimp only
  split <;> rfl

@[simp] theorem setAuxServer_serviceCalls :
    (s.setAuxServer infolen content).serviceCalls = s.serviceCalls := by
  rw [setAuxServer]
  dsimp only
  split <;> rfl

theorem centreSetSubService8103H_serviceCalls (subId : ℕ) :
    (centreSetSubService8103H subId infolen content s).serviceCalls =
      s.serviceCalls := by
  rw [centreSetSubService8103H.eq_def]
  split
  case h_6 => exact setApn_serviceCalls infolen content s
  case h_7 => exact setMainServer_serviceCalls infolen content s
  case h_8 => exact setAuxServer_serviceCalls infolen content s
  case h_20 =>
    split
    · rfl
    · exact setListenNum_serviceCalls infolen content _
  case h_21 => exact setListenNum_serviceCalls infolen content s
  case h_22 =>
    split
    · rfl
    · exact setListenNum_serviceCalls infolen content s
  all_goals
    first
    | exact setDword_serviceCalls infolen content s fun v => rfl
    | rfl
    | split <;> rfl

theorem centreSetSubServiceFF01H_serviceCalls (subId : ℕ) :
    (centreSetSubServiceFF01H subId infolen content s).serviceCalls =
      s.serviceCalls := by
  rw [centreSetSubServiceFF01H.eq_def]
  split
  case h_8 => rfl
  all_goals
    apply setDword_serviceCalls
    intro v
    first
    | rfl
    | dsimp only; split <;> rfl

theorem centreSetSubServiceFF03H_serviceCalls (subId : ℕ) :
    (centreSetSubServiceFF03H subId infolen content s).serviceCalls =
      s.serviceCalls := by
  rw [centreSetSubServiceFF03H.eq_def]
  split
  · rw [setCanFilter]
    split
    · rfl
    · dsimp only
      split <;> rfl
  · rfl
  · rfl

theorem run_serviceCalls (sub : SubService) (subId : ℕ) :
    (sub.run subId infolen content s).serviceCalls = s.serviceCalls := by
  cases sub with
  | sub8103H => exact centreSetSubService8103H_serviceCalls infolen content s _
  | subFF01H => exact centreSetSubServiceFF01H_serviceCalls infolen content s _
  | subFF03H => exact centreSetSubServiceFF03H_serviceCalls infolen content s _

theorem note_serviceCalls (sub : SubService) (subId : ℕ) :
    (sub.note subId s).serviceCalls = s.serviceCalls := by
  cases sub <;> rfl

end ServiceCalls

theorem serveItem_serviceCalls (sub : SubService) (rx : ℕ → UInt8) (c : ℕ)
    (s : AppState) :
    (serveItem sub rx c s).serviceCalls =
      s.serviceCalls ++ [callAt sub rx c] := by
  rw [serveItem, run_serviceCalls, note_serviceCalls, readBytes_shift,
    Nat.add_zero, callAt]

theorem parameterLoop_serviceCalls (sub : SubService) (rx : ℕ → UInt8)
    (n c : ℕ) (s : AppState) :
    (parameterLoop sub rx n c s).serviceCalls =
      s.serviceCalls ++ loopCalls sub rx n c := by
  induction n generalizing c s with
  | zero => rw [parameterLoop, loopCalls, List.append_nil]
  | succ n ih =>
      rw [parameterLoop, ih, serveItem_serviceCalls, loopCalls,
        List.append_assoc, List.singleton_append]

/-- The calls of a whole message. -/
theorem commandSwitch_serviceCalls (sub : SubService) (linkNum : ℕ)
    (rx : ℕ → UInt8) (s : AppState) :
    (s.commandSwitch sub.cmdId linkNum rx).serviceCalls =
      s.serviceCalls ++ loopCalls sub rx (rx 13).toNat 14 := by
  cases sub with
  | sub8103H =>
      have h := parameterLoop_serviceCalls .sub8103H rx (rx 13).toNat 14 s
      change (s.case8103 rx).serviceCalls = _
      rw [AppState.case8103]
      dsimp only
      split
      · exact h
      · split <;> exact h
  | subFF01H => exact parameterLoop_serviceCalls .subFF01H rx _ 14 s
  | subFF03H => exact parameterLoop_serviceCalls .subFF03H rx _ 14 s

/-! ## Items read back -/

/-- The call made at an offset is that of an item exactly if the item lies
there. -/
theorem call_eq_iff (sub : SubService) (rx : ℕ → UInt8) (c : ℕ) (it : Item) :
    callAt sub rx c = it.call sub ↔
      readBytes rx c it.bytes.length = it.bytes := by
  have hsplit : readBytes rx c it.bytes.length =
      readBytes rx c 4 ++
        rx (c + 4) :: readBytes rx (c + 5) it.content.length := by
    have hlen : it.bytes.length = 4 + (it.content.length + 1) := by
      rw [Item.bytes_length]
      omega
    rw [hlen, readBytes_add]
    rfl
  have hlen4 : (readBytes rx c 4).length = (beBytes4 it.subId).length := by
    rw [readBytes_length, beBytes4_length]
  rw [hsplit, Item.bytes, List.append_eq_append_iff_of_size_eq_left hlen4,
    List.cons.injEq, ← be32_eq_iff it.subId_lt, callAt, Item.call,
    ServiceCall.mk.injEq]
  constructor
  · rintro ⟨-, hid, hlen, hcontent⟩
    rw [hlen, it.toNat_length] at hcontent
    exact ⟨hid, hlen, hcontent⟩
  · rintro ⟨hid, hlen, hcontent⟩
    rw [hlen, it.toNat_length]
    exact ⟨rfl, hid, rfl, hcontent⟩

/-- The items lie in the buffer from offset `c` on, as far as a loop with a
`u8` offset can see. -/
def ReadBack (rx : ℕ → UInt8) : ℕ → List Item → Prop
  | _, [] => True
  | c, it :: items =>
      readBytes rx c it.bytes.length = it.bytes ∧
        ReadBack rx ((c + it.bytes.length) % 256) items

theorem loopCalls_eq_iff (sub : SubService) (rx : ℕ → UInt8)
    (items : List Item) (c : ℕ) :
    loopCalls sub rx items.length c = items.map (Item.call sub) ↔
      ReadBack rx c items := by
  induction items generalizing c with
  | nil => exact ⟨fun _ => trivial, fun _ => rfl⟩
  | cons it items ih =>
      rw [List.length_cons, loopCalls, List.map_cons, List.cons.injEq,
        call_eq_iff, ReadBack]
      apply and_congr_right
      intro hread
      have hlen : rx (c + 4) = UInt8.ofNat it.content.length :=
        congrArg ServiceCall.infolen ((call_eq_iff sub rx c it).mpr hread)
      have hnext : nextItem rx c = (c + it.bytes.length) % 256 := by
        rw [nextItem, hlen, it.toNat_length, Item.bytes_length, Nat.add_assoc,
          Nat.add_comm 5]
      rw [hnext]
      exact ih _

/-- The offsets of the loop, from the lengths of the items. -/
theorem readBack_iff (rx : ℕ → UInt8) (items : List Item) (c : ℕ) :
    ReadBack rx (c % 256) items ↔
      ∀ k it, items[k]? = some it →
        readBytes rx ((c + ((items.take k).flatMap Item.bytes).length) % 256)
          it.bytes.length = it.bytes := by
  induction items generalizing c with
  | nil => exact ⟨fun _ k it hk => absurd hk (by simp), fun _ => trivial⟩
  | cons it items ih =>
      rw [ReadBack, Nat.mod_add_mod, ih]
      constructor
      · rintro ⟨hhead, htail⟩ k it' hk
        cases k with
        | zero =>
            obtain rfl : it = it' := Option.some.inj hk
            exact hhead
        | succ k =>
            have hoff : c + (((it :: items).take (k + 1)).flatMap
                Item.bytes).length = c + it.bytes.length +
                  ((items.take k).flatMap Item.bytes).length := by
              rw [List.take_succ_cons, List.flatMap_cons, List.length_append,
                Nat.add_assoc]
            rw [hoff]
            exact htail k it' hk
      · intro h
        refine ⟨h 0 it rfl, ?_⟩
        intro k it' hk
        have hnext := h (k + 1) it' hk
        rw [List.take_succ_cons, List.flatMap_cons, List.length_append,
          ← Nat.add_assoc] at hnext
        exact hnext

/-- An item of the list lies at its offset. -/
theorem CarriesList.item {r : RxState} {sub : SubService} {items : List Item}
    (h : CarriesList r sub items) {k : ℕ} {it : Item}
    (hk : items[k]? = some it) :
    readBytes r.hexRx (itemOffset items k) it.bytes.length = it.bytes := by
  have hbody := h.body
  rw [listBody, List.length_cons, readBytes, List.cons.injEq] at hbody
  have hsplit : items = items.take k ++ it :: items.drop (k + 1) := by
    obtain ⟨hlt, hget⟩ := List.getElem?_eq_some_iff.mp hk
    rw [← hget, List.getElem_cons_drop, List.take_append_drop]
  have hlen : (items.flatMap Item.bytes).length =
      ((items.take k).flatMap Item.bytes).length +
        (it.bytes.length +
          ((items.drop (k + 1)).flatMap Item.bytes).length) := by
    conv_lhs => rw [hsplit]
    rw [List.flatMap_append, List.flatMap_cons, List.length_append,
      List.length_append]
  have hitems := hbody.2
  rw [hlen, readBytes_add, readBytes_add] at hitems
  conv_rhs at hitems => rw [hsplit]
  rw [List.flatMap_append, List.flatMap_cons] at hitems
  have htail := (List.append_inj hitems (readBytes_length _ _ _)).2
  exact (List.append_inj htail (readBytes_length _ _ _)).1

/-- The number of items is the count byte. -/
theorem CarriesList.toNat_count {r : RxState} {sub : SubService}
    {items : List Item} (h : CarriesList r sub items) :
    (r.hexRx 13).toNat = items.length := by
  have hbody := h.body
  rw [listBody, List.length_cons, readBytes, List.cons.injEq] at hbody
  rw [hbody.1]
  exact Nat.mod_eq_of_lt h.count

/-! ## Sample lists -/

/-- A message laid out for a list of items carries it. -/
theorem received_carriesList (sub : SubService) {items : List Item}
    (hcount : items.length < 256) (hsize : (listBody items).length ≤ 1023)
    (rest : UInt8) :
    CarriesList
      (tcpRxCheck (received (message sub.cmdId (listBody items)) rest)).1 sub
      items where
  cmd := received_centreCmdID (by cases sub <;> decide) _ rest
  count := hcount
  size := hsize
  infolen := received_infolen (Nat.lt_succ_of_le hsize) _ rest
  inFrame := by
    rw [received_decodeHexLen]
    omega
  body := received_body _ _ rest

/-- An access point name of 250 bytes. -/
def longItem : Item where
  subId := 0x0010
  content := List.replicate 250 0x41
  subId_lt := by decide
  content_lt := by
    rw [List.length_replicate]
    decide

/-- A heartbeat interval of nine seconds. -/
def heartDurItem : Item :=
  ⟨0x0001, [0, 0, 0, 9], by decide, by decide⟩

/-- The second item starts at offset 269. -/
def longList : List Item := [longItem, heartDurItem]

theorem longItem_bytes_length : longItem.bytes.length = 255 := by
  rw [Item.bytes_length, longItem, List.length_replicate]

theorem longList_size : (listBody longList).length ≤ 1023 := by
  rw [listBody, longList, List.length_cons, List.flatMap_cons,
    List.length_append, longItem_bytes_length]
  decide

/-! ## Which lists are served as they were sent -/

theorem tcpRxProcess_serviceCalls {r : RxState} {sub : SubService}
    {items : List Item} (haccept : (tcpRxCheck r).2 = true)
    (hlist : CarriesList (tcpRxCheck r).1 sub items) (linkNum : ℕ)
    (s : AppState) :
    (tcpRxProcess linkNum r s).2.serviceCalls =
      s.serviceCalls ++
        loopCalls sub (tcpRxCheck r).1.hexRx items.length 14 := by
  rw [← hlist.toNat_count, ← commandSwitch_serviceCalls sub linkNum,
    ← hlist.cmd, tcpRxProcess_of_accepted haccept]

/-- The services are called for the items of the message, in order, exactly if
every item behind the first 256 bytes of the frame is found anew where its
offset, taken modulo 256, points to. -/
theorem tcpRxProcess_serviceCalls_iff {r : RxState} {sub : SubService}
    {items : List Item} (haccept : (tcpRxCheck r).2 = true)
    (hlist : CarriesList (tcpRxCheck r).1 sub items) (linkNum : ℕ)
    (s : AppState) :
    (tcpRxProcess linkNum r s).2.serviceCalls =
        s.serviceCalls ++ items.map (Item.call sub) ↔
      ∀ k it, items[k]? = some it → 256 ≤ itemOffset items k →
        readBytes (tcpRxCheck r).1.hexRx (itemOffset items k % 256)
          it.bytes.length = it.bytes := by
  rw [tcpRxProcess_serviceCalls haccept hlist, List.append_cancel_left_eq,
    loopCalls_eq_iff]
  refine (readBack_iff _ items 14).trans ?_
  constructor
  · intro h k it hk _
    exact h k it hk
  · intro h k it hk
    rcases Nat.lt_or_ge (itemOffset items k) 256 with hlt | hge
    · rw [← itemOffset, Nat.mod_eq_of_lt hlt]
      exact hlist.item hk
    · exact h k it hk hge

/-- The interval of the reports, a minute. -/
def defaultDurItem : Item :=
  ⟨0x0029, [0, 0, 0, 60], by decide, by decide⟩

/-- With the long item at the end every item starts in the first 256 bytes. -/
def servedList : List Item := [heartDurItem, defaultDurItem, longItem]

theorem servedList_size : (listBody servedList).length ≤ 1023 := by
  rw [listBody, servedList, List.length_cons, List.flatMap_cons,
    List.flatMap_cons, List.flatMap_cons, List.length_append,
    List.length_append, List.length_append, longItem_bytes_length]
  decide

/-- For such a list the condition holds of itself. -/
theorem tcpRxProcess_serviceCalls_iff_heartDur :
    let r := received (message 0x8103 (listBody servedList)) 0
    (tcpRxProcess 0 r {}).2.serviceCalls =
      servedList.map (Item.call .sub8103H) := by
  intro r
  have haccept : (tcpRxCheck r).2 = true := received_accepted _ 0
  have hlist : CarriesList (tcpRxCheck r).1 .sub8103H servedList :=
    received_carriesList .sub8103H (by decide) servedList_size 0
  refine (tcpRxProcess_serviceCalls_iff haccept hlist 0 {}).mpr ?_
  intro k it hk hoff
  match k with
  | 0 => exact absurd hoff (by decide)
  | 1 => exact absurd hoff (by decide)
  | 2 => exact absurd hoff (by decide)
  | _ + 3 => exact absurd hk (by simp [servedList])

/-- The heartbeat interval behind an item of 250 bytes is not set: the second
call gets what lies at offset 13. -/
theorem longList_not_served :
    let r := received (message 0x8103 (listBody longList)) 0
    (tcpRxCheck r).2 = true ∧ CarriesList (tcpRxCheck r).1 .sub8103H longList ∧
      (tcpRxProcess 0 r {}).2.serviceCalls ≠
        longList.map (Item.call .sub8103H) := by
  intro r
  have haccept : (tcpRxCheck r).2 = true := received_accepted _ 0
  have hlist : CarriesList (tcpRxCheck r).1 .sub8103H longList :=
    received_carriesList .sub8103H (by decide) longList_size 0
  refine ⟨haccept, hlist, ?_⟩
  intro hcalls
  have hread := (loopCalls_eq_iff .sub8103H (tcpRxCheck r).1.hexRx longList
    14).mp ((tcpRxProcess_serviceCalls haccept hlist 0 {}).symm.trans hcalls)
  have hsecond : readBytes (tcpRxCheck r).1.hexRx 13 9 =
      [0, 0, 0, 1, 4, 0, 0, 0, 9] := by
    have h := hread.2.1
    rw [longItem_bytes_length] at h
    exact h
  have hcount : (tcpRxCheck r).1.hexRx 13 = 0 :=
    List.head_eq_of_cons_eq hsecond
  exact absurd (hlist.toNat_count.symm.trans (congrArg UInt8.toNat hcount))
    (by decide)

end VehicleRecorder.Protocol
