import VehicleRecorder.Protocol.TcpRxProcess

/-!
# What a downlink message does to the link and to the requests

Of all the variables the handlers of `TCP_RX_Process` change, the link and the
sender of the application look at a few: registration, login and the state of the
link, and the flags of the answers that are due.  The module says for every
handler what it does to them.
-/

namespace VehicleRecorder.Protocol

open Bytes Dataflash

/-- Registration, login and the state of the link. -/
structure Session where
  regsiterStatus : UInt8
  operateEnable : UInt8
  loginSdAdd : UInt8
  registSdAdd : UInt8
  online : UInt8
  deriving DecidableEq, Repr

/-- The answers that are due. -/
structure DueAnswers where
  commonAck : UInt8
  position : UInt8
  mediaIndex : UInt8
  setting : UInt8
  control : UInt8
  recorder : UInt8
  ispAck : UInt8
  ispAck88 : UInt8
  ispAck23 : UInt8
  deriving DecidableEq, Repr

/-- What the sender and the link look at. -/
structure LinkView where
  session : Session
  due : DueAnswers
  deriving DecidableEq, Repr

namespace AppState

def session (s : AppState) : Session where
  regsiterStatus := s.conf.regsiterStatus
  operateEnable := s.link.devLoginOperateEnable
  loginSdAdd := s.link.devLoginSdAdd
  registSdAdd := s.link.devRegistSdAdd
  online := s.link.dataLinkOnline

def due (s : AppState) : DueAnswers where
  commonAck := s.sdAckFlag.centreCmdAck0001H
  position := s.sdAckFlag.currentPosition0201H
  mediaIndex := s.sdAckFlag.mediaIndexAck0802H
  setting := s.sdAckFlag.settingPram0104H
  control := s.vehicle.controlAckSdFlag
  recorder := s.media.recodeSdDataFlag
  ispAck := s.isp.ack
  ispAck88 := s.isp.ack88
  ispAck23 := s.isp.ack23

def linkView (s : AppState) : LinkView := ⟨s.session, s.due⟩

/-! ## Parts of the handlers -/

@[simp] theorem linkView_ack (s : AppState) :
    s.ack.linkView = { s.linkView with due.commonAck := 1 } := rfl

@[simp] theorem linkView_setCentreCmdAck (s : AppState) (v : UInt8) :
    (s.setCentreCmdAck v).linkView = { s.linkView with due.commonAck := v } := rfl

@[simp] theorem linkView_store (s : AppState) (d : Arr) (xs : List UInt8)
    (len : ℤ) : (s.store d xs len).linkView = s.linkView := rfl

@[simp] theorem linkView_memset (s : AppState) (d : Arr) (len : ℕ) :
    (s.memset d len).linkView = s.linkView := rfl

@[simp] theorem linkView_memcpy (s : AppState) (d : Arr) (f : ℕ → UInt8)
    (src : ℕ) (len : ℤ) : (s.memcpy d f src len).linkView = s.linkView := rfl

@[simp] theorem linkView_saveJT808 (s : AppState) :
    s.saveJT808.linkView = s.linkView := rfl

@[simp] theorem linkView_saveSysConf (s : AppState) :
    s.saveSysConf.linkView = s.linkView := rfl

@[simp] theorem linkView_saveTiredConf (s : AppState) :
    s.saveTiredConf.linkView = s.linkView := rfl

@[simp] theorem linkView_recordNumWrite (s : AppState) (name : RecordName)
    (recNum : ℕ) (record : List UInt8) :
    (s.recordNumWrite name recNum record).linkView = s.linkView := by
  unfold recordNumWrite linkView session due
  rfl

@[simp] theorem linkView_call (s : AppState) (c : Call) :
    (s.call c).linkView = s.linkView := rfl

theorem linkView_foldl {α : Type*} {f : AppState → α → AppState}
    (hf : ∀ s a, (f s a).linkView = s.linkView) (xs : List α) (s : AppState) :
    (xs.foldl f s).linkView = s.linkView := by
  induction xs generalizing s with
  | nil => rfl
  | cons a xs ih => rw [List.foldl_cons, ih, hf]

theorem linkView_ttsGetData (s : AppState) (f : ℕ → UInt8) (src : ℕ)
    (len : ℤ) : (s.ttsGetData f src len).linkView = s.linkView := by
  unfold ttsGetData
  dsimp only
  split <;> rfl

theorem linkView_playText (rx : ℕ → UInt8) (len : ℤ) (s : AppState) :
    (s.playText rx len).linkView = s.linkView := by
  unfold playText
  split
  · exact linkView_ttsGetData _ _ _ _
  · rfl

theorem linkView_keepText (rx : ℕ → UInt8) (len : ℤ) (s : AppState) :
    (s.keepText rx len).linkView = s.linkView := by
  unfold keepText
  split <;> rfl

theorem linkView_replacePhoneBook (n i : ℕ) (s : AppState) :
    (replacePhoneBook n i s).linkView = s.linkView := by
  induction n generalizing i s with
  | zero => rfl
  | succ n ih =>
      unfold replacePhoneBook
      dsimp only
      split
      · rfl
      · rw [ih]
        rfl

theorem linkView_routeLoop (rx : ℕ → UInt8) (n i r : ℕ) (s : AppState) :
    (routeLoop rx n i r s).linkView = s.linkView := by
  induction n generalizing i r s with
  | zero => rfl
  | succ n ih =>
      unfold routeLoop
      rw [ih]
      rfl

theorem linkView_deleteLoop {delete : ℕ → AppState → AppState}
    (hdelete : ∀ id s, (delete id s).linkView = s.linkView) (rx : ℕ → UInt8)
    (s : AppState) : (deleteLoop delete rx s).linkView = s.linkView :=
  linkView_foldl (fun s i => hdelete (be32 rx (14 + i)) s) _ s

/-! ## Parameters -/

/-- A general answer is due afterwards if one was before, and the rest is the
same. -/
def AcksOnly (s s' : AppState) : Prop :=
  ∃ v, s'.linkView = { s.linkView with due.commonAck := v } ∧
    (s.due.commonAck ≠ 0 → v ≠ 0)

theorem AcksOnly.of_eq {s s' : AppState} (h : s'.linkView = s.linkView) :
    s.AcksOnly s' := ⟨s.due.commonAck, h, id⟩

theorem AcksOnly.trans {s₁ s₂ s₃ : AppState} (h : s₁.AcksOnly s₂)
    (h' : s₂.AcksOnly s₃) : s₁.AcksOnly s₃ := by
  obtain ⟨v, hview, hv⟩ := h
  obtain ⟨w, hview', hw⟩ := h'
  refine ⟨w, by rw [hview', hview], fun hdue => hw ?_⟩
  have hdue₂ : s₂.due.commonAck = v := congrArg (·.due.commonAck) hview
  rw [hdue₂]
  exact hv hdue

theorem AcksOnly.of_ack {s s' : AppState} {v : UInt8}
    (h : s'.linkView = { s.linkView with due.commonAck := v }) (hv : v ≠ 0) :
    s.AcksOnly s' := ⟨v, h, fun _ => hv⟩

theorem AcksOnly.setDword {s : AppState} (infolen : UInt8)
    (content : ℕ → UInt8) {put : ℕ → AppState} (h : ∀ v, s.AcksOnly (put v)) :
    s.AcksOnly (s.setDword infolen content put) := by
  rw [AppState.setDword]
  split
  · exact .of_eq rfl
  · exact h _

theorem linkView_setListenNum (s : AppState) (infolen : UInt8)
    (content : ℕ → UInt8) :
    (s.setListenNum infolen content).linkView = s.linkView := by
  rw [setListenNum]
  split <;> rfl

theorem linkView_setApn (s : AppState) (infolen : UInt8)
    (content : ℕ → UInt8) :
    (s.setApn infolen content).linkView = s.linkView := by
  rw [setApn]
  split <;> rfl

theorem acksOnly_setMainServer (s : AppState) (infolen : UInt8)
    (content : ℕ → UInt8) : s.AcksOnly (s.setMainServer infolen content) := by
  unfold setMainServer
  dsimp only
  split
  · exact .of_ack (v := 2) rfl (by decide)
  · exact .of_ack (v := 2) rfl (by decide)

theorem acksOnly_setAuxServer (s : AppState) (infolen : UInt8)
    (content : ℕ → UInt8) : s.AcksOnly (s.setAuxServer infolen content) := by
  unfold setAuxServer
  dsimp only
  split
  · exact .of_ack (v := 2) rfl (by decide)
  · exact .of_eq rfl

theorem acksOnly_sub8103H (subId : ℕ) (infolen : UInt8)
    (content : ℕ → UInt8) (s : AppState) :
    s.AcksOnly (s.centreSetSubService8103H subId infolen content) := by
  unfold centreSetSubService8103H
  dsimp only
  split
  case h_6 => exact .of_eq (linkView_setApn s infolen content)
  case h_7 => exact acksOnly_setMainServer s infolen content
  case h_8 => exact acksOnly_setAuxServer s infolen content
  case h_9 =>
      exact .setDword infolen content fun v =>
        .of_ack (v := 2) rfl (by decide)
  case h_20 =>
      split
      · exact .of_eq rfl
      · exact .of_eq ((linkView_setListenNum _ infolen content).trans rfl)
  case h_21 => exact .of_eq (linkView_setListenNum s infolen content)
  case h_22 =>
      split
      · exact .of_eq rfl
      · exact .of_eq (linkView_setListenNum s infolen content)
  all_goals first
    | exact .of_eq rfl
    | exact .setDword infolen content fun v => .of_eq rfl
    | (split <;> exact .of_eq rfl)

theorem acksOnly_sub8105H (controlId : UInt8) (s : AppState) :
    s.AcksOnly (s.centreSetSubService8105H controlId) := by
  unfold centreSetSubService8105H
  split
  · exact .of_ack (v := 5) rfl (by decide)
  · exact .of_ack (v := 3) rfl (by decide)
  · exact .of_ack (v := 5) rfl (by decide)
  · exact .of_ack (v := 5) rfl (by decide)
  · exact .of_eq rfl

theorem linkView_sub8701H (cmd : UInt8) (instr : ℕ → UInt8) (s : AppState) :
    (s.centerSetSubService8701H cmd instr).linkView = s.linkView := by
  unfold centerSetSubService8701H
  split <;> rfl

theorem linkView_subFF01H (subId : ℕ) (infolen : UInt8)
    (content : ℕ → UInt8) (s : AppState) :
    (s.centreSetSubServiceFF01H subId infolen content).linkView =
      s.linkView := by
  unfold centreSetSubServiceFF01H
  split
  all_goals first
    | rfl
    | (unfold setDword
       dsimp only
       split
       · rfl
       · first
         | rfl
         | (split <;> rfl))

theorem linkView_subFF03H (subId : ℕ) (infolen : UInt8)
    (content : ℕ → UInt8) (s : AppState) :
    (s.centreSetSubServiceFF03H subId infolen content).linkView =
      s.linkView := by
  unfold centreSetSubServiceFF03H
  split
  · unfold setCanFilter
    dsimp only
    split
    · rfl
    · split <;> rfl
  · rfl
  · rfl

theorem acksOnly_serveItem (sub : SubService) (rx : ℕ → UInt8) (c : ℕ)
    (s : AppState) : s.AcksOnly (serveItem sub rx c s) := by
  unfold serveItem
  dsimp only
  cases sub with
  | sub8103H => exact .trans (.of_eq rfl) (acksOnly_sub8103H _ _ _ _)
  | subFF01H => exact .trans (.of_eq rfl) (.of_eq (linkView_subFF01H _ _ _ _))
  | subFF03H => exact .trans (.of_eq rfl) (.of_eq (linkView_subFF03H _ _ _ _))

theorem acksOnly_parameterLoop (sub : SubService) (rx : ℕ → UInt8)
    (n c : ℕ) (s : AppState) : s.AcksOnly (parameterLoop sub rx n c s) := by
  induction n generalizing c s with
  | zero => exact .of_eq rfl
  | succ n ih => exact (acksOnly_serveItem sub rx c s).trans (ih _ _)

/-! ## Handlers that leave the session alone -/

/-- A handler that ends with the general answer. -/
theorem AcksOnly.ack {s s' : AppState} (h : s'.linkView = s.linkView) :
    s.AcksOnly s'.ack :=
  .of_ack (v := 1) (by rw [linkView_ack, h]) (by decide)

theorem acksOnly_case8103 (rx : ℕ → UInt8) (s : AppState) :
    s.AcksOnly (s.case8103 rx) := by
  have hloop :=
    acksOnly_parameterLoop .sub8103H rx (rx 13).toNat 14 s
  rw [case8103]
  generalize parameterLoop .sub8103H rx (rx 13).toNat 14 s = t at hloop ⊢
  refine hloop.trans ?_
  dsimp only
  split
  · exact .of_eq rfl
  · split
    · exact .ack rfl
    · exact .of_eq rfl

theorem acksOnly_case8105 (rx : ℕ → UInt8) (s : AppState) :
    s.AcksOnly (s.case8105 rx) := by
  have hcontrol := acksOnly_sub8105H (rx 13) s
  rw [case8105]
  generalize s.centreSetSubService8105H (rx 13) = t at hcontrol ⊢
  refine hcontrol.trans ?_
  split
  · exact .ack rfl
  · exact .of_eq rfl

/-! ## Texts and the books of the centre -/

@[simp] theorem linkView_showText (s : AppState) (f : ℕ → UInt8) (src : ℕ)
    (len : ℤ) : (s.showText f src len).linkView = s.linkView := rfl

theorem acksOnly_case8300 (rx : ℕ → UInt8) (s : AppState) :
    s.AcksOnly (s.case8300 rx) := by
  rw [case8300]
  refine .ack ?_
  rw [linkView_showText, linkView_keepText, linkView_playText]
  rfl

@[simp] theorem linkView_writeEvent (s : AppState) :
    s.writeEvent.linkView = s.linkView := by
  rw [writeEvent, linkView_recordNumWrite]

@[simp] theorem linkView_writeMsgBroadCast (s : AppState) :
    s.writeMsgBroadCast.linkView = s.linkView := by
  rw [writeMsgBroadCast, linkView_recordNumWrite]

@[simp] theorem linkView_writeRailCycle (s : AppState) :
    s.writeRailCycle.linkView = s.linkView := by
  rw [writeRailCycle, linkView_recordNumWrite]

@[simp] theorem linkView_writeRailRectangle (s : AppState) :
    s.writeRailRectangle.linkView = s.linkView := by
  rw [writeRailRectangle, linkView_recordNumWrite]

@[simp] theorem linkView_writeRailPolygen (s : AppState) :
    s.writeRailPolygen.linkView = s.linkView := by
  rw [writeRailPolygen, linkView_recordNumWrite]

@[simp] theorem linkView_writeRoute (s : AppState) :
    s.writeRoute.linkView = s.linkView := by
  rw [writeRoute, linkView_recordNumWrite]

theorem linkView_eventInit (s : AppState) :
    s.eventInit.linkView = s.linkView := by
  refine (linkView_foldl (fun s i => ?_) _ _).trans rfl
  rw [linkView_writeEvent]
  rfl

theorem linkView_msgBroadCastInit (s : AppState) :
    s.msgBroadCastInit.linkView = s.linkView := by
  refine (linkView_foldl (fun s i => ?_) _ _).trans rfl
  rw [linkView_writeMsgBroadCast]
  rfl

theorem linkView_railCycleInit (s : AppState) :
    s.railCycleInit.linkView = s.linkView := by
  refine (linkView_foldl (fun s i => ?_) _ _).trans rfl
  rw [linkView_writeRailCycle]
  rfl

theorem linkView_railRectInit (s : AppState) :
    s.railRectInit.linkView = s.linkView := by
  refine (linkView_foldl (fun s i => ?_) _ _).trans rfl
  rw [linkView_writeRailRectangle]
  rfl

theorem linkView_railPolygenInit (s : AppState) :
    s.railPolygenInit.linkView = s.linkView := by
  refine (linkView_foldl (fun s i => ?_) _ _).trans rfl
  rw [linkView_writeRailPolygen]
  rfl

theorem linkView_routeLineInit (s : AppState) :
    s.routeLineInit.linkView = s.linkView := by
  refine (linkView_foldl (fun s i => ?_) _ _).trans rfl
  rw [linkView_writeRoute]
  rfl

theorem acksOnly_case8301 (rx : ℕ → UInt8) (s : AppState) :
    s.AcksOnly (s.case8301 rx) := by
  rw [case8301]
  refine .ack ?_
  split
  · exact linkView_eventInit s
  · split
    · split
      · rfl
      · rw [linkView_writeEvent]
        rfl
    · rfl

theorem acksOnly_case8302 (rx : ℕ → UInt8) (s : AppState) :
    s.AcksOnly (s.case8302 rx) := by
  rw [case8302]
  refine .ack ?_
  rw [linkView_recordNumWrite]
  rfl

theorem acksOnly_case8303 (rx : ℕ → UInt8) (s : AppState) :
    s.AcksOnly (s.case8303 rx) := by
  rw [case8303]
  refine .ack ?_
  split
  · exact linkView_msgBroadCastInit s
  · split
    · split
      · rfl
      · rw [linkView_writeMsgBroadCast]
        rfl
    · rfl

theorem acksOnly_case8400 (rx : ℕ → UInt8) (s : AppState) :
    s.AcksOnly (s.case8400 rx) := by
  rw [case8400]
  split
  · exact .of_eq rfl
  · split
    · exact .ack rfl
    · exact .of_eq rfl

theorem acksOnly_case8401 (rx : ℕ → UInt8) (s : AppState) :
    s.AcksOnly (s.case8401 rx) := by
  rw [case8401]
  refine .ack ?_
  split
  · rw [linkView_replacePhoneBook]
    rfl
  · rw [linkView_replacePhoneBook]
    rfl
  · rfl
  · rfl

/-! ## Areas, routes and media -/

theorem linkView_deleteRailCycle (id : ℕ) (s : AppState) :
    ({ s with
      records.railCycle.areaId := areaNumber 8 id
      records.railCycle.effectiveFlag := 0 } : AppState).writeRailCycle.linkView
      = s.linkView := by
  rw [linkView_writeRailCycle]
  rfl

theorem linkView_deleteRailRectangle (id : ℕ) (s : AppState) :
    ({ s with
      records.railRectangle.areaId := areaNumber 8 id
      records.railRectangle.effectiveFlag := 0 } :
        AppState).writeRailRectangle.linkView = s.linkView := by
  rw [linkView_writeRailRectangle]
  rfl

theorem linkView_deleteRailPolygen (id : ℕ) (s : AppState) :
    ({ s with
      records.railPolygen.areaId := areaNumber 8 id
      records.railPolygen.effectiveFlag := 0 } :
        AppState).writeRailPolygen.linkView = s.linkView := by
  rw [linkView_writeRailPolygen]
  rfl

theorem linkView_deleteRoute (id : ℕ) (s : AppState) :
    ({ s with
      records.routeObj.routeId := areaNumber 16 id
      records.routeObj.effectiveFlag := 0 } : AppState).writeRoute.linkView
      = s.linkView := by
  rw [linkView_writeRoute]
  rfl

theorem linkView_clearRailCycles (s : AppState) :
    ((List.range 8).foldl (fun s _ => s.clearRailCycle.writeRailCycle)
      s).linkView = s.linkView := by
  refine linkView_foldl (fun s i => ?_) _ s
  rw [linkView_writeRailCycle]
  rfl

theorem acksOnly_case8600 (rx : ℕ → UInt8) (s : AppState) :
    s.AcksOnly (s.case8600 rx) := by
  rw [case8600]
  refine .ack ?_
  split
  · extract_lets s₁ s₂ s₃ s₄
    have hclear : s₁.linkView = s.linkView := by
      unfold s₁
      split
      · exact linkView_clearRailCycles s
      · rfl
    rw [linkView_writeRailCycle, ← hclear]
    rfl
  · rfl

theorem acksOnly_case8602 (rx : ℕ → UInt8) (s : AppState) :
    s.AcksOnly (s.case8602 rx) := by
  rw [case8602]
  refine .ack ?_
  split
  · rw [linkView_writeRailRectangle]
    rfl
  · rfl

theorem acksOnly_case8604 (rx : ℕ → UInt8) (s : AppState) :
    s.AcksOnly (s.case8604 rx) := by
  rw [case8604]
  refine .ack ?_
  split
  · rw [linkView_writeRailPolygen]
    rfl
  · rfl

theorem acksOnly_case8601 (rx : ℕ → UInt8) (s : AppState) :
    s.AcksOnly (s.case8601 rx) := by
  rw [case8601]
  refine .ack ?_
  split
  · exact linkView_railCycleInit s
  · exact (linkView_deleteLoop linkView_deleteRailCycle rx _).trans rfl

theorem acksOnly_case8603 (rx : ℕ → UInt8) (s : AppState) :
    s.AcksOnly (s.case8603 rx) := by
  rw [case8603]
  refine .ack ?_
  split
  · exact linkView_railRectInit s
  · exact (linkView_deleteLoop linkView_deleteRailRectangle rx _).trans rfl

theorem acksOnly_case8605 (rx : ℕ → UInt8) (s : AppState) :
    s.AcksOnly (s.case8605 rx) := by
  rw [case8605]
  refine .ack ?_
  split
  · exact linkView_railPolygenInit s
  · exact (linkView_deleteLoop linkView_deleteRailPolygen rx _).trans rfl

theorem linkView_clearRoute (s : AppState) :
    s.clearRoute.linkView = s.linkView := rfl

theorem acksOnly_case8606 (rx : ℕ → UInt8) (s : AppState) :
    s.AcksOnly (s.case8606 rx) := by
  unfold case8606
  extract_lets cleared timed records route started read records' route' done
  have htimed : timed.linkView = cleared.linkView := by
    unfold timed
    rw [linkView_memcpy, linkView_memcpy]
  have hstarted : started.linkView = timed.linkView := by
    unfold linkView session due
    rfl
  have hstart : started.linkView = s.linkView :=
    (hstarted.trans htimed).trans (linkView_clearRoute s)
  have hread : read.linkView = s.linkView :=
    (linkView_routeLoop rx 6 0 33 started).trans hstart
  have hdone : done.linkView = read.linkView := by
    unfold linkView session due
    rfl
  split
  · exact .ack hstart
  · refine .ack ?_
    rw [linkView_writeRoute]
    exact hdone.trans hread

theorem acksOnly_case8607 (rx : ℕ → UInt8) (s : AppState) :
    s.AcksOnly (s.case8607 rx) := by
  rw [case8607]
  refine .ack ?_
  split
  · exact linkView_routeLineInit s
  · exact (linkView_deleteLoop linkView_deleteRoute rx _).trans rfl

theorem acksOnly_case8800 (rx : ℕ → UInt8) (s : AppState) :
    s.AcksOnly (s.case8800 rx) := by
  rw [case8800]
  refine .of_eq ?_
  split
  · dsimp only
    split <;> rfl
  · split <;> rfl

theorem acksOnly_case8801 (rx : ℕ → UInt8) (s : AppState) :
    s.AcksOnly (s.case8801 rx) := by
  rw [case8801]
  dsimp only
  split
  · split
    · exact .of_eq rfl
    · exact .ack rfl
  · exact .ack rfl

theorem acksOnly_case8803 (rx : ℕ → UInt8) (s : AppState) :
    s.AcksOnly (s.case8803 rx) := by
  rw [case8803]
  refine .ack ?_
  split <;> rfl

theorem acksOnly_case8804 (rx : ℕ → UInt8) (s : AppState) :
    s.AcksOnly (s.case8804 rx) := by
  rw [case8804]
  refine .ack ?_
  unfold vocRecStart
  split
  · split <;> rfl
  · rfl

theorem acksOnly_caseFF01 (rx : ℕ → UInt8) (s : AppState) :
    s.AcksOnly (s.caseFF01 rx) :=
  (acksOnly_parameterLoop .subFF01H rx (rx 13).toNat 14 s).trans
    (.ack rfl)

theorem acksOnly_caseFF03 (rx : ℕ → UInt8) (s : AppState) :
    s.AcksOnly (s.caseFF03 rx) :=
  (acksOnly_parameterLoop .subFF03H rx (rx 13).toNat 14 s).trans
    (.ack rfl)

theorem linkView_ackPosition (s : AppState) :
    s.ackPosition.linkView = s.linkView := by
  unfold ackPosition
  extract_lets cleared v alarm v₁ inOut v₂ route v₃ power v₄
  have halarm : alarm.linkView = s.linkView := by
    unfold alarm
    split <;> rfl
  have hinOut : inOut.linkView = alarm.linkView := by
    unfold inOut
    split <;> rfl
  have hroute : route.linkView = inOut.linkView := by
    unfold route
    split <;> rfl
  have hpower : power.linkView = route.linkView := by
    unfold power
    split <;> rfl
  have hstart : power.linkView = s.linkView :=
    ((hpower.trans hroute).trans hinOut).trans halarm
  split
  · exact Eq.trans rfl hstart
  · exact hstart

end AppState

/-! ## Registration and login -/

namespace Session

/-- The general answer to message `id`, a confirmation of it. -/
def confirm (s : Session) (id : ℕ) : Session :=
  match id with
  | 0x0101 => { s with regsiterStatus := 0 }
  | 0x0102 =>
      { s with
        operateEnable := 2
        loginSdAdd := 0
        online := if s.online ≠ 0 then 1 else s.online }
  | _ => s

/-- The answer to a registration: 0 for a success, 3 for a terminal that is
registered. -/
def registered (s : Session) (result : UInt8) : Session :=
  match result with
  | 0 => { s with regsiterStatus := 1, registSdAdd := 0, operateEnable := 1 }
  | 3 => if s.regsiterStatus = 1 then { s with operateEnable := 1 } else s
  | _ => s

/-- What an accepted message does to the session. -/
def afterDownlink (s : Session) (cmdId : ℕ) (rx : ℕ → UInt8) : Session :=
  match cmdId with
  | 0x8001 => if rx 17 = 0 then s.confirm (be16 rx 15) else s
  | 0x8100 => s.registered (rx 15)
  | _ => s

end Session

namespace AppState

theorem session_case8001 (rx : ℕ → UInt8) (s : AppState) :
    (s.case8001 rx).session =
      if rx 17 = 0 then s.session.confirm (be16 rx 15) else s.session := by
  unfold case8001
  generalize be16 rx 15 = id
  by_cases hok : rx 17 = 0
  · simp only [if_pos hok, if_neg (not_not_intro hok)]
    split
    · exact congrArg LinkView.session (linkView_ackPosition s)
    · rfl
    · rfl
    · have honline : s.session.online = s.link.dataLinkOnline := rfl
      rw [Session.confirm, honline]
      split <;> rfl
    · rw [Session.confirm] <;> assumption
  · simp only [if_neg hok, if_pos hok]
    split <;> rfl

theorem session_case8100 (rx : ℕ → UInt8) (s : AppState) :
    (s.case8100 rx).session = s.session.registered (rx 15) := by
  have hregistered : s.session.regsiterStatus = s.conf.regsiterStatus := rfl
  unfold case8100
  generalize rx 15 = result
  split
  · rfl
  · rw [Session.registered, hregistered]
    split
    · rw [if_neg (by rw [‹s.conf.regsiterStatus = 0›]; decide)]
    · split <;> rfl
  · rw [Session.registered] <;> assumption

theorem due_case8001 (rx : ℕ → UInt8) (s : AppState) :
    (s.case8001 rx).due = s.due := by
  unfold case8001
  split
  · split
    · rfl
    · exact congrArg LinkView.due (linkView_ackPosition s)
  · rfl
  · split <;> rfl
  · split
    · dsimp only
      split <;> rfl
    · rfl
  · rfl

theorem due_case8100 (rx : ℕ → UInt8) (s : AppState) :
    (s.case8100 rx).due = s.due := by
  unfold case8100
  split
  · rfl
  · split
    · rfl
    · split <;> rfl
  · rfl

end AppState

/-! ## The answers that are asked for -/

namespace DueAnswers

/-- The answers that the transparent data of the remote update ask for. -/
def afterUpdate (a : DueAnswers) (instr15 : UInt8) : DueAnswers :=
  match instr15 with
  | 0x91 => { a with ispAck := 1 }
  | 0x93 => { a with ispAck88 := 1 }
  | 0x95 => { a with ispAck23 := 1 }
  | _ => a

/-- The kinds of media that can be asked for. -/
def afterMediaQuery (a : DueAnswers) (kind : UInt8) : DueAnswers :=
  match kind with
  | 0 => { a with mediaIndex := 1 }
  | 1 => { a with mediaIndex := 3 }
  | 2 => { a with mediaIndex := 3 }
  | _ => a

/-- The answers, the general one apart, that an accepted message asks for. -/
def afterDownlink (a : DueAnswers) (cmdId linkNum : ℕ) (rx : ℕ → UInt8) :
    DueAnswers :=
  match cmdId with
  | 0x8104 => { a with setting := 1 }
  | 0x8201 => { a with position := 1 }
  | 0x8500 => { a with control := 1 }
  | 0x8700 => { a with recorder := 1 }
  | 0x8701 => { a with recorder := 1 }
  | 0x8802 => a.afterMediaQuery (rx 13)
  | 0x8900 => if linkNum ≠ 0 ∧ rx 13 = 0x1F then a.afterUpdate (rx 29) else a
  | _ => a

end DueAnswers

/-- What an accepted message does to all of them. -/
def LinkView.afterDownlink (v : LinkView) (cmdId linkNum : ℕ)
    (rx : ℕ → UInt8) : LinkView where
  session := v.session.afterDownlink cmdId rx
  due := v.due.afterDownlink cmdId linkNum rx

namespace AppState

/-- What the sender looks at is `w` afterwards, but for a general answer that
may have become due. -/
def AcksTo (s s' : AppState) (w : LinkView) : Prop :=
  ∃ v, s'.linkView = { w with due.commonAck := v } ∧
    (s.due.commonAck ≠ 0 → v ≠ 0)

theorem AcksTo.of_eq {s s' : AppState} {w : LinkView} (h : s'.linkView = w)
    (hack : w.due.commonAck = s.due.commonAck) : s.AcksTo s' w :=
  ⟨w.due.commonAck, h, fun hdue => hack ▸ hdue⟩

theorem acksTo_case8802 (linkNum : ℕ) (rx : ℕ → UInt8) (s : AppState) :
    s.AcksTo (s.case8802 rx) (s.linkView.afterDownlink 0x8802 linkNum rx) := by
  unfold case8802 LinkView.afterDownlink DueAnswers.afterDownlink
  generalize rx 13 = kind
  dsimp only
  split
  · exact .of_eq rfl rfl
  · exact .of_eq rfl rfl
  · exact .of_eq rfl rfl
  · rw [DueAnswers.afterMediaQuery]
    · exact .of_eq rfl rfl
    all_goals assumption

theorem acksTo_nullpro8900H (instr : ℕ → UInt8) (s : AppState) :
    s.AcksTo (nullpro8900H instr s)
      { s.linkView with due := s.due.afterUpdate (instr 15) } := by
  unfold nullpro8900H
  generalize instr 15 = cmd
  split
  · exact .of_eq rfl rfl
  · exact .of_eq rfl rfl
  · exact .of_eq rfl rfl
  · rw [DueAnswers.afterUpdate]
    · exact .of_eq rfl rfl
    all_goals assumption

theorem acksTo_case8900 (linkNum : ℕ) (rx : ℕ → UInt8) (s : AppState) :
    s.AcksTo (s.case8900 linkNum rx)
      (s.linkView.afterDownlink 0x8900 linkNum rx) := by
  unfold case8900 LinkView.afterDownlink DueAnswers.afterDownlink
  by_cases hlink : linkNum = 0
  · rw [if_pos hlink]
    simp only [hlink, ne_eq, not_true_eq_false, false_and, if_false]
    exact AcksOnly.ack (s := s) rfl
  · rw [if_neg hlink]
    by_cases hupdate : rx 13 = 0x1F
    · rw [if_pos hupdate]
      simp only [hlink, hupdate, ne_eq, not_false_eq_true, and_self, if_true]
      exact acksTo_nullpro8900H (fun i => rx (14 + i)) s
    · rw [if_neg hupdate]
      simp only [hupdate, and_false, if_false]
      exact .of_eq rfl rfl

/-- What the command switch does to the link and to the answers that are due. -/
theorem acksTo_commandSwitch (cmdId linkNum : ℕ) (rx : ℕ → UInt8)
    (s : AppState) :
    s.AcksTo (s.commandSwitch cmdId linkNum rx)
      (s.linkView.afterDownlink cmdId linkNum rx) := by
  unfold commandSwitch
  split
  · exact .of_eq (congrArg₂ LinkView.mk (session_case8001 rx s)
      (due_case8001 rx s)) rfl
  · exact .of_eq (congrArg₂ LinkView.mk (session_case8100 rx s)
      (due_case8100 rx s)) rfl
  · exact acksOnly_case8103 rx s
  · exact .of_eq rfl rfl
  · exact acksOnly_case8105 rx s
  · exact .of_eq rfl rfl
  · exact AcksOnly.ack (s := s) rfl
  · exact acksOnly_case8300 rx s
  · exact acksOnly_case8301 rx s
  · exact acksOnly_case8302 rx s
  · exact acksOnly_case8303 rx s
  · exact AcksOnly.ack (s := s) rfl
  · exact acksOnly_case8400 rx s
  · exact acksOnly_case8401 rx s
  · exact .of_eq rfl rfl
  · exact acksOnly_case8600 rx s
  · exact acksOnly_case8601 rx s
  · exact acksOnly_case8602 rx s
  · exact acksOnly_case8603 rx s
  · exact acksOnly_case8604 rx s
  · exact acksOnly_case8605 rx s
  · exact acksOnly_case8606 rx s
  · exact acksOnly_case8607 rx s
  · exact .of_eq rfl rfl
  · exact .of_eq (linkView_sub8701H _ _ _) rfl
  · exact acksOnly_case8800 rx s
  · exact acksOnly_case8801 rx s
  · exact acksTo_case8802 linkNum rx s
  · exact acksOnly_case8803 rx s
  · exact acksOnly_case8804 rx s
  · exact AcksOnly.ack (s := s) rfl
  · exact acksTo_case8900 linkNum rx s
  · exact AcksOnly.ack (s := s) rfl
  · exact acksOnly_caseFF01 rx s
  · exact .of_eq rfl rfl
  · exact acksOnly_caseFF03 rx s
  · refine .of_eq ?_ ?_
    · rw [LinkView.afterDownlink, Session.afterDownlink,
        DueAnswers.afterDownlink] <;> first | rfl | assumption
    · rw [LinkView.afterDownlink, DueAnswers.afterDownlink] <;>
        first | rfl | assumption

theorem session_commandSwitch (cmdId linkNum : ℕ) (rx : ℕ → UInt8)
    (s : AppState) :
    (s.commandSwitch cmdId linkNum rx).session =
      s.session.afterDownlink cmdId rx := by
  obtain ⟨v, hview, -⟩ := acksTo_commandSwitch cmdId linkNum rx s
  exact congrArg LinkView.session hview

theorem due_commandSwitch (cmdId linkNum : ℕ) (rx : ℕ → UInt8)
    (s : AppState) :
    ∃ v, (s.commandSwitch cmdId linkNum rx).due =
        { s.due.afterDownlink cmdId linkNum rx with commonAck := v } ∧
      (s.due.commonAck ≠ 0 → v ≠ 0) := by
  obtain ⟨v, hview, hv⟩ := acksTo_commandSwitch cmdId linkNum rx s
  exact ⟨v, congrArg LinkView.due hview, hv⟩

end AppState

end VehicleRecorder.Protocol
