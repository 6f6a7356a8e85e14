import VehicleRecorder.Dataflash.CycleDelivery
import VehicleRecorder.Protocol.PositionReader

/-!
# The positions a receiver gets

`Save_GPS` saves the position of the vehicle, and the branch of
`Do_SendGPSReport_GPRS` for stored reports sends what was saved.  In between the
vehicle moves on, and other messages are sent.

A receiver of the frames gets the positions that were saved, in their order,
each one or more times in a row.  The tagged values behind them are those of the
moment of sending.
-/

namespace VehicleRecorder.Protocol

open Bytes Dataflash CycleQueue AtLeastOnce TagLengthValue AppState

/-! ## Saving and sending -/

/-- The branch of `Do_SendGPSReport_GPRS` for stored reports, with its frame. -/
def sendStored (d : Device) (u : Uplink) : Device × Uplink × Bool :=
  if d.readCycleStatus = .rdyToSd then
    match u.stuffNormalData0200H d with
    | (d, u, true) => ({ d with readCycleStatus := .sdOver }, u, true)
    | (d, u, false) => (d, u, false)
  else (d, u, false)

/-- A frame of a stored report, with the variables it was sent with. -/
structure StoredFrame where
  frame : List UInt8
  vars : Reported
  floatId : ℕ

/-- The store of the reports and the uplink, with the vehicles as they were when
they were saved, and the frames of stored reports; no function reads the last
two. -/
structure PositionLink where
  queue : CycleQueue := .initial
  uplink : Uplink := {}
  savedVehicles : List VehicleState := []
  frames : List StoredFrame := []

/-- A step: other code changes the variables; `Save_GPS` saves the position; the
stored reports are worked on; a position of the moment or another message is
sent. -/
inductive PositionStep
  | vars (r : Reported)
  | saveGps
  | chk
  | send
  | update
  | second
  | current0200
  | current0201
  | message (msgId : ℕ) (body : List UInt8)

namespace PositionLink

/-- One step. -/
def step (s : PositionLink) : PositionStep → PositionLink
  | .vars r => { s with uplink.vars := r }
  | .saveGps =>
      { s with
        queue := s.queue.step (.write (gpsSaveBuf s.uplink.vars.vehicle))
        savedVehicles := s.savedVehicles ++ [s.uplink.vars.vehicle] }
  | .chk => { s with queue := s.queue.step .chk }
  | .send =>
      match sendStored s.queue.dev s.uplink with
      | (_, u, true) =>
          { s with
            queue := s.queue.step .send
            uplink := u
            frames := s.frames ++
              [⟨u.tx.gprsInfo, s.uplink.vars, s.uplink.tx.msgFloatID⟩] }
      | (_, u, false) => { s with queue := s.queue.step .send, uplink := u }
  | .update => { s with queue := s.queue.step .update }
  | .second => { s with queue := s.queue.step .second }
  | .current0200 => { s with uplink := s.uplink.stuffCurrentData0200H }
  | .current0201 => { s with uplink := s.uplink.stuffCurrentData0201H }
  | .message msgId body => { s with uplink := s.uplink.stuffMessage msgId body }

/-- A run of steps. -/
def run (s : PositionLink) (es : List PositionStep) : PositionLink :=
  es.foldl step s

/-- The event of the store that a step is. -/
def cycleEvent (s : PositionLink) : PositionStep → Option CycleEvent
  | .saveGps => some (.write (gpsSaveBuf s.uplink.vars.vehicle))
  | .chk => some .chk
  | .send => some .send
  | .update => some .update
  | .second => some .second
  | _ => none

/-! ## The store -/

/-- The branch does to the store what `sendSavedReport` does, and sends the
content that it reads. -/
theorem sendStored_cases (d : Device) (u : Uplink) :
    (∃ d' content, sendSavedReport d = (d', some content) ∧
      sendStored d u = (d', u.finish (((u.head 0x0200).copy content).advance 28
        |>.puts (encode u.vars.items0200)), true)) ∨
    ∃ d' u', sendSavedReport d = (d', none) ∧
      sendStored d u = (d', u', false) ∧ u'.vars = u.vars ∧ u'.tx = u.tx := by
  rw [sendSavedReport, sendStored]
  split
  · rw [Uplink.stuffNormalData0200H]
    generalize apiCycleRead d 31 = r
    obtain ⟨d', content, ok⟩ := r
    cases ok with
    | true => exact Or.inl ⟨_, _, rfl, rfl⟩
    | false => exact Or.inr ⟨_, _, rfl, rfl, rfl, rfl⟩
  · exact Or.inr ⟨_, _, rfl, rfl, rfl, rfl⟩

theorem queue_step (s : PositionLink) (e : PositionStep) :
    (s.step e).queue = ((s.cycleEvent e).map s.queue.step).getD s.queue := by
  cases e with
  | send =>
      simp only [step, cycleEvent, Option.map_some, Option.getD_some]
      generalize sendStored s.queue.dev s.uplink = r
      obtain ⟨d, u, ok⟩ := r
      cases ok with
      | true => rfl
      | false => rfl
  | _ =>
      simp only [step, cycleEvent, Option.map_some, Option.map_none,
        Option.getD_some, Option.getD_none]

theorem queue_of_event {s : PositionLink} {e : PositionStep} {c : CycleEvent}
    (h : s.cycleEvent e = some c) : (s.step e).queue = s.queue.step c := by
  rw [queue_step, h, Option.map_some, Option.getD_some]

theorem queue_of_none {s : PositionLink} {e : PositionStep}
    (h : s.cycleEvent e = none) : (s.step e).queue = s.queue := by
  rw [queue_step, h, Option.map_none, Option.getD_none]

/-- Only a save adds a vehicle. -/
theorem savedVehicles_of_not_save (s : PositionLink) {e : PositionStep}
    (he : e ≠ .saveGps) : (s.step e).savedVehicles = s.savedVehicles := by
  cases e with
  | saveGps => exact absurd rfl he
  | send =>
      rw [step]
      split <;> rfl
  | _ => simp only [step]

/-! ## The frames -/

/-- A frame is read as the position of a saved report, with the SIM code, the
number and the tagged values of the moment of sending. -/
def Carries (f : StoredFrame) (content : List UInt8) : Prop :=
  readReport f.frame =
    some { msgId := 0x0200
           simCode := readBytes f.vars.simCode 0 6
           floatId := f.floatId % 65536
           position := readPosition content
           items := f.vars.items0200 }

theorem length_of_sent {d d' : Device} {content : List UInt8}
    (h : sendSavedReport d = (d', some content)) : content.length = 31 := by
  simp only [sendSavedReport, apiCycleRead, readCycleGPS] at h
  split at h
  · split at h
    · rename_i hread
      split at hread
      · cases hread
      · cases hread
        cases h
        exact dfReadFlash_length _ _ _ _
    · cases h
  · cases h

theorem carries_finish (u : Uplink) {content : List UInt8}
    (hlen : content.length = 31) :
    Carries ⟨(u.finish (((u.head 0x0200).copy content).advance 28
      |>.puts (encode u.vars.items0200))).tx.gprsInfo, u.vars,
      u.tx.msgFloatID⟩ content := by
  have htake : (content.take 28).length = 28 := by
    rw [List.length_take, hlen]
    rfl
  have hhead := protocolHead_holds u.vars.simCode u.tx.msgFloatID
    ⟨u.originalInfo, 0⟩ 0x0200
  have hle : 28 ≤ content.length := by omega
  have hcontent := hhead.copy_take hle
  have hread := readReport_finish (u := u) hcontent htake
    (Nat.lt_of_le_of_lt u.vars.length_items0200 (by decide))
  rw [← readPosition_append htake (content.drop 28), List.take_append_drop]
    at hread
  exact hread

theorem handed_step_of_ne (q : CycleQueue) {c : CycleEvent} (hc : c ≠ .send) :
    (q.step c).handed = q.handed := by
  cases c with
  | send => exact absurd rfl hc
  | write r =>
      rw [CycleQueue.step]
      split <;> rfl
  | update =>
      rw [CycleQueue.step]
      split <;> rfl
  | _ => rfl

/-- Only a send adds a frame. -/
theorem frames_of_not_send (s : PositionLink) {e : PositionStep}
    (he : e ≠ .send) : (s.step e).frames = s.frames := by
  cases e with
  | send => exact absurd rfl he
  | _ => simp only [step]

/-- Only a send hands a content over. -/
theorem handed_of_not_send (s : PositionLink) {e : PositionStep}
    (he : e ≠ .send) : (s.step e).queue.handed = s.queue.handed := by
  have hne (c : CycleEvent) (hc : c ∈ s.cycleEvent e) : c ≠ .send := by
    rintro rfl
    cases e with
    | send => exact he rfl
    | _ => simp [cycleEvent] at hc
  rw [queue_step]
  cases hc : s.cycleEvent e with
  | none => rfl
  | some c =>
      rw [Option.map_some, Option.getD_some]
      exact handed_step_of_ne s.queue (hne c hc)

/-- Every content that is handed over goes out in a frame of its own. -/
theorem carries_send {s : PositionLink}
    (h : List.Forall₂ Carries s.frames s.queue.handed) :
    List.Forall₂ Carries (s.step .send).frames (s.step .send).queue.handed := by
  rcases sendStored_cases s.queue.dev s.uplink with
    ⟨d', content, hsent, heq⟩ | ⟨d', u', hsent, heq, -, -⟩
  · have hhanded : (s.queue.step .send).handed =
        s.queue.handed ++ [content] := by
      rw [CycleQueue.step, hsent]
    simp only [step, heq, hhanded]
    exact List.rel_append h
      (.cons (carries_finish s.uplink (length_of_sent hsent)) .nil)
  · have hhanded : (s.queue.step .send).handed = s.queue.handed := by
      rw [CycleQueue.step, hsent]
    simp only [step, heq, hhanded]
    exact h

theorem carries_step {s : PositionLink}
    (h : List.Forall₂ Carries s.frames s.queue.handed) (e : PositionStep) :
    List.Forall₂ Carries (s.step e).frames (s.step e).queue.handed := by
  by_cases he : e = .send
  · rw [he]
    exact carries_send h
  · rw [frames_of_not_send s he, handed_of_not_send s he]
    exact h

/-! ## Runs -/

/-- A vehicle whose report does not look erased, with a date and a time of two
digits each. -/
structure Savable (v : VehicleState) : Prop where
  first : warnStatusByte v 0 ≠ 0xFF
  second : ¬ (warnStatusByte v 0 = 0 ∧ warnStatusByte v 1 = 0xFF)
  digits : TwoDigits v

/-- The report of such a vehicle is accepted by the store. -/
theorem Savable.acceptable {v : VehicleState} (h : Savable v) :
    Acceptable (gpsSaveBuf v) := by
  obtain ⟨hfirst, hsecond, -⟩ := h
  obtain ⟨a, b, c, d, hws⟩ := exists_vector4 v.warnStatus
  rw [warnStatusByte, hws] at hfirst
  rw [warnStatusByte, warnStatusByte, hws] at hsecond
  apply gpsSaveBuf_acceptable
  · rw [hws]
    exact hfirst
  · rw [hws]
    exact hsecond

/-- The backlog leaves a sector free, and what is saved can be read back. -/
structure Meets (s : PositionLink) (e : PositionStep) : Prop where
  bounded : s.queue.Bounded
  savable : e = .saveGps → Savable s.uplink.vars.vehicle

/-- The store holds the vehicles that were saved. -/
structure Delivers (s : PositionLink) : Prop where
  queue : s.queue.Delivering
  delivered : ∃ d, s.queue.abs.Delivered d
  saved : s.queue.saved = s.savedVehicles.map gpsSaveBuf
  digits : ∀ v ∈ s.savedVehicles, TwoDigits v

theorem Delivers.congr {s s' : PositionLink} (h : s.Delivers)
    (hqueue : s'.queue = s.queue) (hsaved : s'.savedVehicles = s.savedVehicles) :
    s'.Delivers := by
  refine ⟨hqueue ▸ h.queue, hqueue ▸ h.delivered, ?_, hsaved ▸ h.digits⟩
  rw [hqueue, hsaved, h.saved]

/-- An event of the store that saves nothing. -/
theorem Delivers.of_event {s s' : PositionLink} (h : s.Delivers)
    (hb : s.queue.Bounded) {c : CycleEvent} (hc : ∀ r, c ≠ .write r)
    (hqueue : s'.queue = s.queue.step c)
    (hsaved : s'.savedVehicles = s.savedVehicles) : s'.Delivers := by
  obtain ⟨hd, ops, habs⟩ := h.queue.step hb (e := c)
    fun r hr => absurd hr (hc r)
  obtain ⟨d, hdel⟩ := h.delivered
  have hwrites : writes [c] = [] := by
    cases c with
    | write r => exact absurd rfl (hc r)
    | _ => rfl
  refine ⟨hqueue ▸ hd, ?_, ?_, hsaved ▸ h.digits⟩
  · rw [hqueue, habs]
    exact exists_delivered_foldl hdel ops
  · rw [hqueue, hsaved, saved_step h.queue.stored fun r hr => absurd hr (hc r),
      hwrites, List.append_nil, h.saved]

/-- A vehicle saved that can be read back. -/
theorem Delivers.of_save {s s' : PositionLink} (h : s.Delivers)
    (hb : s.queue.Bounded) {v : VehicleState} (hv : Savable v)
    (hqueue : s'.queue = s.queue.step (.write (gpsSaveBuf v)))
    (hsaved : s'.savedVehicles = s.savedVehicles ++ [v]) : s'.Delivers := by
  have hacc (r : List UInt8) (hr : CycleEvent.write (gpsSaveBuf v) = .write r) :
      Acceptable r := by
    cases hr
    exact hv.acceptable
  have hwrites (r : List UInt8) : writes [.write r] = [r] := rfl
  obtain ⟨hd, ops, habs⟩ := h.queue.step hb hacc
  obtain ⟨d, hdel⟩ := h.delivered
  refine ⟨hqueue ▸ hd, ?_, ?_, ?_⟩
  · rw [hqueue, habs]
    exact exists_delivered_foldl hdel ops
  · rw [hqueue, hsaved, saved_step h.queue.stored hacc, hwrites, h.saved,
      List.map_append, List.map_singleton]
  · intro w hw
    rw [hsaved] at hw
    rcases List.mem_append.mp hw with hold | hnew
    · exact h.digits w hold
    · rw [List.mem_singleton.mp hnew]
      exact hv.digits

theorem Delivers.step {s : PositionLink} (h : s.Delivers) {e : PositionStep}
    (he : s.Meets e) : (s.step e).Delivers := by
  have hevent {c : CycleEvent} (hqueue : s.cycleEvent e = some c)
      (hc : ∀ r, c ≠ .write r) (hne : e ≠ .saveGps) : (s.step e).Delivers :=
    h.of_event he.bounded hc (queue_of_event hqueue)
      (savedVehicles_of_not_save s hne)
  cases e with
  | saveGps =>
      exact h.of_save he.bounded (he.savable rfl) (queue_of_event rfl)
        (by simp only [PositionLink.step])
  | chk => exact hevent rfl nofun nofun
  | send => exact hevent rfl nofun nofun
  | update => exact hevent rfl nofun nofun
  | second => exact hevent rfl nofun nofun
  | _ =>
      exact h.congr (queue_of_none rfl) (savedVehicles_of_not_save s nofun)

theorem delivers_start (u : Uplink) : Delivers { uplink := u } where
  queue := delivering_initial
  delivered := ⟨0, delivered_empty⟩
  saved := rfl
  digits := nofun

theorem delivers_run {s : PositionLink} (h : s.Delivers)
    {es : List PositionStep} (hes : Runs.Meeting step Meets s es) :
    (s.run es).Delivers :=
  hes.invariant (fun _ _ h he => h.step he) h

theorem carries_run {s : PositionLink}
    (h : List.Forall₂ Carries s.frames s.queue.handed)
    (es : List PositionStep) :
    List.Forall₂ Carries (s.run es).frames (s.run es).queue.handed :=
  List.foldlRecOn (motive := fun s : PositionLink =>
      List.Forall₂ Carries s.frames s.queue.handed) es step h
    fun _ h e _ => carries_step h e

/-! ## What the receiver gets -/

/-- The position that a frame is read as. -/
def StoredFrame.read (f : StoredFrame) : Option Position :=
  (readReport f.frame).map Report.position

theorem exists_carries {fs : List StoredFrame} {contents : List (List UInt8)}
    (h : List.Forall₂ Carries fs contents) {f : StoredFrame} (hf : f ∈ fs) :
    ∃ content, Carries f content := by
  induction h with
  | nil => exact absurd hf List.not_mem_nil
  | cons hcarries _ ih =>
      rcases List.mem_cons.mp hf with rfl | hmem
      · exact ⟨_, hcarries⟩
      · exact ih hmem

theorem map_read_of_carries {fs : List StoredFrame}
    {contents : List (List UInt8)} (h : List.Forall₂ Carries fs contents) :
    fs.map StoredFrame.read = contents.map fun c => some (readPosition c) := by
  induction h with
  | nil => rfl
  | cons hcarries _ ih =>
      rw [List.map_cons, List.map_cons, ih, StoredFrame.read, hcarries]
      rfl

theorem readPosition_gpsSaveBuf {v : VehicleState} (h : TwoDigits v) :
    readPosition (gpsSaveBuf v) = position v := by
  have hlen : ((gpsSaveBuf v).take 28).length = 28 := by
    rw [take_gpsSaveBuf, positionBytes_length]
  rw [← List.take_append_drop 28 (gpsSaveBuf v), readPosition_append hlen,
    take_gpsSaveBuf, readPosition_positionBytes h]

/-- What is handed over is what is read. -/
theorem stutters_read {s : PositionLink} {vs : List VehicleState}
    (hframes : List.Forall₂ Carries s.frames s.queue.handed)
    (hdigits : ∀ v ∈ vs, TwoDigits v)
    (h : Stutters s.queue.handed (vs.map gpsSaveBuf)) :
    Stutters (s.frames.map StoredFrame.read)
      (vs.map fun v => some (position v)) := by
  have hmap := h.map fun c => some (readPosition c)
  have hvs : (vs.map gpsSaveBuf).map (fun c => some (readPosition c)) =
      vs.map fun v => some (position v) := by
    rw [List.map_map]
    exact List.map_congr_left fun v hv =>
      congrArg some (readPosition_gpsSaveBuf (hdigits v hv))
  rwa [← map_read_of_carries hframes, hvs] at hmap

/-- The steps that send `n` more reports. -/
def drain : ℕ → List PositionStep
  | 0 => []
  | n + 1 => [.chk, .send, .update] ++ drain n

theorem queue_drain (s : PositionLink) (n : ℕ) :
    (s.run (drain n)).queue = s.queue.run (CycleQueue.drain n) := by
  induction n generalizing s with
  | zero => rfl
  | succ n ih =>
      have hround : (((s.step .chk).step .send).step .update).queue =
          s.queue.run round := by
        rw [queue_step, queue_step, queue_step]
        rfl
      rw [drain, CycleQueue.drain, run, List.foldl_append, ← run,
        CycleQueue.run_append, ← hround]
      exact ih _

/-- While the vehicle moves on, and other messages are sent in between, the
frames of stored reports are read as the positions that were saved, in saving
order, each one or more times in a row: of those saved so far the first `d`,
where `d` is the number of acknowledged reports or one more, and all once the
pending ones are sent.  Each frame carries the tagged values of the moment it was
sent. -/
theorem positions_delivered (u : Uplink) {es : List PositionStep}
    (hes : Runs.Meeting step Meets { uplink := u } es)
    (hend : (run { uplink := u } es).queue.Bounded) :
    let s := run { uplink := u } es
    (∀ f ∈ s.frames, ∃ p, readReport f.frame =
      some { msgId := 0x0200
             simCode := readBytes f.vars.simCode 0 6
             floatId := f.floatId % 65536
             position := p
             items := f.vars.items0200 }) ∧
    (∃ d, s.queue.advanced ≤ d ∧ d ≤ s.queue.advanced + 1 ∧
      d ≤ s.savedVehicles.length ∧
      Stutters (s.frames.map StoredFrame.read)
        ((s.savedVehicles.take d).map fun v => some (position v))) ∧
    Stutters ((s.run (drain s.queue.backlog)).frames.map StoredFrame.read)
      (s.savedVehicles.map fun v => some (position v)) := by
  intro s
  have hdelivers : s.Delivers := delivers_run (delivers_start u) hes
  have hframes : List.Forall₂ Carries s.frames s.queue.handed :=
    carries_run (s := { uplink := u }) .nil es
  obtain ⟨d, hd⟩ := hdelivers.delivered
  refine ⟨fun f hf => ?_, ⟨d, hd.advanced_le, hd.le_advanced, ?_, ?_⟩, ?_⟩
  · obtain ⟨content, hcarries⟩ := exists_carries hframes hf
    exact ⟨_, hcarries⟩
  · have hle := hd.le_saved
    rwa [CycleQueue.abs, hdelivers.saved, List.length_map] at hle
  · have hst : Stutters s.queue.handed (s.queue.saved.take d) := hd.stutters
    rw [hdelivers.saved, ← List.map_take] at hst
    exact stutters_read hframes
      (fun v hv => hdelivers.digits v (List.mem_of_mem_take hv)) hst
  · obtain ⟨-, hst⟩ := hdelivers.queue.drain hd hend rfl
    rw [← queue_drain, hdelivers.saved] at hst
    exact stutters_read (carries_run hframes _) hdelivers.digits hst

/-- A step saves at most one report. -/
theorem saved_length_step (s : PositionLink) (e : PositionStep) :
    (s.step e).queue.saved.length ≤ s.queue.saved.length + 1 := by
  rw [queue_step]
  cases s.cycleEvent e with
  | none => exact Nat.le_succ _
  | some c => exact saved_length_run s.queue [c]

theorem bounded_run (u : Uplink) {es : List PositionStep}
    (h : es.length ≤ maxCycleNum - 128) :
    (run { uplink := u } es).queue.Bounded := by
  have hrun (s : PositionLink) :
      (s.run es).queue.saved.length ≤ s.queue.saved.length + es.length := by
    clear h
    induction es generalizing s with
    | nil => exact Nat.le_refl _
    | cons e es ih =>
        have hstep := s.saved_length_step e
        have hrest := ih (s.step e)
        rw [run, List.foldl_cons, ← run, List.length_cons]
        omega
  have hle := hrun { uplink := u }
  have hnone : ({ uplink := u } : PositionLink).queue.saved.length = 0 := rfl
  rw [Bounded, backlog]
  omega

/-- A vehicle on its way. -/
def onTheWay : VehicleState :=
  { bootVehicle with
    latitude := #v[0x02, 0x5F, 0x64, 0x10]
    longitude := #v[0x06, 0xED, 0x36, 0x28]
    date := #v[13, 5, 21]
    time := #v[10, 20, 30]
    speedCacu := 600 }

/-- The same vehicle half a minute later. -/
def furtherOn : VehicleState :=
  { onTheWay with
    latitude := #v[0x02, 0x5F, 0x6A, 0x01]
    time := #v[10, 21, 0] }

/-- Two positions are saved; the first is sent in front of a heartbeat and
acknowledged, and then the second, once the vehicle stands. -/
def twoPositions : List PositionStep :=
  [.vars { vehicle := onTheWay }, .saveGps, .vars { vehicle := furtherOn },
    .saveGps, .vars { vehicle := bootVehicle }, .chk, .send,
    .message 0x0002 [], .update, .chk, .send]

theorem meets_twoPositions :
    Runs.Meeting step Meets { uplink := {} } twoPositions := by
  have hfirst : Savable onTheWay := ⟨by decide, by decide, by decide⟩
  have hsecond : Savable furtherOn := ⟨by decide, by decide, by decide⟩
  have hsavable : Runs.Meeting step
      (fun s e => e = .saveGps → Savable s.uplink.vars.vehicle)
      { uplink := {} } twoPositions :=
    ⟨nofun, fun _ => hfirst, nofun, fun _ => hsecond, nofun, nofun, nofun, nofun,
      nofun, nofun, nofun, trivial⟩
  refine (Runs.throughout_iff_meeting (fun _ _ => Iff.rfl) _ _).mp ?_
  intro es₁ e hpre
  have hlen := hpre.length_le
  rw [List.length_append, List.length_singleton, twoPositions] at hlen
  simp only [List.length_cons, List.length_nil] at hlen
  exact ⟨bounded_run {} (Nat.le_trans (by omega : es₁.length ≤ 11) (by decide)),
    (Runs.throughout_iff_meeting (fun _ _ => Iff.rfl) _ _).mpr hsavable es₁ e
      hpre⟩

theorem positions_delivered_two :
    let s := run {} twoPositions
    (∀ f ∈ s.frames, ∃ p, readReport f.frame =
      some { msgId := 0x0200
             simCode := readBytes f.vars.simCode 0 6
             floatId := f.floatId % 65536
             position := p
             items := f.vars.items0200 }) ∧
    (∃ d, s.queue.advanced ≤ d ∧ d ≤ s.queue.advanced + 1 ∧
      d ≤ s.savedVehicles.length ∧
      Stutters (s.frames.map StoredFrame.read)
        ((s.savedVehicles.take d).map fun v => some (position v))) ∧
    Stutters ((s.run (drain s.queue.backlog)).frames.map StoredFrame.read)
      (s.savedVehicles.map fun v => some (position v)) :=
  positions_delivered {} meets_twoPositions (bounded_run {} (by decide))

end PositionLink

end VehicleRecorder.Protocol
