import VehicleRecorder.Dataflash.CycleDelivery

/-!
# Confirmations of the modem

The modem answers a frame it has transmitted with a line `%IPSENDX:1` that does
not say which.  `GSM_Process` takes the line as the confirmation of a stored
report if `Send_Rdy4ok` is set and moves `cycle_read` on.

A state is the queue of stored reports with the frames that the modem has not
answered and the lines that `GSM_Process` has not seen, oldest first.  The
number of the report a frame carries is history that no function reads.
-/

namespace VehicleRecorder.Protocol

open Dataflash

/-- A frame given to the modem: a stored report or any other one. -/
inductive Frame
  | report (k : ℕ)
  | other
  deriving DecidableEq, Repr

/-- The queue, the flag and what is on its way. -/
structure ReportLink where
  queue : CycleQueue := .initial
  sendRdy4ok : Bool := false
  /-- The frames the modem has not answered. -/
  unanswered : List Frame := []
  /-- The frames answered by the lines on their way to `GSM_Process`. -/
  lines : List Frame := []
  /-- The frames whose lines `GSM_Process` has seen. -/
  confirmed : List Frame := []

/-- One step of the application, the modem or `GSM_Process`. -/
inductive LinkEvent
  | save (r : List UInt8)
  | chk
  | second
  | sendReport
  | sendOther
  | answer
  | loseAnswer
  | confirm
  | linkLoss
  deriving DecidableEq, Repr

namespace ReportLink

/-- The frames whose confirmations may still come, oldest first. -/
def pending (l : ReportLink) : List Frame := l.lines ++ l.unanswered

/-- The queue waits for the confirmation of a stored report. -/
def Waiting (l : ReportLink) : Prop :=
  l.sendRdy4ok = true ∧ l.queue.dev.readCycleStatus = .sdOver

/-- The branch of `Do_SendGPSReport_GPRS` for stored reports. -/
def sendReport (l : ReportLink) : ReportLink :=
  match sendSavedReport l.queue.dev with
  | (_, some _) =>
      { l with
        queue := l.queue.step .send
        sendRdy4ok := true
        unanswered := l.unanswered ++ [.report l.queue.advanced] }
  | (_, none) => { l with queue := l.queue.step .send }

/-- `GSM_Process` at a line `%IPSENDX:1`. -/
def confirm (l : ReportLink) : ReportLink :=
  match l.lines with
  | [] => l
  | frame :: lines =>
      { l with
        queue := if l.sendRdy4ok then l.queue.step .update else l.queue
        sendRdy4ok := false
        lines := lines
        confirmed := l.confirmed ++ [frame] }

def step (l : ReportLink) : LinkEvent → ReportLink
  | .save r => { l with queue := l.queue.step (.write r) }
  | .chk => { l with queue := l.queue.step .chk }
  | .second => { l with queue := l.queue.step .second }
  | .sendReport => l.sendReport
  | .sendOther => { l with unanswered := l.unanswered ++ [.other] }
  | .answer =>
      { l with
        lines := l.lines ++ l.unanswered.take 1
        unanswered := l.unanswered.tail }
  | .loseAnswer => { l with unanswered := l.unanswered.tail }
  | .confirm => l.confirm
  | .linkLoss => { l with unanswered := [] }

def run (l : ReportLink) (es : List LinkEvent) : ReportLink := es.foldl step l

theorem run_append (l : ReportLink) (es fs : List LinkEvent) :
    l.run (es ++ fs) = (l.run es).run fs := List.foldl_append

/-- The reports that `cycle_read` has passed were handed over and confirmed, each
by the line that answers its own frame. -/
structure OwnConfirmed (l : ReportLink) : Prop where
  cycleRead : l.queue.dev.cycleRead = l.queue.advanced % maxCycleNum
  confirmed : ∀ k < l.queue.advanced, .report k ∈ l.confirmed
  handed : ∀ k < l.queue.advanced,
    ∃ r ∈ l.queue.saved[k]?, r ∈ l.queue.handed

/-- The steps that do not put another frame in the place of a report: a report
is saved where there is room, it is sent only behind frames with the same
report, and while it waits for its confirmation no other frame becomes the
oldest one pending, neither by a send nor by a lost answer. -/
def Meets (l : ReportLink) : LinkEvent → Prop
  | .save r => Acceptable r ∧ l.queue.backlog + 1 ≤ maxCycleNum - 128
  | .sendReport => l.queue.dev.readCycleStatus = .rdyToSd →
      ∀ frame ∈ l.pending, frame = .report l.queue.advanced
  | .sendOther => l.Waiting → l.pending ≠ []
  | .loseAnswer => l.Waiting →
      ∀ frame ∈ (l.lines ++ l.unanswered.tail).head?,
        frame = .report l.queue.advanced
  | _ => True

/-- Every step of a run meets the condition. -/
def RunMeets (l : ReportLink) : List LinkEvent → Prop
  | [] => True
  | e :: es => l.Meets e ∧ (l.step e).RunMeets es

/-! ## The invariant -/

/-- The queue delivers within its bound, and the oldest frame pending is the one
it waits for. -/
structure Ordered (l : ReportLink) : Prop where
  delivering : l.queue.Delivering
  bounded : l.queue.Bounded
  delivered : ∃ d, l.queue.abs.Delivered d
  oldest : l.Waiting → ∀ frame ∈ l.pending.head?,
    frame = .report l.queue.advanced
  confirmed : ∀ k < l.queue.advanced, .report k ∈ l.confirmed

theorem ordered_initial : ({} : ReportLink).Ordered where
  delivering := CycleQueue.delivering_initial
  bounded := Nat.zero_le _
  delivered := ⟨0, AtLeastOnce.delivered_empty⟩
  oldest := by
    intro _ frame hframe
    exact absurd hframe (by simp [pending])
  confirmed := by
    intro k hk
    exact absurd hk (Nat.not_lt_zero k)

/-- What an event does to the queue, one of its own or none. -/
theorem Ordered.queue_step {l : ReportLink} (h : l.Ordered) {c : CycleEvent}
    (hc : ∀ r, c = .write r →
      Acceptable r ∧ l.queue.backlog + 1 ≤ maxCycleNum - 128) :
    (l.queue.step c).Delivering ∧ (l.queue.step c).Bounded ∧
      ∃ d, (l.queue.step c).abs.Delivered d := by
  obtain ⟨d, hd⟩ := h.delivered
  obtain ⟨hstep, ops, habs⟩ :=
    h.delivering.step h.bounded fun r hr => (hc r hr).1
  obtain ⟨d', hd'⟩ := AtLeastOnce.exists_delivered_foldl hd ops
  rw [← habs] at hd'
  refine ⟨hstep, ?_, d', hd'⟩
  have hb := h.bounded
  have hsaved := CycleQueue.saved_step h.delivering.stored
    fun r hr => (hc r hr).1
  have hadv : l.queue.advanced ≤ (l.queue.step c).advanced := by
    cases c with
    | write r =>
        rw [CycleQueue.step_write h.delivering.stored (hc r rfl).1]
        exact Nat.le_refl _
    | chk => exact Nat.le_refl _
    | send =>
        simp only [CycleQueue.step]
        split <;> exact Nat.le_refl _
    | update =>
        simp only [CycleQueue.step]
        split
        · exact Nat.le_succ _
        · exact Nat.le_refl _
    | second => exact Nat.le_refl _
  cases c with
  | write r =>
      have hroom := (hc r rfl).2
      simp only [CycleQueue.Bounded, CycleQueue.backlog, hsaved,
        CycleQueue.writes, List.filterMap_cons, List.filterMap_nil,
        List.length_append, List.length_singleton] at hb hroom ⊢
      omega
  | chk | send | update | second =>
      simp only [CycleQueue.Bounded, CycleQueue.backlog, hsaved,
        CycleQueue.writes, List.filterMap_cons, List.filterMap_nil,
        List.append_nil] at hb ⊢
      omega

/-- Steps of the queue alone that do not begin to wait. -/
theorem Ordered.queue_only {l : ReportLink} (h : l.Ordered) {c : CycleEvent}
    (hc : ∀ r, c = .write r →
      Acceptable r ∧ l.queue.backlog + 1 ≤ maxCycleNum - 128)
    (hadv : (l.queue.step c).advanced = l.queue.advanced)
    (hstatus : (l.queue.step c).dev.readCycleStatus = .sdOver →
      l.queue.dev.readCycleStatus = .sdOver) :
    ({ l with queue := l.queue.step c } : ReportLink).Ordered := by
  obtain ⟨hdel, hb, hd⟩ := h.queue_step hc
  refine ⟨hdel, hb, hd, ?_, ?_⟩
  · intro hwait
    have hbefore : l.Waiting := ⟨hwait.1, hstatus hwait.2⟩
    have hold := h.oldest hbefore
    rw [← hadv] at hold
    exact hold
  · have hold := h.confirmed
    rw [← hadv] at hold
    exact hold

/-- Steps that change what is pending only. -/
theorem Ordered.pending_only {l : ReportLink} (h : l.Ordered)
    (unanswered lines : List Frame)
    (hhead : l.Waiting → ∀ frame ∈ (lines ++ unanswered).head?,
      frame = .report l.queue.advanced) :
    ({ l with unanswered := unanswered, lines := lines } :
      ReportLink).Ordered :=
  ⟨h.delivering, h.bounded, h.delivered, hhead, h.confirmed⟩

/-- A report that is due is sent. -/
theorem Ordered.sendReport_eq {l : ReportLink} (h : l.Ordered)
    (hready : l.queue.dev.readCycleStatus = .rdyToSd) :
    l.sendReport =
        { l with
          queue := l.queue.step .send
          sendRdy4ok := true
          unanswered := l.unanswered ++ [.report l.queue.advanced] } ∧
      (l.queue.step .send).dev.readCycleStatus = .sdOver ∧
      (l.queue.step .send).advanced = l.queue.advanced := by
  obtain ⟨r, -, hstep⟩ := h.delivering.send_ready h.bounded hready
  refine ⟨?_, by rw [hstep], by rw [hstep]⟩
  cases hsend : sendSavedReport l.queue.dev with
  | mk d content =>
      cases content with
      | some content => rw [ReportLink.sendReport, hsend]
      | none =>
          have hsame : (l.queue.step .send).handed = l.queue.handed := by
            simp only [CycleQueue.step, hsend]
          rw [hstep] at hsame
          exact absurd hsame (by simp)

/-- A report sent behind frames with the same report. -/
theorem Ordered.sendReport {l : ReportLink} (h : l.Ordered)
    (hmeets : l.Meets .sendReport) : l.sendReport.Ordered := by
  by_cases hready : l.queue.dev.readCycleStatus = .rdyToSd
  · obtain ⟨hsend, -, hadv⟩ := h.sendReport_eq hready
    obtain ⟨hdel, hb, hd⟩ := h.queue_step (c := .send) fun r hr => nomatch hr
    rw [hsend]
    refine ⟨hdel, hb, hd, ?_, ?_⟩
    · intro _ frame hframe
      have hmem : frame ∈ l.pending ++ [.report l.queue.advanced] := by
        rw [pending, List.append_assoc]
        exact List.mem_of_mem_head? hframe
      change frame = .report (l.queue.step .send).advanced
      rw [hadv]
      rcases List.mem_append.mp hmem with hold | hnew
      · exact hmeets hready frame hold
      · exact List.mem_singleton.mp hnew
    · have hold := h.confirmed
      rw [← hadv] at hold
      exact hold
  · have hsend : sendSavedReport l.queue.dev = (l.queue.dev, none) := by
      rw [sendSavedReport, if_neg hready]
    rw [ReportLink.sendReport, hsend]
    have hsame := CycleQueue.step_send_of_not_ready hready
    exact h.queue_only (fun r hr => nomatch hr) (by rw [hsame])
      (by rw [hsame]; exact id)

/-- A line confirms the report waited for, or clears the flag. -/
theorem Ordered.confirm {l : ReportLink} (h : l.Ordered) :
    l.confirm.Ordered := by
  rw [ReportLink.confirm]
  cases hlines : l.lines with
  | nil => exact h
  | cons frame lines =>
      have hkeep : ∀ k < l.queue.advanced,
          Frame.report k ∈ l.confirmed ++ [frame] :=
        fun k hk => List.mem_append_left _ (h.confirmed k hk)
      have hnot (q : CycleQueue) (cs : List Frame) : ¬ ({ l with
          queue := q, sendRdy4ok := false, lines := lines,
          confirmed := cs } : ReportLink).Waiting :=
        fun hwait => Bool.false_ne_true hwait.1
      by_cases hflag : l.sendRdy4ok = true
      · obtain ⟨hdel, hb, hd⟩ := h.queue_step (c := .update) fun r hr => nomatch hr
        dsimp only
        rw [if_pos hflag]
        refine ⟨hdel, hb, hd, fun hwait => absurd hwait (hnot _ _), ?_⟩
        by_cases hover : l.queue.dev.readCycleStatus = .sdOver
        · have hframe : frame = .report l.queue.advanced := by
            apply h.oldest ⟨hflag, hover⟩
            rw [pending, hlines]
            rfl
          rw [CycleQueue.step_update_of_sdOver hover]
          intro k hk
          rcases Nat.lt_succ_iff_lt_or_eq.mp hk with hlt | heq
          · exact hkeep k hlt
          · rw [heq, ← hframe]
            exact List.mem_append_right _ (List.mem_singleton_self frame)
        · rw [CycleQueue.step_update_of_not_sdOver hover]
          exact hkeep
      · dsimp only
        rw [if_neg hflag]
        exact ⟨h.delivering, h.bounded, h.delivered,
          fun hwait => absurd hwait (hnot _ _), hkeep⟩

/-- A step that meets the condition keeps the invariant. -/
theorem Ordered.step {l : ReportLink} (h : l.Ordered) {e : LinkEvent}
    (hmeets : l.Meets e) : (l.step e).Ordered := by
  cases e with
  | save r =>
      have hstep := CycleQueue.step_write h.delivering.stored hmeets.1
      refine h.queue_only (c := .write r) ?_ ?_ ?_
      · rintro _ ⟨⟩
        exact hmeets
      · rw [hstep]
        rfl
      · rw [hstep]
        exact id
  | chk =>
      refine h.queue_only (c := .chk) (fun r hr => nomatch hr) rfl ?_
      rcases CycleQueue.chk_cases l.queue with hsame | ⟨-, -, hstep⟩
      · rw [hsame]
        exact id
      · rw [hstep]
        exact fun hover => nomatch hover
  | second =>
      refine h.queue_only (c := .second) (fun r hr => nomatch hr) rfl ?_
      rcases CycleQueue.second_cases l.queue with hsame | ⟨_, hover, -⟩
      · rw [hsame]
        exact id
      · exact fun _ => hover
  | sendReport => exact h.sendReport hmeets
  | sendOther =>
      refine h.pending_only (l.unanswered ++ [.other]) l.lines ?_
      intro hwait frame hframe
      have hhead : (l.lines ++ (l.unanswered ++ [Frame.other])).head? =
          l.pending.head? := by
        rw [← List.append_assoc]
        exact List.head?_append_of_ne_nil l.pending (hmeets hwait)
      rw [hhead] at hframe
      exact h.oldest hwait frame hframe
  | answer =>
      refine h.pending_only l.unanswered.tail
        (l.lines ++ l.unanswered.take 1) ?_
      rw [List.append_assoc, ← List.drop_one, List.take_append_drop]
      exact h.oldest
  | loseAnswer => exact h.pending_only l.unanswered.tail l.lines hmeets
  | confirm => exact h.confirm
  | linkLoss =>
      refine h.pending_only [] l.lines ?_
      intro hwait frame hframe
      apply h.oldest hwait
      rw [List.append_nil] at hframe
      rw [pending, List.head?_append, hframe]
      rfl

theorem Ordered.run {l : ReportLink} (h : l.Ordered) {es : List LinkEvent}
    (hmeets : l.RunMeets es) : (l.run es).Ordered := by
  induction es generalizing l with
  | nil => exact h
  | cons e es ih => exact ih (h.step hmeets.1) hmeets.2

theorem Ordered.ownConfirmed {l : ReportLink} (h : l.Ordered) :
    l.OwnConfirmed where
  cycleRead := h.delivering.cycleRead
  confirmed := h.confirmed
  handed := by
    intro k hk
    obtain ⟨d, hd⟩ := h.delivered
    have hlt : k < l.queue.saved.length :=
      Nat.lt_of_lt_of_le hk h.delivering.le
    have htake : (l.queue.saved.take d)[k]? = some l.queue.saved[k] := by
      rw [List.getElem?_take_of_lt (Nat.lt_of_lt_of_le hk hd.advanced_le)]
      exact List.getElem?_eq_getElem hlt
    exact ⟨_, List.getElem?_eq_getElem hlt,
      hd.stutters.mem (List.mem_of_getElem? htake)⟩

/-! ## Runs -/

/-- In every state of a run whose steps meet the condition, `cycle_read` has
passed only reports confirmed by the line that answers their own frame. -/
theorem ownConfirmed_of_runMeets (es : List LinkEvent)
    (hmeets : RunMeets {} es) : (run {} es).OwnConfirmed :=
  (ordered_initial.run hmeets).ownConfirmed

/-- A report sent behind nothing that is pending, after a heartbeat whose answer
was lost and one that was confirmed. -/
theorem ownConfirmed_of_runMeets_heartbeats :
    (run {} [.sendOther, .loseAnswer, .sendOther, .answer, .confirm,
      .save CycleQueue.sampleReport, .chk, .sendReport, .answer,
      .confirm]).OwnConfirmed :=
  ownConfirmed_of_runMeets _
    ⟨fun hwait => absurd hwait.1 (by decide),
      fun hwait => absurd hwait.1 (by decide),
      fun hwait => absurd hwait.1 (by decide), trivial, trivial,
      ⟨by decide, by decide⟩, trivial,
      fun _ _ hframe => absurd hframe List.not_mem_nil, trivial, trivial, trivial⟩

/-- A report sent while the line for another frame is on its way, and lost with
the link: that line moves `cycle_read` past the report. -/
theorem Ordered.not_ownConfirmed {l : ReportLink} (h : l.Ordered)
    (hidle : l.queue.dev.readCycleStatus = .idle)
    (hlt : l.queue.advanced < l.queue.saved.length)
    (hlines : l.lines = [.other])
    (hconf : .report l.queue.advanced ∉ l.confirmed) :
    ¬ (l.run [.chk, .sendReport, .linkLoss, .confirm]).OwnConfirmed := by
  have hready : (l.queue.step .chk).dev.readCycleStatus = .rdyToSd := by
    rcases CycleQueue.chk_cases l.queue with hsame | ⟨-, -, hchk⟩
    · have hne := (h.delivering.chk_not_idle h.bounded hlt).1
      rw [hsame] at hne
      exact absurd hidle hne
    · rw [hchk]
  have hchk : (l.step .chk).Ordered := h.step trivial
  obtain ⟨hsend, hover, hadv⟩ := hchk.sendReport_eq hready
  have hrun : l.run [.chk, .sendReport, .linkLoss, .confirm] =
      ((l.step .chk).sendReport.step .linkLoss).confirm := rfl
  intro hown
  have hconfirmed := hown.confirmed l.queue.advanced
  rw [hrun, hsend] at hconfirmed
  simp only [ReportLink.step, ReportLink.confirm, hlines, if_true]
    at hconfirmed hover hadv
  rw [CycleQueue.step_update_of_sdOver hover] at hconfirmed
  have hmem := hconfirmed (by rw [hadv]; exact Nat.lt_succ_self _)
  rcases List.mem_append.mp hmem with hold | hnew
  · exact hconf hold
  · exact absurd (List.mem_singleton.mp hnew) (by simp)

/-- A heartbeat is answered, then a report is sent and lost with the link. -/
theorem not_ownConfirmed_heartbeat :
    ¬ (run {} [.save CycleQueue.sampleReport, .sendOther, .answer, .chk,
      .sendReport, .linkLoss, .confirm]).OwnConfirmed := by
  have hordered : (run {} [.save CycleQueue.sampleReport, .sendOther,
      .answer]).Ordered := ordered_initial.run
    ⟨⟨by decide, by decide⟩, fun hwait => absurd hwait.1 (by decide), trivial,
      trivial⟩
  have hqueue : run {} [.save CycleQueue.sampleReport, .sendOther, .answer] =
      { queue := CycleQueue.initial.step (.write CycleQueue.sampleReport)
        lines := [.other] } := by
    simp only [run, List.foldl_cons, List.foldl_nil, ReportLink.step,
      List.nil_append, List.take_succ_cons, List.take_zero, List.tail_cons]
  have hsplit : [LinkEvent.save CycleQueue.sampleReport, .sendOther, .answer,
      .chk, .sendReport, .linkLoss, .confirm] =
        [.save CycleQueue.sampleReport, .sendOther, .answer] ++
          [.chk, .sendReport, .linkLoss, .confirm] := rfl
  rw [CycleQueue.step_write CycleQueue.stored_initial (by decide)] at hqueue
  rw [hsplit, run_append]
  generalize run {} [.save CycleQueue.sampleReport, .sendOther, .answer] = l at *
  apply hordered.not_ownConfirmed
  · rw [hqueue]
    rfl
  · rw [hqueue]
    exact Nat.zero_lt_one
  · rw [hqueue]
  · rw [hqueue]
    exact List.not_mem_nil

end ReportLink

end VehicleRecorder.Protocol
