import VehicleRecorder.Dataflash.CycleQueue

/-!
# Delivery of stored reports within the backlog bound

While the number of saved but unadvanced reports stays a sector below the
capacity, every unadvanced report is still in flash.  The queue then refines
the at-least-once queue: each event of the source is a possibly empty sequence
of abstract operations.
-/

namespace VehicleRecorder.Dataflash

open NorFlash RingLog AtLeastOnce

namespace CycleQueue

/-- What the queue is for. -/
def abs (q : CycleQueue) : Queue (List UInt8) where
  saved := q.saved
  advanced := q.advanced
  inFlight := decide (q.dev.readCycleStatus = .sdOver)
  handed := q.handed

/-- The reader has advanced once per acknowledgement and is never ahead of the
writer. -/
structure Delivering (q : CycleQueue) : Prop where
  stored : q.Stored
  cycleRead : q.dev.cycleRead = q.advanced % 16384
  le : q.advanced ≤ q.saved.length
  pending : q.dev.readCycleStatus ≠ .idle → q.advanced < q.saved.length

/-- The backlog leaves a sector free. -/
def Bounded (q : CycleQueue) : Prop := q.backlog ≤ maxCycleNum - 128

/-- The reports an event sequence asks to save. -/
def writes (es : List CycleEvent) : List (List UInt8) :=
  es.filterMap fun
    | .write r => some r
    | _ => none

theorem delivering_initial : initial.Delivering where
  stored := stored_initial
  cycleRead := rfl
  le := Nat.le_refl 0
  pending := by
    intro h
    exact absurd rfl h

/-- Within the bound the indices coincide only when nothing is pending. -/
theorem Delivering.lt_of_ne {q : CycleQueue} (h : q.Delivering)
    (hb : q.Bounded) :
    q.dev.cycleWrite ≠ q.dev.cycleRead ↔ q.advanced < q.saved.length := by
  have hle := h.le
  rw [h.stored.cycleWrite, h.cycleRead]
  simp only [Bounded, backlog, maxCycleNum] at hb
  omega

/-! ## One event -/

theorem Delivering.write {q : CycleQueue} {r : List UInt8} (h : q.Delivering)
    (hr : Acceptable r) :
    (q.step (.write r)).Delivering ∧
      (q.step (.write r)).abs = q.abs.step (.save r) := by
  have hstored := h.stored.write hr
  have hle := h.le
  have hpending := h.pending
  rw [step_write h.stored hr] at hstored ⊢
  refine ⟨⟨hstored, h.cycleRead, ?_, ?_⟩, rfl⟩
  · simp only [recordSave, List.length_append, List.length_singleton]
    omega
  · intro hidle
    have hlt := hpending hidle
    simp only [recordSave, List.length_append, List.length_singleton]
    omega

theorem chk_cases (q : CycleQueue) :
    q.step .chk = q ∨
      (q.dev.cycleWrite ≠ q.dev.cycleRead ∧ q.dev.readCycleStatus = .idle ∧
        q.step .chk =
          { q with dev := { q.dev with readCycleStatus := .rdyToSd } }) := by
  simp only [step, chkReadCycleStatus]
  by_cases hidle : q.dev.readCycleStatus = .idle
  · rw [if_pos hidle]
    by_cases hne : q.dev.cycleWrite ≠ q.dev.cycleRead
    · rw [if_pos hne]
      exact Or.inr ⟨hne, hidle, rfl⟩
    · rw [if_neg hne, ← hidle]
      exact Or.inl rfl
  · rw [if_neg hidle]
    exact Or.inl rfl

theorem Delivering.chk {q : CycleQueue} (h : q.Delivering) (hb : q.Bounded) :
    (q.step .chk).Delivering ∧ (q.step .chk).abs = q.abs := by
  rcases chk_cases q with hsame | ⟨hne, hidle, hstep⟩
  · rw [hsame]
    exact ⟨h, rfl⟩
  · rw [hstep]
    refine ⟨⟨h.stored.congr rfl rfl rfl rfl, h.cycleRead, h.le, ?_⟩, ?_⟩
    · intro _
      exact (h.lt_of_ne hb).mp hne
    · simp [abs, hidle]

/-- A send that is due hands over the oldest unadvanced report. -/
theorem Delivering.send_ready {q : CycleQueue} (h : q.Delivering)
    (hb : q.Bounded) (hready : q.dev.readCycleStatus = .rdyToSd) :
    ∃ r, q.saved[q.advanced]? = some r ∧
      q.step .send =
        { q with
          dev := { q.dev with readCycleStatus := .sdOver }
          handed := q.handed ++ [r]
          inFlight := q.owner q.dev.cycleRead
          overrun := false } := by
  have hlt := h.pending (by simp [hready])
  have hget := List.getElem?_eq_getElem hlt
  have hlive : Live cycleRing q.saved.length q.advanced := by
    apply live_of_backlog cycleRing hlt
    simp only [Bounded, backlog, maxCycleNum] at hb
    simp only [cycleRing]
    omega
  have hread := apiCycleRead_live h.cycleRead h.stored.ring hget hlive
    (h.stored.acceptable _ (List.getElem_mem hlt))
  refine ⟨_, hget, ?_⟩
  simp only [step, sendSavedReport, if_pos hready, hread]

theorem step_send_of_not_ready {q : CycleQueue}
    (h : q.dev.readCycleStatus ≠ .rdyToSd) : q.step .send = q := by
  simp only [step, sendSavedReport, if_neg h]

theorem Delivering.send {q : CycleQueue} (h : q.Delivering) (hb : q.Bounded) :
    (q.step .send).Delivering ∧
      ∃ ops : List (Op (List UInt8)),
        (q.step .send).abs = ops.foldl Queue.step q.abs := by
  by_cases hready : q.dev.readCycleStatus = .rdyToSd
  · obtain ⟨r, hget, hstep⟩ := h.send_ready hb hready
    have hlt := h.pending (by simp [hready])
    rw [hstep]
    refine ⟨⟨h.stored.congr rfl rfl rfl rfl, h.cycleRead, h.le, ?_⟩,
      [.hand], ?_⟩
    · intro _
      exact hlt
    · simp [abs, Queue.step, hget]
  · rw [step_send_of_not_ready hready]
    exact ⟨h, [], rfl⟩

theorem step_update_of_sdOver {q : CycleQueue}
    (h : q.dev.readCycleStatus = .sdOver) :
    q.step .update =
      { q with
        dev := { q.dev with
          cycleRead := nextCycle q.dev.cycleRead
          readCycleStatus := .idle
          readCycleTimer := 0 }
        advanced := q.advanced + 1
        acked := q.acked ++ q.inFlight.toList } := by
  simp only [step, apiCycleUpdate, if_pos h]

theorem step_update_of_not_sdOver {q : CycleQueue}
    (h : q.dev.readCycleStatus ≠ .sdOver) : q.step .update = q := by
  simp only [step, apiCycleUpdate, if_neg h]

theorem Delivering.update {q : CycleQueue} (h : q.Delivering) :
    (q.step .update).Delivering ∧
      (q.step .update).abs = q.abs.step .acknowledge := by
  by_cases hover : q.dev.readCycleStatus = .sdOver
  · have hlt := h.pending (by simp [hover])
    rw [step_update_of_sdOver hover]
    refine ⟨⟨h.stored.congr rfl rfl rfl rfl, ?_, hlt, ?_⟩, ?_⟩
    · rw [h.cycleRead]
      exact nextCycle_mod q.advanced
    · intro hidle
      exact absurd rfl hidle
    · simp [abs, Queue.step, hover]
  · rw [step_update_of_not_sdOver hover]
    refine ⟨h, ?_⟩
    simp [abs, Queue.step, hover]

theorem second_cases (q : CycleQueue) :
    q.step .second = q ∨
      ∃ timer, q.dev.readCycleStatus = .sdOver ∧
        (q.step .second =
            { q with dev := { q.dev with readCycleTimer := timer } } ∨
          q.step .second =
            { q with dev := { q.dev with
              readCycleTimer := timer
              readCycleStatus := .idle } }) := by
  by_cases hover : q.dev.readCycleStatus = .sdOver
  · refine Or.inr ?_
    simp only [step, readCycleTimeout, if_pos hover]
    split
    · exact ⟨0, hover, Or.inr rfl⟩
    · exact ⟨_, hover, Or.inl rfl⟩
  · refine Or.inl ?_
    simp only [step, readCycleTimeout, if_neg hover]

theorem Delivering.second {q : CycleQueue} (h : q.Delivering) :
    (q.step .second).Delivering ∧
      ∃ ops : List (Op (List UInt8)),
        (q.step .second).abs = ops.foldl Queue.step q.abs := by
  rcases second_cases q with hsame | ⟨timer, hover, hstep | hstep⟩
  · rw [hsame]
    exact ⟨h, [], rfl⟩
  · rw [hstep]
    exact ⟨⟨h.stored.congr rfl rfl rfl rfl, h.cycleRead, h.le, h.pending⟩,
      [], rfl⟩
  · rw [hstep]
    refine ⟨⟨h.stored.congr rfl rfl rfl rfl, h.cycleRead, h.le, ?_⟩,
      [.giveUp], rfl⟩
    intro hidle
    exact absurd rfl hidle

/-- Every event is a sequence of abstract operations. -/
theorem Delivering.step {q : CycleQueue} (h : q.Delivering) (hb : q.Bounded)
    {e : CycleEvent} (he : ∀ r, e = .write r → Acceptable r) :
    (q.step e).Delivering ∧
      ∃ ops : List (Op (List UInt8)),
        (q.step e).abs = ops.foldl Queue.step q.abs := by
  cases e with
  | write r =>
      obtain ⟨hd, habs⟩ := h.write (he r rfl)
      exact ⟨hd, [.save r], habs⟩
  | chk =>
      obtain ⟨hd, habs⟩ := h.chk hb
      exact ⟨hd, [], habs⟩
  | send => exact h.send hb
  | update =>
      obtain ⟨hd, habs⟩ := h.update
      exact ⟨hd, [.acknowledge], habs⟩
  | second => exact h.second

/-- Every acceptable report is saved, and nothing else is. -/
theorem saved_step {q : CycleQueue} (h : q.Stored) {e : CycleEvent}
    (he : ∀ r, e = .write r → Acceptable r) :
    (q.step e).saved = q.saved ++ writes [e] := by
  cases e with
  | write r =>
      rw [step_write h (he r rfl)]
      rfl
  | chk => simp [CycleQueue.step, writes]
  | send =>
      simp only [CycleQueue.step]
      split <;> simp [writes]
  | update =>
      simp only [CycleQueue.step]
      split <;> simp [writes]
  | second => simp [CycleQueue.step, writes]

/-! ## Runs -/

/-- After a run within the bound the queue is a reachable at-least-once
queue. -/
theorem Delivering.run {q : CycleQueue} {d : ℕ} (h : q.Delivering)
    (hd : q.abs.Delivered d) (es : List CycleEvent)
    (hacc : ∀ r, .write r ∈ es → Acceptable r)
    (hbound : ∀ es₁, es₁ <+: es → (q.run es₁).Bounded) :
    (q.run es).Delivering ∧ (q.run es).saved = q.saved ++ writes es ∧
      ∃ d', (q.run es).abs.Delivered d' := by
  induction es generalizing q d with
  | nil => exact ⟨h, by simp [CycleQueue.run, writes], d, hd⟩
  | cons e es ih =>
      have hb : q.Bounded := hbound [] List.nil_prefix
      have he : ∀ r, e = .write r → Acceptable r := by
        rintro r rfl
        exact hacc r List.mem_cons_self
      obtain ⟨hstep, ops, habs⟩ := h.step hb he
      obtain ⟨d', hd'⟩ := exists_delivered_foldl hd ops
      rw [← habs] at hd'
      have hrest := ih hstep hd'
        (fun r hr => hacc r (List.mem_cons_of_mem e hr))
        (fun es₁ hpre => hbound (e :: es₁) (List.cons_prefix_cons.mpr ⟨rfl, hpre⟩))
      obtain ⟨hd₁, hsaved, hdel⟩ := hrest
      refine ⟨hd₁, ?_, hdel⟩
      have hwrites : writes ([e] ++ es) = writes [e] ++ writes es :=
        List.filterMap_append
      rw [List.singleton_append] at hwrites
      have hcons : q.run (e :: es) = (q.step e).run es := rfl
      rw [hcons, hsaved, saved_step h.stored he, hwrites, List.append_assoc]

/-- The events that deliver one more report. -/
def round : List CycleEvent := [.chk, .send, .update]

/-- The events that deliver `n` more reports. -/
def drain : ℕ → List CycleEvent
  | 0 => []
  | n + 1 => round ++ drain n

/-- With something pending, the check leaves the queue ready or already
sent. -/
theorem Delivering.chk_not_idle {q : CycleQueue} (h : q.Delivering)
    (hb : q.Bounded) (hlt : q.advanced < q.saved.length) :
    (q.step .chk).dev.readCycleStatus ≠ .idle ∧
      (q.step .chk).saved = q.saved ∧
      (q.step .chk).advanced = q.advanced := by
  have hne := (h.lt_of_ne hb).mpr hlt
  refine ⟨?_, rfl, rfl⟩
  simp only [CycleQueue.step, chkReadCycleStatus]
  by_cases hidle : q.dev.readCycleStatus = .idle
  · rw [if_pos hidle, if_pos hne]
    simp
  · rw [if_neg hidle]
    exact hidle

/-- A send leaves a queue that is not idle sent. -/
theorem Delivering.send_sdOver {q : CycleQueue} (h : q.Delivering)
    (hb : q.Bounded) (hidle : q.dev.readCycleStatus ≠ .idle) :
    (q.step .send).dev.readCycleStatus = .sdOver ∧
      (q.step .send).saved = q.saved ∧
      (q.step .send).advanced = q.advanced := by
  by_cases hready : q.dev.readCycleStatus = .rdyToSd
  · obtain ⟨r, -, hstep⟩ := h.send_ready hb hready
    rw [hstep]
    exact ⟨rfl, rfl, rfl⟩
  · rw [step_send_of_not_ready hready]
    refine ⟨?_, rfl, rfl⟩
    cases hs : q.dev.readCycleStatus with
    | idle => exact absurd hs hidle
    | rdyToSd => exact absurd hs hready
    | sdOver => rfl

/-- With something pending, one round advances the reader by one. -/
theorem Delivering.round {q : CycleQueue} {d : ℕ} (h : q.Delivering)
    (hd : q.abs.Delivered d) (hb : q.Bounded)
    (hlt : q.advanced < q.saved.length) :
    (q.run round).Delivering ∧ (∃ d', (q.run round).abs.Delivered d') ∧
      (q.run round).saved = q.saved ∧
      (q.run round).advanced = q.advanced + 1 := by
  obtain ⟨hidle₁, hsaved₁, hadv₁⟩ := h.chk_not_idle hb hlt
  obtain ⟨h₁, habs₁⟩ := h.chk hb
  have hb₁ : (q.step .chk).Bounded := by
    rw [Bounded, backlog, hsaved₁, hadv₁]
    exact hb
  obtain ⟨hover₂, hsaved₂, hadv₂⟩ := h₁.send_sdOver hb₁ hidle₁
  obtain ⟨h₂, ops, habs₂⟩ := h₁.send hb₁
  obtain ⟨h₃, habs₃⟩ := h₂.update
  have hrun : q.run CycleQueue.round =
      ((q.step .chk).step .send).step .update := rfl
  rw [hrun]
  refine ⟨h₃, ?_, ?_, ?_⟩
  · rw [habs₃, habs₂, habs₁]
    obtain ⟨d₂, hd₂⟩ := exists_delivered_foldl hd ops
    exact hd₂.step .acknowledge
  · rw [step_update_of_sdOver hover₂]
    exact hsaved₂.trans hsaved₁
  · rw [step_update_of_sdOver hover₂]
    simp only [hadv₂, hadv₁]

/-- As many rounds as there are pending reports drain the queue. -/
theorem Delivering.drain {q : CycleQueue} {d n : ℕ} (h : q.Delivering)
    (hd : q.abs.Delivered d) (hb : q.Bounded) (hn : q.backlog = n) :
    (q.run (drain n)).saved = q.saved ∧
      Stutters (q.run (drain n)).handed q.saved := by
  induction n generalizing q d with
  | zero =>
      have hle := h.le
      refine ⟨rfl, hd.of_advanced_eq ?_⟩
      simp only [backlog] at hn
      simp only [abs]
      omega
  | succ n ih =>
      have hlt : q.advanced < q.saved.length := by
        simp only [backlog] at hn
        omega
      obtain ⟨h', ⟨d', hd'⟩, hsaved, hadv⟩ := h.round hd hb hlt
      have hbacklog : (q.run CycleQueue.round).backlog = n := by
        simp only [backlog, hsaved, hadv] at hn ⊢
        omega
      have hb' : (q.run CycleQueue.round).Bounded := by
        simp only [Bounded, hbacklog, hn] at hb ⊢
        omega
      obtain ⟨hs, hst⟩ := ih h' hd' hb' hbacklog
      rw [hsaved] at hs hst
      rw [CycleQueue.drain, run_append]
      exact ⟨hs, hst⟩

/-- The sender gets exactly the saved reports, in saving order, each one or more
times in a row: in every state of a run within the backlog bound it has seen the
first `d` of them, where `d` is the number of acknowledged reports or one more,
and it has seen all of them once the pending ones are sent. -/
theorem sender_gets_saved_reports (es : List CycleEvent)
    (hacc : ∀ r, .write r ∈ es → Acceptable r)
    (hbound : ∀ es₁, es₁ <+: es →
      (initial.run es₁).backlog ≤ maxCycleNum - 128) :
    let q := initial.run es
    q.saved = writes es ∧
      (∃ d, q.advanced ≤ d ∧ d ≤ q.advanced + 1 ∧ d ≤ q.saved.length ∧
        Stutters q.handed (q.saved.take d)) ∧
      (q.run (drain q.backlog)).saved = q.saved ∧
      Stutters (q.run (drain q.backlog)).handed q.saved := by
  intro q
  obtain ⟨h, hsaved, d, hd⟩ :=
    delivering_initial.run (d := 0) delivered_empty es hacc hbound
  exact ⟨hsaved,
    ⟨d, hd.advanced_le, hd.le_advanced, hd.le_saved, hd.stutters⟩,
    h.drain hd (hbound es List.prefix_rfl) rfl⟩

/-- Each event saves at most one report. -/
theorem saved_length_run (q : CycleQueue) (es : List CycleEvent) :
    (q.run es).saved.length ≤ q.saved.length + es.length := by
  induction es generalizing q with
  | nil => exact Nat.le_refl _
  | cons e es ih =>
      have hstep : (q.step e).saved.length ≤ q.saved.length + 1 := by
        cases e with
        | write r =>
            simp only [CycleQueue.step]
            split <;> simp [recordSave]
        | chk => simp [CycleQueue.step]
        | send =>
            simp only [CycleQueue.step]
            split <;> simp
        | update =>
            simp only [CycleQueue.step]
            split <;> simp
        | second => simp [CycleQueue.step]
      have hrest := ih (q.step e)
      rw [List.length_cons]
      exact Nat.le_trans hrest (by omega)

/-- A report of 31 bytes that starts with `0x01`. -/
def sampleReport : List UInt8 := 0x01 :: List.replicate 29 0 ++ [0x01]

/-- Two reports saved, the first one sent twice after a timeout. -/
theorem sender_gets_saved_reports_sample :
    let es : List CycleEvent :=
      [.write sampleReport, .chk, .send, .write sampleReport, .second, .second,
        .second, .second, .second, .second, .chk, .send, .update]
    let q := initial.run es
    q.saved = writes es ∧
      (∃ d, q.advanced ≤ d ∧ d ≤ q.advanced + 1 ∧ d ≤ q.saved.length ∧
        Stutters q.handed (q.saved.take d)) ∧
      (q.run (drain q.backlog)).saved = q.saved ∧
      Stutters (q.run (drain q.backlog)).handed q.saved := by
  apply sender_gets_saved_reports
  · intro r hr
    have hr : r = sampleReport := by simpa using hr
    rw [hr]
    decide
  · intro es₁ hpre
    have hlen := saved_length_run initial es₁
    have hle := hpre.length_le
    simp only [initial, List.length_nil, List.length_cons] at hlen hle
    simp only [backlog, initial, maxCycleNum]
    omega

end CycleQueue

end VehicleRecorder.Dataflash
