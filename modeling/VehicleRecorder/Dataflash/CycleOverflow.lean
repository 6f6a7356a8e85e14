import VehicleRecorder.Dataflash.CycleDelivery

/-!
# Overflow of the stored-report queue

Nothing bounds the backlog while the link is down.  Entering a sector destroys
the reports in it, and the reader later skips them one by one until it meets
one that still exists; that part works.  But the two indices also coincide when
the ring is full, which the status check takes for an empty queue.

The module states both requirements on a queue state, proves them for every run
that never fills the last free slot, and shows that filling it always breaks
the first one.
-/

namespace VehicleRecorder.Dataflash

open NorFlash RingLog

namespace CycleQueue

/-- Report `k` exists and no older one does. -/
def Oldest (q : CycleQueue) (k : ℕ) : Prop :=
  q.Intact k ∧ ∀ j < k, ¬ q.Intact j

/-- Coinciding indices mean that nothing unacknowledged exists, and the first
report handed over after an overrun is the oldest existing one. -/
structure OverflowSafe (q : CycleQueue) : Prop where
  empty : q.dev.cycleWrite = q.dev.cycleRead →
    ∀ k < q.saved.length, q.Intact k → k ∈ q.acked
  oldest : q.overrun = true → ∀ content,
    (sendSavedReport q.dev).2 = some content →
      ∃ k, q.Oldest k ∧ q.saved[k]? = some content

/-- A save stores an acceptable report and leaves a slot free. -/
def Meets (q : CycleQueue) : CycleEvent → Prop
  | .write r =>
      Acceptable r ∧ nextCycle q.dev.cycleWrite ≠ q.dev.cycleRead
  | _ => True

/-- Every step of the run meets the condition. -/
def RunMeets : CycleQueue → List CycleEvent → Prop
  | _, [] => True
  | q, e :: es => q.Meets e ∧ RunMeets (q.step e) es

/-- The reader has passed `n` reports: the ring is not full, every existing
report behind the reader is acknowledged, and after an overrun there is none. -/
structure Reading (q : CycleQueue) (n : ℕ) : Prop where
  stored : q.Stored
  cycleRead : q.dev.cycleRead = n % 16384
  le : n ≤ q.saved.length
  room : q.saved.length < n + 16384
  pending : q.dev.readCycleStatus ≠ .idle → n < q.saved.length
  owner : ∀ k < q.saved.length, q.saved.length ≤ k + 16384 →
    q.owner (k % 16384) = some k
  inFlight : q.dev.readCycleStatus = .sdOver → q.inFlight = some n
  acked_lt : ∀ k ∈ q.acked, k < n
  passed : ∀ k < n, Live cycleRing q.saved.length k → k ∈ q.acked
  overrun : q.overrun = true → ∀ k, Live cycleRing q.saved.length k →
    n ≤ k ∧ (q.dev.readCycleStatus = .sdOver → n < k)

theorem reading_initial : initial.Reading 0 where
  stored := stored_initial
  cycleRead := rfl
  le := Nat.le_refl 0
  room := by decide
  pending := by
    intro h
    exact absurd rfl h
  owner := by
    intro k hk
    exact absurd hk (Nat.not_lt_zero k)
  inFlight := by
    intro h
    exact absurd h (by decide)
  acked_lt := by
    intro k hk
    exact absurd hk List.not_mem_nil
  passed := by
    intro k hk
    exact absurd hk (Nat.not_lt_zero k)
  overrun := by
    intro h
    exact absurd h (by decide)

theorem Reading.eq_iff {q : CycleQueue} {n : ℕ} (h : q.Reading n) :
    q.dev.cycleWrite = q.dev.cycleRead ↔ n = q.saved.length := by
  have hle := h.le
  have hroom := h.room
  rw [h.stored.cycleWrite, h.cycleRead]
  omega

/-! ## The send step -/

/-- A due send hands over the report the reader points at when it still
exists. -/
theorem Reading.sendSavedReport_live {q : CycleQueue} {n : ℕ}
    (h : q.Reading n) (hready : q.dev.readCycleStatus = .rdyToSd)
    (hlive : Live cycleRing q.saved.length n) :
    ∃ r, q.saved[n]? = some r ∧
      sendSavedReport q.dev =
        ({ q.dev with readCycleStatus := .sdOver }, some r) := by
  have hget := List.getElem?_eq_getElem hlive.1
  have hread := apiCycleRead_live h.cycleRead h.stored.ring hget hlive
    (h.stored.acceptable _ (List.getElem_mem hlive.1))
  refine ⟨_, hget, ?_⟩
  simp only [sendSavedReport, if_pos hready, hread]

/-- A due send skips a destroyed report. -/
theorem Reading.sendSavedReport_dead {q : CycleQueue} {n : ℕ}
    (h : q.Reading n) (hready : q.dev.readCycleStatus = .rdyToSd)
    (hdead : ¬ Live cycleRing q.saved.length n) :
    sendSavedReport q.dev = (skipCycleRead q.dev, none) := by
  have hlt := h.pending (by simp [hready])
  have herased := h.stored.ring.erased_of_dead cycleRing hlt hdead
    (Nat.le_of_lt h.room)
  have hread := apiCycleRead_erased h.cycleRead herased
  simp only [sendSavedReport, if_pos hready, hread]

/-- While the ring is not full, both requirements hold. -/
theorem Reading.overflowSafe {q : CycleQueue} {n : ℕ} (h : q.Reading n) :
    q.OverflowSafe where
  empty := by
    intro heq k hk hintact
    have hn := h.eq_iff.mp heq
    exact h.passed k (by omega) ((h.stored.intact k).mp hintact)
  oldest := by
    intro hover content hsent
    by_cases hready : q.dev.readCycleStatus = .rdyToSd
    · by_cases hlive : Live cycleRing q.saved.length n
      · obtain ⟨r, hget, hsend⟩ := h.sendSavedReport_live hready hlive
        rw [hsend] at hsent
        refine ⟨n, ⟨(h.stored.intact n).mpr hlive, ?_⟩, hget.trans hsent⟩
        intro j hj hintact
        have hle := (h.overrun hover j ((h.stored.intact j).mp hintact)).1
        omega
      · rw [h.sendSavedReport_dead hready hlive] at hsent
        exact absurd hsent (by simp)
    · simp only [sendSavedReport, if_neg hready] at hsent
      exact absurd hsent (by simp)

/-! ## Preservation -/

/-- After a save that destroys an unacknowledged report, every existing report
lies ahead of the reader. -/
theorem Reading.lt_of_destroys {q q' : CycleQueue} {n k : ℕ}
    (h : q.Reading n)
    (hintact : ∀ j, q'.Intact j ↔ Live cycleRing (q.saved.length + 1) j)
    (hd : q.Destroys q') (hk : Live cycleRing (q.saved.length + 1) k) :
    n < k := by
  obtain ⟨j, hj, hold, hnew, hacked⟩ := hd
  have hlive := (h.stored.intact j).mp hold
  have hdead : ¬ Live cycleRing (q.saved.length + 1) j := by
    intro hlive'
    exact hnew ((hintact j).mpr hlive')
  have hnj : n ≤ j := by
    by_contra hlt
    exact hacked (h.passed j (by omega) hlive)
  have hjk : j < k := by
    by_contra hle
    exact hdead (hk.mono cycleRing (by omega) (by omega))
  omega

theorem Reading.write {q : CycleQueue} {n : ℕ} {r : List UInt8}
    (h : q.Reading n) (hm : q.Meets (.write r)) :
    (q.step (.write r)).Reading n := by
  obtain ⟨hr, hfree⟩ := hm
  have hle := h.le
  have hroom := h.room
  have hstored := h.stored.write hr
  have hintact := intact_step_write h.stored hr
  have hroom' : q.saved.length + 1 < n + 16384 := by
    rw [h.stored.cycleWrite, nextCycle_mod, h.cycleRead] at hfree
    by_contra hfull
    have heq : q.saved.length + 1 = n + 16384 := by omega
    rw [heq, Nat.add_mod_right] at hfree
    exact hfree rfl
  rw [step_write h.stored hr] at hstored hintact ⊢
  constructor
  case stored => exact hstored
  case cycleRead => exact h.cycleRead
  case le =>
    simp only [recordSave, List.length_append, List.length_singleton]
    omega
  case room =>
    simp only [recordSave, List.length_append, List.length_singleton]
    omega
  case pending =>
    intro hidle
    have hlt := h.pending hidle
    simp only [recordSave, List.length_append, List.length_singleton]
    omega
  case owner =>
    intro k hk hnear
    simp only [recordSave, List.length_append, List.length_singleton]
      at hk hnear ⊢
    rw [h.stored.cycleWrite]
    by_cases hlast : k = q.saved.length
    · rw [hlast, Function.update_self]
    · have hne : k % 16384 ≠ q.saved.length % 16384 :=
        mod_ne_of_lt (by omega) (by omega)
      rw [Function.update_of_ne hne]
      exact h.owner k (by omega) (by omega)
  case inFlight => exact h.inFlight
  case acked_lt => exact h.acked_lt
  case passed =>
    intro k hk hlive
    simp only [recordSave, List.length_append, List.length_singleton] at hlive
    exact h.passed k hk (live_of_live_succ cycleRing hlive (by omega))
  case overrun =>
    intro hover k hlive
    have hlive' : Live cycleRing (q.saved.length + 1) k := by
      simpa [recordSave] using hlive
    rcases (recordSave_overrun q _ r).mp hover with hold | hdestroys
    · by_cases hlast : k = q.saved.length
      · subst hlast
        refine ⟨hle, ?_⟩
        intro hsd
        have hsd : q.dev.readCycleStatus = .sdOver := hsd
        exact h.pending (by simp [hsd])
      · have hlt := hlive'.1
        exact h.overrun hold k
          (live_of_live_succ cycleRing hlive' (by omega))
    · have hlt := h.lt_of_destroys hintact hdestroys hlive'
      exact ⟨Nat.le_of_lt hlt, fun _ => hlt⟩

theorem Reading.chk {q : CycleQueue} {n : ℕ} (h : q.Reading n) :
    (q.step .chk).Reading n := by
  rcases chk_cases q with hsame | ⟨hne, -, hstep⟩
  · rw [hsame]
    exact h
  · have hle := h.le
    have hlt : n < q.saved.length := by
      have hn := mt h.eq_iff.mpr hne
      omega
    rw [hstep]
    exact
      { h with
        stored := h.stored.congr rfl rfl rfl rfl
        pending := fun _ => hlt
        inFlight := fun hsd => nomatch hsd
        overrun := fun hover k hlive =>
          ⟨(h.overrun hover k hlive).1, fun hsd => nomatch hsd⟩ }

theorem Reading.send {q : CycleQueue} {n : ℕ} (h : q.Reading n) :
    ∃ n', (q.step .send).Reading n' := by
  by_cases hready : q.dev.readCycleStatus = .rdyToSd
  · have hlt := h.pending (by simp [hready])
    by_cases hlive : Live cycleRing q.saved.length n
    · obtain ⟨r, -, hsend⟩ := h.sendSavedReport_live hready hlive
      refine ⟨n, ?_⟩
      have howner := h.owner n hlt (Nat.le_of_lt h.room)
      simp only [CycleQueue.step, hsend]
      exact
        { h with
          stored := h.stored.congr rfl rfl rfl rfl
          pending := fun _ => hlt
          inFlight := fun _ => by rw [h.cycleRead, howner]
          overrun := fun hover => by cases hover }
    · refine ⟨n + 1, ?_⟩
      have hroom := h.room
      simp only [CycleQueue.step, h.sendSavedReport_dead hready hlive]
      constructor
      case stored => exact h.stored.congr rfl rfl rfl rfl
      case cycleRead =>
        simp only [skipCycleRead, h.cycleRead]
        exact nextCycle_mod n
      case le => exact hlt
      case room =>
        simp only
        omega
      case pending =>
        intro hidle
        exact absurd rfl hidle
      case owner => exact h.owner
      case inFlight =>
        intro hsd
        exact absurd hsd (by simp [skipCycleRead])
      case acked_lt =>
        intro k hk
        exact Nat.lt_succ_of_lt (h.acked_lt k hk)
      case passed =>
        intro k hk hk'
        by_cases heq : k = n
        · exact absurd (heq ▸ hk') hlive
        · exact h.passed k (by omega) hk'
      case overrun =>
        intro hover k hk
        have hge := (h.overrun hover k hk).1
        have hne : k ≠ n := by
          rintro rfl
          exact hlive hk
        refine ⟨by omega, ?_⟩
        intro hsd
        exact absurd hsd (by simp [skipCycleRead])
  · rw [step_send_of_not_ready hready]
    exact ⟨n, h⟩

theorem Reading.update {q : CycleQueue} {n : ℕ} (h : q.Reading n) :
    ∃ n', (q.step .update).Reading n' := by
  by_cases hover : q.dev.readCycleStatus = .sdOver
  · have hlt := h.pending (by simp [hover])
    have hroom := h.room
    refine ⟨n + 1, ?_⟩
    rw [step_update_of_sdOver hover, h.inFlight hover]
    constructor
    case stored => exact h.stored.congr rfl rfl rfl rfl
    case cycleRead =>
      simp only [h.cycleRead]
      exact nextCycle_mod n
    case le => exact hlt
    case room =>
      simp only
      omega
    case pending =>
      intro hidle
      exact absurd rfl hidle
    case owner => exact h.owner
    case inFlight =>
      intro hsd
      exact absurd hsd (by simp)
    case acked_lt =>
      intro k hk
      rcases List.mem_append.mp hk with hold | hnew
      · exact Nat.lt_succ_of_lt (h.acked_lt k hold)
      · obtain rfl : k = n := by simpa using hnew
        exact Nat.lt_succ_self k
    case passed =>
      intro k hk hlive
      rw [List.mem_append]
      by_cases heq : k = n
      · exact Or.inr (by simp [heq])
      · exact Or.inl (h.passed k (by omega) hlive)
    case overrun =>
      intro hov k hlive
      refine ⟨(h.overrun hov k hlive).2 hover, ?_⟩
      intro hsd
      exact absurd hsd (by simp)
  · rw [step_update_of_not_sdOver hover]
    exact ⟨n, h⟩

theorem Reading.second {q : CycleQueue} {n : ℕ} (h : q.Reading n) :
    (q.step .second).Reading n := by
  rcases second_cases q with hsame | ⟨timer, hover, hstep | hstep⟩
  · rw [hsame]
    exact h
  · rw [hstep]
    exact { h with stored := h.stored.congr rfl rfl rfl rfl }
  · rw [hstep]
    exact
      { h with
        stored := h.stored.congr rfl rfl rfl rfl
        pending := fun hidle => absurd rfl hidle
        inFlight := fun hsd => nomatch hsd
        overrun := fun hov k hlive =>
          ⟨(h.overrun hov k hlive).1, fun hsd => nomatch hsd⟩ }

/-- Every step that meets the condition keeps the invariant. -/
theorem Reading.step {q : CycleQueue} {n : ℕ} (h : q.Reading n)
    {e : CycleEvent} (hm : q.Meets e) : ∃ n', (q.step e).Reading n' := by
  cases e with
  | write r => exact ⟨n, h.write hm⟩
  | chk => exact ⟨n, h.chk⟩
  | send => exact h.send
  | update => exact h.update
  | second => exact ⟨n, h.second⟩

/-! ## Runs -/

theorem Reading.overflowSafe_run {q : CycleQueue} {n : ℕ} (h : q.Reading n)
    {es : List CycleEvent} (hm : q.RunMeets es) {es₁ : List CycleEvent}
    (hpre : es₁ <+: es) : (q.run es₁).OverflowSafe := by
  induction es generalizing q n es₁ with
  | nil =>
      rw [List.prefix_nil.mp hpre]
      exact h.overflowSafe
  | cons e es ih =>
      cases es₁ with
      | nil => exact h.overflowSafe
      | cons e₁ es₁ =>
          obtain ⟨rfl, hpre'⟩ := List.cons_prefix_cons.mp hpre
          obtain ⟨hme, hmes⟩ := hm
          obtain ⟨n', h'⟩ := h.step hme
          exact ih h' hmes hpre'

/-- Saving to the last free slot makes the indices coincide while the report
just saved is pending. -/
theorem Reading.not_overflowSafe_of_full {q : CycleQueue} {n : ℕ}
    {r : List UInt8} (h : q.Reading n) (hr : Acceptable r)
    (hfull : nextCycle q.dev.cycleWrite = q.dev.cycleRead) :
    ¬ (q.step (.write r)).OverflowSafe := by
  intro hsafe
  have hle := h.le
  have hempty := hsafe.empty
  have hintact := intact_step_write h.stored hr q.saved.length
  rw [h.stored.cycleWrite, nextCycle_mod] at hfull
  rw [step_write h.stored hr] at hempty hintact
  have hmem := hempty hfull q.saved.length (by simp [recordSave])
    (hintact.mpr (live_self cycleRing _))
  have hlt := h.acked_lt q.saved.length hmem
  omega

theorem Reading.runMeets {q : CycleQueue} {n : ℕ} (h : q.Reading n)
    {es : List CycleEvent} (hacc : ∀ r, .write r ∈ es → Acceptable r)
    (hsafe : ∀ es₁, es₁ <+: es → (q.run es₁).OverflowSafe) :
    q.RunMeets es := by
  induction es generalizing q n with
  | nil => trivial
  | cons e es ih =>
      have hme : q.Meets e := by
        cases e with
        | write r =>
            have hr := hacc r List.mem_cons_self
            refine ⟨hr, ?_⟩
            intro hfull
            exact h.not_overflowSafe_of_full hr hfull
              (hsafe [.write r] (by simp))
        | chk => trivial
        | send => trivial
        | update => trivial
        | second => trivial
      obtain ⟨n', h'⟩ := h.step hme
      refine ⟨hme, ih h' ?_ ?_⟩
      · intro r hr
        exact hacc r (List.mem_cons_of_mem e hr)
      · intro es₁ hpre
        exact hsafe (e :: es₁) (List.cons_prefix_cons.mpr ⟨rfl, hpre⟩)

/-- In a run whose saves all store an acceptable report and leave a slot free,
every state is safe; and in a run of acceptable reports only such runs are. -/
theorem overflowSafe_iff_runMeets (es : List CycleEvent) :
    (initial.RunMeets es →
        ∀ es₁, es₁ <+: es → (initial.run es₁).OverflowSafe) ∧
      ((∀ r, .write r ∈ es → Acceptable r) →
        (∀ es₁, es₁ <+: es → (initial.run es₁).OverflowSafe) →
          initial.RunMeets es) := by
  refine ⟨?_, ?_⟩
  · intro hm es₁ hpre
    exact reading_initial.overflowSafe_run hm hpre
  · intro hacc hsafe
    exact reading_initial.runMeets hacc hsafe

/-- A report saved, sent and acknowledged. -/
theorem overflowSafe_iff_runMeets_sample :
    (initial.run [.write sampleReport, .chk, .send, .update]).OverflowSafe :=
  (overflowSafe_iff_runMeets
    [.write sampleReport, .chk, .send, .update]).1
    ⟨⟨by decide, by decide⟩, trivial, trivial, trivial, trivial⟩ _
    List.prefix_rfl

/-! ## The link stays down -/

theorem step_write_frame {q : CycleQueue} {r : List UInt8} (h : q.Stored)
    (hr : Acceptable r) :
    (q.step (.write r)).saved.length = q.saved.length + 1 ∧
      (q.step (.write r)).acked = q.acked ∧
      (q.step (.write r)).dev.cycleRead = q.dev.cycleRead := by
  rw [step_write h hr]
  refine ⟨?_, rfl, rfl⟩
  simp [recordSave]

/-- With the link down nothing but the writer moves. -/
theorem run_replicate_write {q : CycleQueue} {r : List UInt8} (h : q.Stored)
    (hr : Acceptable r) (n : ℕ) :
    (q.run (List.replicate n (.write r))).Stored ∧
      (q.run (List.replicate n (.write r))).saved.length =
        q.saved.length + n ∧
      (q.run (List.replicate n (.write r))).acked = q.acked ∧
      (q.run (List.replicate n (.write r))).dev.cycleRead =
        q.dev.cycleRead := by
  induction n generalizing q with
  | zero => exact ⟨h, rfl, rfl, rfl⟩
  | succ n ih =>
      obtain ⟨hlen, hacked, hread⟩ := step_write_frame h hr
      obtain ⟨hstored', hlen', hacked', hread'⟩ := ih (h.write hr)
      have hcons : q.run (List.replicate (n + 1) (.write r)) =
          (q.step (.write r)).run (List.replicate n (.write r)) := rfl
      rw [hcons]
      refine ⟨hstored', ?_, hacked'.trans hacked, hread'.trans hread⟩
      omega

/-- After 16384 saves with the link down the indices coincide, although no
report was acknowledged. -/
theorem not_overflowSafe_link_down :
    ¬ (initial.run
      (List.replicate 16384 (.write sampleReport))).OverflowSafe := by
  intro hsafe
  have hr : Acceptable sampleReport := by decide
  obtain ⟨hstored, hlen, hacked, hread⟩ :=
    run_replicate_write stored_initial hr 16384
  have hempty := hsafe.empty
  rw [hstored.cycleWrite, hlen, hread, hacked] at hempty
  have hlive : Live cycleRing 16384 16383 := live_self cycleRing 16383
  have hintact := (hstored.intact 16383).mpr (by rwa [hlen])
  exact absurd (hempty rfl 16383 (by decide) hintact) List.not_mem_nil

end CycleQueue

end VehicleRecorder.Dataflash
