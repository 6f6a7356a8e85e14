import VehicleRecorder.Gsm.PoolHistory

/-!
# The lines on their way to the thread

The interrupt of the modem sends its lines through a queue of the kernel, and the
thread of the modem receives 1400 bytes at a time.  A line ends before the bytes
received do, and says itself how long it is.
-/

namespace VehicleRecorder.Gsm

open Bytes QueueHistory MessagePool

variable {τ : Type*} [DecidableEq τ] {reader : τ}

/-- The line in what `GSM_Buffer_Read_Process` has received. -/
def lineOf (got : List UInt8) : List UInt8 :=
  (got.drop 2).take (leValue (got.take 2))

/-- The steps that the program takes on the queue of the modem. -/
def LineStep (reader : τ) : CallStep τ → Prop
  | .send _ buffer => ∃ line, buffer = message line
  | .urgent _ _ => False
  | .recv t size => t = reader ∧ size = 1400
  | .advance _ => True

/-- A message with a line that fits the queue. -/
def IsLine (m : List UInt8) : Prop := ∃ line, m = message line ∧ m.length ≤ 1400

theorem lineOf_of_agrees {m got : List UInt8} (h : Agrees m got) (hm : IsLine m)
    (hgot : 1400 ≤ got.length) : m = message (lineOf got) := by
  obtain ⟨line, rfl, hlen⟩ := hm
  have hfront : got = message line ++ got.drop (message line).length := by
    have htake : got.take (message line).length = message line := by
      rw [← h, List.take_of_length_le (by omega)]
    conv_lhs => rw [← List.take_append_drop (message line).length got, htake]
  have hline : line.length < 65536 := by
    rw [length_message] at hlen
    omega
  have hvalue : leValue (leBytes 2 line.length) = line.length := by
    rw [leValue_leBytes]
    exact Nat.mod_eq_of_lt hline
  have hhead : got.take 2 = leBytes 2 line.length := by
    rw [hfront, message, List.append_assoc]
    exact List.take_left' (leBytes_length 2 _)
  have hrest : got.drop 2 = line ++ got.drop (message line).length := by
    conv_lhs => rw [hfront, message, List.append_assoc]
    exact List.drop_left' (leBytes_length 2 _)
  rw [lineOf, hhead, hvalue, hrest, List.take_left]

/-! ## What the program does with the queue -/

/-- A call of the program. -/
def CallLined : Call → Prop
  | .idle => True
  | .sending _ buffer => IsLine buffer
  | .copying urgent _ buffer _ => urgent = false ∧ IsLine buffer
  | .reading _ size _ => size = 1400

/-- An entry of its history. -/
def EntryLined (reader : τ) : Entry τ (List UInt8) → Prop
  | .put m => IsLine m
  | .putFront _ => False
  | .take t => t = reader
  | .give _ got => 1400 ≤ got.length

/-- The program uses the queue for lines only. -/
structure Lined (reader : τ) (s : MessagePool τ) : Prop where
  msgSize : s.mq.msgSize = 1400
  calls : ∀ t, CallLined (s.calls t)
  history : ∀ e ∈ s.history, EntryLined reader e

theorem Lined.of_call {s : MessagePool τ} (h : Lined reader s) {t : τ} {c : Call}
    (hc : CallLined c) : Lined reader (s.call t c) where
  msgSize := h.msgSize
  calls := by
    intro u
    change CallLined (Function.update s.calls t c u)
    by_cases hut : u = t
    · rw [hut, Function.update_self]
      exact hc
    · rw [Function.update_of_ne hut]
      exact h.calls u
  history := h.history

omit [DecidableEq τ] in
theorem Lined.of_mq {s : MessagePool τ} (h : Lined reader s)
    {mq : RtMessagequeue} (hsize : mq.msgSize = s.mq.msgSize) :
    Lined reader { s with mq := mq } :=
  ⟨hsize.trans h.msgSize, h.calls, h.history⟩

omit [DecidableEq τ] in
theorem Lined.of_entry {s : MessagePool τ} (h : Lined reader s)
    {mq : RtMessagequeue} (hsize : mq.msgSize = s.mq.msgSize)
    {e : Entry τ (List UInt8)} (he : EntryLined reader e) :
    Lined reader { s with mq := mq, history := s.history ++ [e] } := by
  refine ⟨hsize.trans h.msgSize, h.calls, fun e' he' => ?_⟩
  rcases List.mem_append.mp he' with hold | hnew
  · exact h.history e' hold
  · rw [List.mem_singleton] at hnew
    exact hnew ▸ he

theorem Lined.beginSend {s : MessagePool τ} (h : Lined reader s) (t : τ)
    (line : List UInt8) : Lined reader (s.beginSend t false (message line)) := by
  unfold MessagePool.beginSend
  split
  · exact h
  · rename_i hfits
    have hlen : (message line).length ≤ 1400 := by
      rw [← h.msgSize]
      exact Nat.not_lt.mp fun hlt => hfits (Or.inr hlt)
    cases hfree : s.mq.takeFree with
    | none => exact ⟨h.msgSize, h.calls, h.history⟩
    | some p =>
        obtain ⟨n, -, heq⟩ := Option.map_eq_some_iff.mp hfree
        subst heq
        have hc : CallLined (.sending n (message line)) := ⟨line, rfl, hlen⟩
        refine Lined.of_call ?_ hc
        exact h.of_mq rfl

theorem Lined.beginRecv {s : MessagePool τ} (h : Lined reader s) :
    Lined reader (s.beginRecv reader 1400) := by
  unfold MessagePool.beginRecv
  split
  · exact h
  · cases hhead : s.mq.takeHead with
    | none => exact h
    | some p =>
        unfold RtMessagequeue.takeHead at hhead
        split at hhead
        · exact nomatch hhead
        · obtain ⟨n, -, heq⟩ := Option.map_eq_some_iff.mp hhead
          subst heq
          have he : EntryLined reader (.take reader) := rfl
          have hc : CallLined (.reading n (min 1400 s.mq.msgSize) []) := by
            rw [CallLined, h.msgSize]
            rfl
          refine Lined.of_call ?_ hc
          refine h.of_entry ?_ he
          rfl

theorem Lined.advance {s : MessagePool τ} (h : Lined reader s) (t : τ) :
    Lined reader (s.advance t) := by
  have hcall := h.calls t
  unfold MessagePool.advance
  cases ht : s.calls t with
  | idle => exact h
  | sending msg buffer =>
      rw [ht] at hcall
      have hc : CallLined (.copying false msg buffer 0) := ⟨rfl, hcall⟩
      refine Lined.of_call ?_ hc
      exact h.of_mq rfl
  | copying urgent msg buffer copied =>
      rw [ht] at hcall
      obtain ⟨rfl, hline⟩ := hcall
      dsimp only
      split
      · have hc : CallLined (.copying false msg buffer (copied + 1)) :=
          ⟨rfl, hline⟩
        refine Lined.of_call ?_ hc
        exact h.of_mq rfl
      · have he : EntryLined reader (.put buffer) := hline
        refine Lined.of_call (c := .idle) ?_ trivial
        refine h.of_entry ?_ he
        rfl
  | reading msg size got =>
      rw [ht] at hcall
      obtain rfl : size = 1400 := hcall
      dsimp only
      split
      · have hc : CallLined
            (.reading msg 1400 (got ++ [s.mq.body msg got.length])) := rfl
        exact h.of_call hc
      · rename_i hdone
        have he : EntryLined reader (.give t got) := Nat.not_lt.mp hdone
        refine Lined.of_call (c := .idle) ?_ trivial
        refine h.of_entry ?_ he
        rfl

theorem Lined.step {s : MessagePool τ} (h : Lined reader s) {e : CallStep τ}
    (he : LineStep reader e) : Lined reader (s.step e) := by
  cases e with
  | send t buffer =>
      obtain ⟨line, rfl⟩ := he
      rw [MessagePool.step]
      split
      · exact h.beginSend t line
      · exact h
  | urgent => exact he.elim
  | recv t size =>
      obtain ⟨rfl, rfl⟩ := he
      rw [MessagePool.step]
      split
      · exact h.beginRecv
      · exact h
  | advance t => exact h.advance t

theorem lined_run (body : ℕ → ℕ → UInt8) {es : List (CallStep τ)}
    (h : ∀ e ∈ es, LineStep reader e) :
    Lined reader ((start τ (1400 - 4) 9000 body).run es) := by
  have hstart : Lined reader (start τ (1400 - 4) 9000 body) := by
    refine ⟨?_, fun _ => trivial, fun e he => absurd he List.not_mem_nil⟩
    exact RtMessagequeue.msgSize_rtMqInit (1400 - 4) 9000 body
  exact List.foldlRecOn (motive := Lined reader) es MessagePool.step hstart
    fun _ hs e he => hs.step (h e he)

/-! ## The lines received -/

/-- However the interrupt and the thread interleave, the lines that the thread has
received are the first of those put into the queue, each one whole and in their
order. -/
theorem lines_in_order {body : ℕ → ℕ → UInt8} {es : List (CallStep τ)}
    (h : ∀ e ∈ es, LineStep reader e) :
    ((gives ((start τ (1400 - 4) 9000 body).run es).history).map
        fun got => message (lineOf got)) <+:
      puts ((start τ (1400 - 4) 9000 body).run es).history := by
  obtain ⟨q, _, _, hrepresents⟩ := represents_run (1400 - 4) 9000 body es
  have hlegal := hrepresents.legal
  have hlined := lined_run body h
  generalize (start τ (1400 - 4) 9000 body).run es = s at hlegal hlined ⊢
  have horder (e : Entry τ (List UInt8)) (he : e ∈ s.history) :
      e.InOrder reader := by
    have hentry := hlined.history e he
    cases e with
    | putFront => exact hentry
    | take t => exact hentry
    | _ => trivial
  obtain ⟨-, ms, hputs, hgives⟩ := hlegal.fifo horder
  have hms : ∀ m ∈ ms, IsLine m := by
    intro m hm
    have hput : m ∈ puts s.history := by
      rw [hputs, List.append_assoc]
      exact List.mem_append_left _ hm
    obtain ⟨e, he, heq⟩ := List.mem_filterMap.mp hput
    have hentry := hlined.history e he
    cases e with
    | put m' =>
        obtain rfl := Option.some.inj heq
        exact hentry
    | _ => exact nomatch heq
  have hgot : ∀ got ∈ gives s.history, 1400 ≤ got.length := by
    intro got hgot
    obtain ⟨e, he, heq⟩ := List.mem_filterMap.mp hgot
    have hentry := hlined.history e he
    cases e with
    | give t m =>
        obtain rfl := Option.some.inj heq
        exact hentry
    | _ => exact nomatch heq
  have hlines : (gives s.history).map (fun got => message (lineOf got)) = ms := by
    clear hputs
    generalize gives s.history = gs at hgives hgot
    induction hgives with
    | nil => rfl
    | @cons m got ms gs hagrees _ ih =>
        rw [List.map_cons, ← lineOf_of_agrees hagrees
          (hms m List.mem_cons_self) (hgot got List.mem_cons_self),
          ih (fun m hm => hms m (List.mem_cons_of_mem _ hm))
            (fun g hg => hgot g (List.mem_cons_of_mem _ hg))]
  rw [hlines, hputs, List.append_assoc]
  exact List.prefix_append ms _

/-- The answer `OK`, a second line that the interrupt puts into the queue while
the thread reads the first, and the rest of the 1400 bytes copied, with which the
first line has arrived. -/
def okSteps : List (CallStep Bool) :=
  [.send true (message [0x4f, 0x4b, 0x0d, 0x0a])] ++
    List.replicate 8 (.advance true) ++
    [.recv false 1400, .advance false, .send true (message [0x0d, 0x0a])] ++
    List.replicate 6 (.advance true) ++ List.replicate 1399 (.advance false)

theorem lines_in_order_ok :
    ((gives ((start Bool (1400 - 4) 9000 fun _ _ => 0).run okSteps).history).map
        fun got => message (lineOf got)) <+:
      puts ((start Bool (1400 - 4) 9000 fun _ _ => 0).run okSteps).history := by
  have hsteps : ∀ e ∈ okSteps, LineStep false e := by
    intro e he
    simp only [okSteps, List.mem_append, List.mem_cons, List.mem_replicate,
      List.not_mem_nil, or_false] at he
    rcases he with (((rfl | ⟨-, rfl⟩) | rfl | rfl | rfl) | ⟨-, rfl⟩) | ⟨-, rfl⟩
    · exact ⟨_, rfl⟩
    · trivial
    · exact ⟨rfl, rfl⟩
    · trivial
    · exact ⟨_, rfl⟩
    · trivial
    · trivial
  exact lines_in_order hsteps

end VehicleRecorder.Gsm
