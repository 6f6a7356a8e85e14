import VehicleRecorder.Gsm.MessagePool

/-!
# No message is torn

However the calls of `rt_mq_send`, `rt_mq_urgent` and `rt_mq_recv` interleave, the
queue behaves like one whose messages are put and taken at once.  A node is on one
of the two lists or belongs to one call, so that nobody else writes into it while
its bytes are copied.
-/

namespace VehicleRecorder.Gsm

open Bytes NodePool QueueHistory

variable {τ : Type*}

/-- What is received agrees with the message as far as both reach. -/
def Agrees (m got : List UInt8) : Prop := m.take got.length = got.take m.length

instance (m got : List UInt8) : Decidable (Agrees m got) :=
  inferInstanceAs (Decidable (_ = _))

/-! ## The lists -/

namespace RtMessagequeue

/-- The free nodes, and the nodes with messages in their order. -/
structure Lists (mq : RtMessagequeue) (frees nodes : List ℕ) : Prop where
  free : Chain mq.next mq.msgQueueFree frees
  queue : Chain mq.next mq.msgQueueHead nodes
  tail : mq.msgQueueTail = nodes.getLast?
  entry : mq.entry = nodes.length

/-- A node holds a message. -/
def Holds (mq : RtMessagequeue) (msg : ℕ) (m : List UInt8) : Prop :=
  readBytes (mq.body msg) 0 m.length = m

/-- What is read of a node that holds a message agrees with it. -/
theorem Holds.agrees {mq : RtMessagequeue} {msg : ℕ} {m got : List UInt8}
    (h : mq.Holds msg m) (hgot : readBytes (mq.body msg) 0 got.length = got) :
    Agrees m got := by
  have htake (n k : ℕ) : (readBytes (mq.body msg) 0 n).take k =
      readBytes (mq.body msg) 0 (min k n) := by
    rcases Nat.le_total k n with hle | hle
    · obtain ⟨d, rfl⟩ := Nat.exists_eq_add_of_le hle
      rw [Nat.min_eq_left hle, readBytes_add]
      exact List.take_left' (readBytes_length _ _ _)
    · rw [Nat.min_eq_right hle]
      exact List.take_of_length_le (by rwa [readBytes_length])
  rw [Agrees, ← h, ← hgot]
  simp only [readBytes_length, htake, Nat.min_comm]

theorem lists_putFree {mq : RtMessagequeue} {frees nodes : List ℕ}
    (h : mq.Lists frees nodes) {msg : ℕ} (hmsg : msg ∉ frees ++ nodes) :
    (mq.putFree msg).Lists (msg :: frees) nodes where
  free := h.free.push fun hm => hmsg (List.mem_append_left nodes hm)
  queue := h.queue.update (fun hm => hmsg (List.mem_append_right frees hm)) _
  tail := h.tail
  entry := h.entry

/-- The nodes themselves are as they were. -/
structure SameNodes (mq mq' : RtMessagequeue) : Prop where
  next : mq'.next = mq.next
  body : mq'.body = mq.body
  msgSize : mq'.msgSize = mq.msgSize
  maxMsgs : mq'.maxMsgs = mq.maxMsgs

theorem sizes_putFree_foldl (mq : RtMessagequeue) (ns : List ℕ) :
    (ns.foldl putFree mq).msgSize = mq.msgSize ∧
      (ns.foldl putFree mq).maxMsgs = mq.maxMsgs := by
  induction ns generalizing mq with
  | nil => exact ⟨rfl, rfl⟩
  | cons n ns ih => exact ih (mq.putFree n)

theorem lists_putFree_range {mq : RtMessagequeue} (h : mq.Lists [] []) (n : ℕ) :
    ((List.range n).foldl putFree mq).Lists (List.range n).reverse [] := by
  induction n with
  | zero => exact h
  | succ n ih =>
      rw [List.range_succ, List.foldl_append, List.reverse_append]
      refine lists_putFree ih ?_
      rw [List.append_nil, List.mem_reverse, List.mem_range]
      exact Nat.lt_irrefl n

theorem msgSize_rtMqInit (msgSize poolSize : UInt32) (body : ℕ → ℕ → UInt8) :
    (RtMessagequeue.rtMqInit msgSize poolSize body).msgSize =
      (rtAlign msgSize rtAlignSize).toNat % 65536 :=
  (sizes_putFree_foldl _ _).1

theorem maxMsgs_rtMqInit (msgSize poolSize : UInt32) (body : ℕ → ℕ → UInt8) :
    (RtMessagequeue.rtMqInit msgSize poolSize body).maxMsgs =
      poolSize.toNat /
        ((rtAlign msgSize rtAlignSize).toNat % 65536 + 4) % 65536 :=
  (sizes_putFree_foldl _ _).2

theorem lists_rtMqInit (msgSize poolSize : UInt32) (body : ℕ → ℕ → UInt8) :
    (RtMessagequeue.rtMqInit msgSize poolSize body).Lists
      (List.range
        (RtMessagequeue.rtMqInit msgSize poolSize body).maxMsgs).reverse [] := by
  rw [maxMsgs_rtMqInit]
  refine lists_putFree_range ?_ _
  exact ⟨rfl, rfl, rfl, rfl⟩

theorem frees_of_takeFree_none {mq : RtMessagequeue} {frees nodes : List ℕ}
    (h : mq.Lists frees nodes) (hnone : mq.takeFree = none) : frees = [] := by
  have hfree : mq.msgQueueFree = none := Option.map_eq_none_iff.mp hnone
  exact chain_none_iff.mp (hfree ▸ h.free)

theorem lists_takeFree {mq mq' : RtMessagequeue} {frees nodes : List ℕ} {msg : ℕ}
    (h : mq.Lists frees nodes) (hsome : mq.takeFree = some (msg, mq')) :
    ∃ rest, frees = msg :: rest ∧ mq'.Lists rest nodes ∧ mq.SameNodes mq' := by
  obtain ⟨n, hfree, heq⟩ := Option.map_eq_some_iff.mp hsome
  obtain ⟨rfl, rfl⟩ := Prod.mk.inj heq
  have hchain := h.free
  rw [hfree] at hchain
  obtain ⟨rest, rfl, hrest⟩ := hchain.of_some
  exact ⟨rest, rfl, ⟨hrest, h.queue, h.tail, h.entry⟩, rfl, rfl, rfl, rfl⟩

theorem lists_linkTail {mq : RtMessagequeue} {frees nodes : List ℕ}
    (h : mq.Lists frees nodes) (hnodup : (frees ++ nodes).Nodup) {msg : ℕ}
    (hmsg : msg ∉ frees ++ nodes) (hend : mq.next msg = none)
    (hsmall : nodes.length < 65535) :
    (mq.linkTail msg).Lists frees (nodes ++ [msg]) := by
  have hentry : (mq.entry + 1) % 65536 = (nodes ++ [msg]).length := by
    rw [h.entry, List.length_append, List.length_singleton]
    exact Nat.mod_eq_of_lt (by omega)
  have hlast : some msg = (nodes ++ [msg]).getLast? := by
    rw [List.getLast?_append, List.getLast?_singleton, Option.some_or]
  rcases List.eq_nil_or_concat' nodes with rfl | ⟨front, t, rfl⟩
  · have htail : mq.msgQueueTail = none := h.tail
    have hhead : mq.msgQueueHead = none := h.queue
    refine ⟨?_, ?_, hlast, hentry⟩
    · simp only [linkTail, htail]
      exact h.free
    · simp only [linkTail, htail, hhead]
      exact ⟨rfl, hend⟩
  · have htail : mq.msgQueueTail = some t := by
      rw [h.tail, List.getLast?_append, List.getLast?_singleton, Option.some_or]
    have hqueue : (front ++ [t]).Nodup := (List.nodup_append.mp hnodup).2.1
    have hfree : t ∉ frees := fun hm =>
      (List.nodup_append.mp hnodup).2.2 t hm t
        (List.mem_append_right front (List.mem_singleton_self t)) rfl
    refine ⟨?_, ?_, hlast, hentry⟩
    · simp only [linkTail, htail]
      exact h.free.update hfree _
    · have hhead : (mq.linkTail msg).msgQueueHead = mq.msgQueueHead := by
        cases hq : mq.msgQueueHead with
        | none =>
            have hnil := chain_none_iff.mp (hq ▸ h.queue)
            exact absurd hnil (by simp)
        | some head => simp only [linkTail, hq]
      rw [hhead]
      simp only [linkTail, htail]
      exact h.queue.concat hqueue
        (fun hm => hmsg (List.mem_append_right frees hm)) hend

/-- Of the nodes only the last one of the queue is written. -/
theorem next_linkTail {mq : RtMessagequeue} {frees nodes : List ℕ} {msg n : ℕ}
    (h : mq.Lists frees nodes) (hn : n ∉ nodes) :
    (mq.linkTail msg).next n = mq.next n := by
  have htail := h.tail
  unfold linkTail
  cases hlast : mq.msgQueueTail with
  | none => rfl
  | some tail =>
      refine Function.update_of_ne ?_ ..
      rintro rfl
      rw [hlast] at htail
      exact hn (List.mem_of_getLast? htail.symm)

theorem lists_linkHead {mq : RtMessagequeue} {frees nodes : List ℕ}
    (h : mq.Lists frees nodes) {msg : ℕ} (hmsg : msg ∉ frees ++ nodes)
    (hsmall : nodes.length < 65535) :
    (mq.linkHead msg).Lists frees (msg :: nodes) where
  free := h.free.update (fun hm => hmsg (List.mem_append_left nodes hm)) _
  queue := h.queue.push fun hm => hmsg (List.mem_append_right frees hm)
  tail := by
    have htail := h.tail
    cases nodes with
    | nil =>
        rw [List.getLast?_nil] at htail
        simp only [linkHead, htail, List.getLast?_singleton]
    | cons n ns =>
        rw [List.getLast?_cons_cons, ← htail]
        rw [List.getLast?_cons] at htail
        simp only [linkHead, htail]
  entry := by
    simp only [linkHead, h.entry, List.length_cons]
    exact Nat.mod_eq_of_lt (by omega)

theorem nodes_of_takeHead_none {mq : RtMessagequeue} {frees nodes : List ℕ}
    (h : mq.Lists frees nodes) (hnone : mq.takeHead = none) : nodes = [] := by
  unfold takeHead at hnone
  split at hnone
  · rename_i hzero
    exact List.eq_nil_of_length_eq_zero (h.entry.symm.trans hzero)
  · have hhead : mq.msgQueueHead = none := Option.map_eq_none_iff.mp hnone
    exact chain_none_iff.mp (hhead ▸ h.queue)

theorem lists_takeHead {mq mq' : RtMessagequeue} {frees nodes : List ℕ} {msg : ℕ}
    (h : mq.Lists frees nodes) (hnodup : nodes.Nodup)
    (hsome : mq.takeHead = some (msg, mq')) :
    ∃ rest, nodes = msg :: rest ∧ mq'.Lists frees rest ∧ mq.SameNodes mq' := by
  unfold takeHead at hsome
  split at hsome
  · exact nomatch hsome
  · obtain ⟨n, hhead, heq⟩ := Option.map_eq_some_iff.mp hsome
    obtain ⟨rfl, rfl⟩ := Prod.mk.inj heq
    have hchain := h.queue
    rw [hhead] at hchain
    obtain ⟨rest, rfl, hrest⟩ := hchain.of_some
    have htail := h.tail
    refine ⟨rest, rfl, ⟨h.free, hrest, ?_, ?_⟩, rfl, rfl, rfl, rfl⟩
    · cases rest with
      | nil => exact if_pos htail
      | cons m ms =>
          rw [List.getLast?_cons_cons] at htail
          refine (if_neg ?_).trans htail
          rw [htail]
          intro hlast
          exact (List.nodup_cons.mp hnodup).1 (List.mem_of_getLast? hlast)
    · dsimp only
      rw [h.entry, List.length_cons, Nat.add_sub_cancel]

end RtMessagequeue

/-! ## The calls -/

open RtMessagequeue

/-- What a call has done so far, and the message its party has taken. -/
def CallOk (mq : RtMessagequeue) (held : Option (List UInt8)) : Call → Prop
  | .idle => held = none
  | .sending _ _ => held = none
  | .copying urgent msg buffer copied =>
      held = none ∧ copied ≤ buffer.length ∧
        readBytes (mq.body msg) 0 copied = buffer.take copied ∧
        (urgent = false → mq.next msg = none)
  | .reading msg _ got =>
      readBytes (mq.body msg) 0 got.length = got ∧
        ∃ m, held = some m ∧ mq.Holds msg m

/-- Only the node a call works on matters to it. -/
theorem callOk_of_untouched {mq mq' : RtMessagequeue}
    {held : Option (List UInt8)} {c : Call} (h : CallOk mq held c)
    (hmsg : ∀ n, c.msg = some n →
      mq'.next n = mq.next n ∧ mq'.body n = mq.body n) : CallOk mq' held c := by
  cases c with
  | idle => exact h
  | sending => exact h
  | copying urgent msg buffer copied =>
      obtain ⟨hnext, hbody⟩ := hmsg msg rfl
      simp only [CallOk, hnext, hbody]
      exact h
  | reading msg size got =>
      obtain ⟨-, hbody⟩ := hmsg msg rfl
      simp only [CallOk, Holds, hbody]
      exact h

namespace MessagePool

/-- The node each party works on. -/
def owner (s : MessagePool τ) (t : τ) : Option ℕ := (s.calls t).msg

variable [DecidableEq τ]

theorem owner_call (s : MessagePool τ) (t : τ) (c : Call) :
    (s.call t c).owner = Function.update s.owner t c.msg := by
  funext u
  by_cases hut : u = t
  · rw [hut, Function.update_self]
    exact congrArg Call.msg (Function.update_self ..)
  · rw [Function.update_of_ne hut]
    exact congrArg Call.msg (Function.update_of_ne hut ..)

/-- The pool is a queue with these messages, taken by these parties. -/
structure Represents (s : MessagePool τ) (q : Queue τ (List UInt8))
    (frees nodes : List ℕ) : Prop where
  lists : s.mq.Lists frees nodes
  owns : Owns s.mq.maxMsgs s.owner (frees ++ nodes)
  messages : List.Forall₂ s.mq.Holds nodes q.messages
  calls : ∀ t, CallOk s.mq (q.held t) (s.calls t)
  legal : Legal Agrees s.history q
  small : s.mq.maxMsgs < 65536

variable {s : MessagePool τ} {q : Queue τ (List UInt8)} {frees nodes : List ℕ}

/-- A party that touches listed nodes and its own disturbs no other call. -/
theorem Represents.calls_update (h : s.Represents q frees nodes) {t : τ}
    {mq : RtMessagequeue} {c : Call} {held : Option (List UInt8)}
    (hmine : CallOk mq held c)
    (hframe : ∀ n, n ∉ frees ++ nodes → s.owner t ≠ some n →
      mq.next n = s.mq.next n ∧ mq.body n = s.mq.body n) (u : τ) :
    CallOk mq (Function.update q.held t held u)
      (Function.update s.calls t c u) := by
  by_cases hut : u = t
  · rw [hut, Function.update_self, Function.update_self]
    exact hmine
  · rw [Function.update_of_ne hut, Function.update_of_ne hut]
    refine callOk_of_untouched (h.calls u) fun n hn => ?_
    exact hframe n (h.owns.owned hn).2 fun ht => hut (h.owns.apart hn ht)

/-- The same when the party takes and returns with no message. -/
theorem Represents.calls_same (h : s.Represents q frees nodes) {t : τ}
    {mq : RtMessagequeue} {c : Call} (hmine : CallOk mq (q.held t) c)
    (hframe : ∀ n, n ∉ frees ++ nodes → s.owner t ≠ some n →
      mq.next n = s.mq.next n ∧ mq.body n = s.mq.body n) (u : τ) :
    CallOk mq (q.held u) (Function.update s.calls t c u) := by
  have hall := h.calls_update hmine hframe u
  rwa [Function.update_eq_self] at hall

theorem messages_of_body {mq mq' : RtMessagequeue} {ms : List (List UInt8)}
    (h : List.Forall₂ mq.Holds nodes ms)
    (hbody : ∀ n ∈ nodes, mq'.body n = mq.body n) :
    List.Forall₂ mq'.Holds nodes ms := by
  induction h with
  | nil => exact .nil
  | @cons n m ns ms hn _ ih =>
      refine .cons ?_ (ih fun k hk => hbody k (List.mem_cons_of_mem n hk))
      rw [Holds, hbody n List.mem_cons_self]
      exact hn

/-! ## The steps -/

/-- A send begins: a free node becomes its own. -/
theorem represents_beginSend (h : s.Represents q frees nodes) {t : τ}
    (ht : s.calls t = .idle) (urgent : Bool) (buffer : List UInt8) :
    ∃ frees', (s.beginSend t urgent buffer).Represents q frees' nodes := by
  have hidle : s.owner t = none := congrArg Call.msg ht
  have hheld : q.held t = none := by
    have hcall := h.calls t
    rwa [ht] at hcall
  unfold beginSend
  split
  · exact ⟨frees, h⟩
  · cases hfree : s.mq.takeFree with
    | none => exact ⟨frees, h.lists, h.owns, h.messages, h.calls, h.legal, h.small⟩
    | some p =>
        obtain ⟨msg, mq⟩ := p
        obtain ⟨rest, rfl, hlists, hnext, hbody, -, hmax⟩ :=
          lists_takeFree h.lists hfree
        refine ⟨rest, hlists, ?_, ?_, ?_, h.legal, hmax.symm ▸ h.small⟩
        · rw [owner_call]
          have hown := h.owns.acquire hidle
          cases urgent <;> exact hmax.symm ▸ hown
        · exact messages_of_body h.messages fun n _ => congrFun hbody n
        · refine h.calls_same ?_ fun n _ _ =>
            ⟨congrFun hnext n, congrFun hbody n⟩
          cases urgent
          · exact hheld
          · exact ⟨hheld, Nat.zero_le _, rfl, fun h => nomatch h⟩

/-- A receiver takes the message in front, if there is one. -/
theorem represents_beginRecv (h : s.Represents q frees nodes) {t : τ}
    (ht : s.calls t = .idle) (size : ℕ) :
    ∃ q' nodes', (s.beginRecv t size).Represents q' frees nodes' := by
  have hidle : s.owner t = none := congrArg Call.msg ht
  have hheld : q.held t = none := by
    have hcall := h.calls t
    rwa [ht] at hcall
  have hnodup : nodes.Nodup := (List.nodup_append.mp h.owns.nodup).2.1
  unfold beginRecv
  split
  · exact ⟨q, nodes, h⟩
  · cases hhead : s.mq.takeHead with
    | none => exact ⟨q, nodes, h⟩
    | some p =>
        obtain ⟨msg, mq⟩ := p
        obtain ⟨rest, rfl, hlists, hnext, hbody, -, hmax⟩ :=
          lists_takeHead h.lists hnodup hhead
        obtain ⟨m, ms, hm, hrest, hfront⟩ :=
          List.forall₂_cons_left_iff.mp h.messages
        refine ⟨_, rest, hlists, ?_, ?_, ?_,
          h.legal.concat (.take hfront hheld), hmax.symm ▸ h.small⟩
        · rw [owner_call]
          have hown := (h.owns.perm List.perm_middle).acquire hidle
          exact hmax.symm ▸ hown
        · exact messages_of_body hrest fun n _ => congrFun hbody n
        · refine h.calls_update ⟨rfl, m, rfl, ?_⟩ fun n _ _ =>
            ⟨congrFun hnext n, congrFun hbody n⟩
          change readBytes (mq.body msg) 0 m.length = m
          rw [congrFun hbody msg]
          exact hm

/-- `msg->next=RT_NULL`. -/
theorem represents_sending (h : s.Represents q frees nodes) {t : τ} {msg : ℕ}
    {buffer : List UInt8} (ht : s.calls t = .sending msg buffer) :
    (s.advance t).Represents q frees nodes := by
  have hown : s.owner t = some msg := congrArg Call.msg ht
  have hnot := (h.owns.owned hown).2
  have hheld : q.held t = none := by
    have hcall := h.calls t
    rwa [ht] at hcall
  rw [advance, ht]
  refine ⟨⟨?_, ?_, h.lists.tail, h.lists.entry⟩, ?_, h.messages, ?_, h.legal,
    h.small⟩
  · exact h.lists.free.update (fun hm => hnot (List.mem_append_left _ hm)) _
  · exact h.lists.queue.update (fun hm => hnot (List.mem_append_right _ hm)) _
  · have hsame : Function.update s.owner t (some msg) = s.owner := by
      rw [← hown, Function.update_eq_self]
    rw [owner_call]
    exact hsame.symm ▸ h.owns
  · refine h.calls_same ⟨hheld, Nat.zero_le _, rfl, fun _ =>
      Function.update_self ..⟩ fun n _ hn => ⟨Function.update_of_ne ?_ .., rfl⟩
    rintro rfl
    exact hn hown

/-- A byte is copied into the node of a send. -/
theorem represents_copied (h : s.Represents q frees nodes) {t : τ}
    {urgent : Bool} {msg copied : ℕ} {buffer : List UInt8}
    (ht : s.calls t = .copying urgent msg buffer copied)
    (hless : copied < buffer.length) :
    (s.advance t).Represents q frees nodes := by
  have hown : s.owner t = some msg := congrArg Call.msg ht
  have hnot := (h.owns.owned hown).2
  obtain ⟨hheld, -, hbytes, hend⟩ : CallOk s.mq (q.held t)
      (.copying urgent msg buffer copied) := ht ▸ h.calls t
  have hother {n : ℕ} (hn : n ≠ msg) :
      (s.write msg copied (buffer.getD copied 0)).mq.body n = s.mq.body n :=
    Function.update_of_ne hn ..
  have hmine : (s.write msg copied (buffer.getD copied 0)).mq.body msg =
      Function.update (s.mq.body msg) copied (buffer.getD copied 0) :=
    Function.update_self ..
  rw [advance, ht]
  dsimp only
  rw [if_pos hless]
  refine ⟨⟨h.lists.free, h.lists.queue, h.lists.tail, h.lists.entry⟩, ?_, ?_, ?_,
    h.legal, h.small⟩
  · have hsame : Function.update s.owner t (some msg) = s.owner := by
      rw [← hown, Function.update_eq_self]
    rw [owner_call]
    exact hsame.symm ▸ h.owns
  · refine messages_of_body h.messages fun n hn => hother ?_
    rintro rfl
    exact hnot (List.mem_append_right _ hn)
  · refine h.calls_same ⟨hheld, hless, ?_, hend⟩ fun n _ hn => ⟨rfl, hother ?_⟩
    · have hbefore : readBytes (Function.update (s.mq.body msg) copied
          (buffer.getD copied 0)) 0 copied = buffer.take copied := by
        rw [← hbytes]
        refine readBytes_congr fun i _ hi => Function.update_of_ne ?_ ..
        omega
      change readBytes ((s.write msg copied (buffer.getD copied 0)).mq.body msg)
        0 (copied + 1) = buffer.take (copied + 1)
      rw [hmine, readBytes_add, hbefore, Nat.zero_add, readBytes, readBytes,
        Function.update_self, List.getD_eq_getElem?_getD,
        List.getElem?_eq_getElem hless, Option.getD_some]
      exact (List.take_succ_eq_append_getElem hless).symm
    · rintro rfl
      exact hn hown

/-- A send puts its node on the queue. -/
theorem represents_linked (h : s.Represents q frees nodes) {t : τ}
    {urgent : Bool} {msg copied : ℕ} {buffer : List UInt8}
    (ht : s.calls t = .copying urgent msg buffer copied)
    (hdone : ¬ copied < buffer.length) :
    ∃ q' nodes', (s.advance t).Represents q' frees nodes' := by
  have hown : s.owner t = some msg := congrArg Call.msg ht
  have hnot := (h.owns.owned hown).2
  obtain ⟨hheld, hle, hbytes, hend⟩ : CallOk s.mq (q.held t)
      (.copying urgent msg buffer copied) := ht ▸ h.calls t
  have hall : copied = buffer.length := by omega
  subst hall
  rw [List.take_length] at hbytes
  have hsmall : nodes.length < 65535 := by
    have hlt := h.owns.length_lt hown
    have hmax := h.small
    rw [List.length_append] at hlt
    omega
  have hrelease := h.owns.release hown
  rw [advance, ht]
  dsimp only
  rw [if_neg hdone]
  cases urgent with
  | true =>
      rw [if_pos rfl]
      refine ⟨_, msg :: nodes, lists_linkHead h.lists hnot hsmall, ?_, ?_, ?_,
        h.legal.concat .putFront, h.small⟩
      · rw [owner_call]
        exact hrelease.perm List.perm_middle.symm
      · exact List.Forall₂.cons (R := s.mq.Holds) hbytes h.messages
      · refine h.calls_same hheld fun n _ hn => ⟨Function.update_of_ne ?_ .., rfl⟩
        rintro rfl
        exact hn hown
  | false =>
      rw [if_neg Bool.false_ne_true]
      refine ⟨_, nodes ++ [msg], lists_linkTail h.lists h.owns.nodup hnot
        (hend rfl) hsmall, ?_, ?_, ?_, h.legal.concat .put, h.small⟩
      · rw [owner_call]
        refine hrelease.perm ?_
        rw [← List.append_assoc]
        exact (List.perm_append_singleton msg _).symm
      · exact List.rel_append h.messages
          (List.Forall₂.cons (R := s.mq.Holds) hbytes .nil)
      · refine h.calls_same hheld fun n hn _ => ⟨?_, rfl⟩
        exact next_linkTail h.lists fun hm => hn (List.mem_append_right _ hm)

/-- A receiver reads a byte of its node. -/
theorem represents_read (h : s.Represents q frees nodes) {t : τ} {msg size : ℕ}
    {got : List UInt8} (ht : s.calls t = .reading msg size got)
    (hless : got.length < size) : (s.advance t).Represents q frees nodes := by
  have hown : s.owner t = some msg := congrArg Call.msg ht
  obtain ⟨hread, m, hheld, hm⟩ : CallOk s.mq (q.held t)
      (.reading msg size got) := ht ▸ h.calls t
  rw [advance, ht]
  dsimp only
  rw [if_pos hless]
  refine ⟨h.lists, ?_, h.messages, ?_, h.legal, h.small⟩
  · have hsame : Function.update s.owner t (some msg) = s.owner := by
      rw [← hown, Function.update_eq_self]
    rw [owner_call]
    exact hsame.symm ▸ h.owns
  · refine h.calls_same ⟨?_, m, hheld, hm⟩ fun n _ _ => ⟨rfl, rfl⟩
    change readBytes (s.mq.body msg) 0 (got ++ [_]).length = _
    rw [List.length_append, List.length_singleton, readBytes_add, hread,
      Nat.zero_add]
    rfl

/-- A receiver returns, and its node is free again. -/
theorem represents_returned (h : s.Represents q frees nodes) {t : τ}
    {msg size : ℕ} {got : List UInt8} (ht : s.calls t = .reading msg size got)
    (hdone : ¬ got.length < size) :
    ∃ q', (s.advance t).Represents q' (msg :: frees) nodes := by
  have hown : s.owner t = some msg := congrArg Call.msg ht
  have hnot := (h.owns.owned hown).2
  obtain ⟨hread, m, hheld, hm⟩ : CallOk s.mq (q.held t)
      (.reading msg size got) := ht ▸ h.calls t
  rw [advance, ht]
  dsimp only
  rw [if_neg hdone]
  refine ⟨{ q with held := Function.update q.held t none },
    lists_putFree h.lists hnot, ?_, h.messages, ?_,
    h.legal.concat (.give hheld (hm.agrees hread)), h.small⟩
  · rw [owner_call]
    exact h.owns.release hown
  · have hidle : CallOk (s.mq.putFree msg) none .idle := rfl
    refine h.calls_update hidle fun n _ hn => ⟨Function.update_of_ne ?_ .., rfl⟩
    rintro rfl
    exact hn hown

/-- Every step is one of a queue, or leaves the queue as it is. -/
theorem represents_step (h : s.Represents q frees nodes) (e : CallStep τ) :
    ∃ q' frees' nodes', (s.step e).Represents q' frees' nodes' := by
  cases e with
  | send t buffer =>
      rw [step]
      split
      · obtain ⟨frees', h'⟩ := represents_beginSend h ‹_› false buffer
        exact ⟨q, frees', nodes, h'⟩
      · exact ⟨q, frees, nodes, h⟩
  | urgent t buffer =>
      rw [step]
      split
      · obtain ⟨frees', h'⟩ := represents_beginSend h ‹_› true buffer
        exact ⟨q, frees', nodes, h'⟩
      · exact ⟨q, frees, nodes, h⟩
  | recv t size =>
      rw [step]
      split
      · obtain ⟨q', nodes', h'⟩ := represents_beginRecv h ‹_› size
        exact ⟨q', frees, nodes', h'⟩
      · exact ⟨q, frees, nodes, h⟩
  | advance t =>
      rw [step]
      cases ht : s.calls t with
      | idle =>
          rw [advance, ht]
          exact ⟨q, frees, nodes, h⟩
      | sending msg buffer => exact ⟨q, frees, nodes, represents_sending h ht⟩
      | copying urgent msg buffer copied =>
          by_cases hless : copied < buffer.length
          · exact ⟨q, frees, nodes, represents_copied h ht hless⟩
          · obtain ⟨q', nodes', h'⟩ := represents_linked h ht hless
            exact ⟨q', frees, nodes', h'⟩
      | reading msg size got =>
          by_cases hless : got.length < size
          · exact ⟨q, frees, nodes, represents_read h ht hless⟩
          · obtain ⟨q', h'⟩ := represents_returned h ht hless
            exact ⟨q', msg :: frees, nodes, h'⟩

/-! ## Runs -/

/-- The state behind `rt_mq_init`, with no call under way. -/
def start (τ : Type*) (msgSize poolSize : UInt32) (body : ℕ → ℕ → UInt8) :
    MessagePool τ :=
  { mq := RtMessagequeue.rtMqInit msgSize poolSize body }

theorem represents_start (msgSize poolSize : UInt32)
    (body : ℕ → ℕ → UInt8) :
    (start τ msgSize poolSize body).Represents {}
      (List.range (RtMessagequeue.rtMqInit msgSize poolSize body).maxMsgs).reverse
      [] := by
  refine ⟨lists_rtMqInit msgSize poolSize body, ⟨?_, ?_, ?_, ?_, ?_⟩, .nil,
    fun t => rfl, .nil, ?_⟩
  · rw [List.append_nil]
    exact List.nodup_reverse.mpr List.nodup_range
  · intro n hn
    rw [List.append_nil, List.mem_reverse, List.mem_range] at hn
    exact hn
  · intro t n ht
    exact nomatch ht
  · intro t u n ht
    exact nomatch ht
  · intro n hn
    rw [List.append_nil, List.mem_reverse, List.mem_range]
    exact Or.inl hn
  · have hmax := maxMsgs_rtMqInit msgSize poolSize body
    exact hmax.trans_lt (Nat.mod_lt _ (by decide))

theorem represents_run (msgSize poolSize : UInt32) (body : ℕ → ℕ → UInt8)
    (es : List (CallStep τ)) :
    ∃ q frees nodes,
      ((start τ msgSize poolSize body).run es).Represents q frees nodes :=
  List.foldlRecOn (motive := fun s : MessagePool τ =>
      ∃ q frees nodes, s.Represents q frees nodes) es step
    ⟨_, _, _, represents_start msgSize poolSize body⟩
    fun _ h e _ =>
      let ⟨_, _, _, hs⟩ := h
      represents_step hs e

/-- No node is lost: a send is refused exactly when all of them hold messages in
the queue or belong to calls under way. -/
theorem refuses_iff [Fintype τ] (msgSize poolSize : UInt32)
    (body : ℕ → ℕ → UInt8) (es : List (CallStep τ)) :
    ((start τ msgSize poolSize body).run es).mq.takeFree = none ↔
      ((start τ msgSize poolSize body).run es).mq.entry +
          (Finset.univ.filter fun t =>
            ((start τ msgSize poolSize body).run es).calls t ≠ .idle).card =
        ((start τ msgSize poolSize body).run es).mq.maxMsgs := by
  obtain ⟨q, frees, nodes, h⟩ := represents_run msgSize poolSize body es
  generalize (start τ msgSize poolSize body).run es = s at h ⊢
  have hbusy : (Finset.univ.filter fun t => s.calls t ≠ .idle) =
      Finset.univ.filter fun t => (s.owner t).isSome = true := by
    refine Finset.filter_congr fun t _ => ?_
    rw [owner]
    cases s.calls t with
    | idle => exact iff_of_false (fun h => h rfl) Bool.false_ne_true
    | _ => exact iff_of_true (fun h => nomatch h) rfl
  have hcount := h.owns.length_add_card
  rw [List.length_append, ← h.lists.entry, ← hbusy] at hcount
  have hfree : s.mq.takeFree = none ↔ frees.length = 0 := by
    rw [List.length_eq_zero_iff]
    refine ⟨frees_of_takeFree_none h.lists, fun hnil => ?_⟩
    subst hnil
    rw [takeFree, show s.mq.msgQueueFree = none from h.lists.free]
    rfl
  rw [hfree]
  omega

end MessagePool

end VehicleRecorder.Gsm
