import VehicleRecorder.Lib.Bytes
import VehicleRecorder.Lib.Lines
import VehicleRecorder.Lib.Runs
import Mathlib.Logic.Function.Basic

/-!
# The lines of the modem

The interrupt puts the bytes of the modem together in `GSM_INT_BUFF` and sends
the buffer to a queue at every CR LF.  The index starts anew when it has reached
the size of the buffer, so of an overlong line only the last bytes are there when
it ends.

The queue rounds the size of its messages up, and a message holds the index in
front of the bytes.
-/

namespace VehicleRecorder.Gsm

open Bytes Lines Runs

/-! ## The message queue -/

/-- `RT_ALIGN(size,align)`. -/
def rtAlign (size align : UInt32) : UInt32 :=
  (size + align - 1) &&& ~~~(align - 1)

/-- `RT_ALIGN_SIZE`. -/
abbrev rtAlignSize : UInt32 := 8

/-- A message queue with the messages in it. -/
structure MessageQueue where
  msgSize : ℕ
  maxMsgs : ℕ
  messages : List (List UInt8) := []

/-- `rt_mq_init`; the head of a message in the pool is a pointer. -/
def rtMqInit (msgSize poolSize : UInt32) : MessageQueue :=
  let size := rtAlign msgSize rtAlignSize
  { msgSize := size.toNat, maxMsgs := (poolSize / (size + 4)).toNat }

namespace MessageQueue

/-- `rt_mq_send`. -/
def rtMqSend (q : MessageQueue) (buffer : ℕ → UInt8) (size : ℕ) :
    MessageQueue :=
  if q.msgSize < size then q
  else if q.messages.length < q.maxMsgs then
    { q with messages := q.messages ++ [readBytes buffer 0 size] }
  else q

/-- `rt_mq_recv`, which takes the message in front unless there is none. -/
def rtMqRecv (q : MessageQueue) : Option (List UInt8) × MessageQueue :=
  (q.messages.head?, { q with messages := q.messages.tail })

end MessageQueue

/-! ## The buffer -/

/-- `GSM_TYPEBUF_SIZE`. -/
abbrev gsmTypebufSize : ℕ := 1500

/-- `GSM_typeBUF`. -/
structure GsmTypeBuf where
  gsmWr : ℕ := 0
  gsmContent : ℕ → UInt8 := fun _ => 0

namespace GsmTypeBuf

/-- The bytes of the packed structure. -/
def bytes (b : GsmTypeBuf) : ℕ → UInt8
  | 0 => UInt8.ofNat b.gsmWr
  | 1 => UInt8.ofNat (b.gsmWr / 256)
  | i + 2 => b.gsmContent i

/-- `gsm_content[gsm_wr++]=data`. -/
def put (b : GsmTypeBuf) (data : UInt8) : GsmTypeBuf where
  gsmWr := b.gsmWr + 1
  gsmContent := Function.update b.gsmContent b.gsmWr data

/-- The bytes put. -/
def line (b : GsmTypeBuf) : List UInt8 := readBytes b.gsmContent 0 b.gsmWr

theorem length_line (b : GsmTypeBuf) : b.line.length = b.gsmWr :=
  readBytes_length _ _ _

theorem put_line (b : GsmTypeBuf) (data : UInt8) :
    (b.put data).line = b.line ++ [data] := by
  have hold : readBytes (b.put data).gsmContent 0 b.gsmWr = b.line := by
    refine readBytes_congr fun i _ hi => Function.update_of_ne ?_ _ _
    omega
  have hnew : (b.put data).gsmContent b.gsmWr = data := by
    simp only [put, Function.update_self]
  rw [line, put, readBytes_add]
  change readBytes (b.put data).gsmContent 0 b.gsmWr ++
    [(b.put data).gsmContent (0 + b.gsmWr)] = _
  rw [hold, Nat.zero_add, hnew]

end GsmTypeBuf

/-- A line in a message, behind its length. -/
def message (line : List UInt8) : List UInt8 := leBytes 2 line.length ++ line

theorem length_message (line : List UInt8) :
    (message line).length = line.length + 2 := by
  rw [message, List.length_append, leBytes_length, Nat.add_comm]

theorem GsmTypeBuf.readBytes_bytes (b : GsmTypeBuf) :
    readBytes b.bytes 0 (b.gsmWr + 2) = message b.line := by
  have hcontent (n k : ℕ) :
      readBytes b.bytes (k + 2) n = readBytes b.gsmContent k n := by
    induction n generalizing k with
    | zero => rfl
    | succ n ih =>
        have hnext : k + 2 + 1 = k + 1 + 2 := by omega
        rw [readBytes, readBytes, hnext, ih]
        rfl
  rw [message, b.length_line, readBytes, readBytes, hcontent b.gsmWr 0]
  rfl

/-! ## The handler -/

/-- What the interrupt and the thread of the modem work on. -/
structure GsmRx where
  gsmIntBuff : GsmTypeBuf := {}
  formerByte : UInt8 := 0
  mqGsm : MessageQueue
  /-- What `GSM_Process` was called with. -/
  processed : List (List UInt8) := []

namespace GsmRx

/-- The state behind `_gsm_startup`. -/
def startup : GsmRx where
  mqGsm := rtMqInit (1400 - 4) 9000

/-- `GSM_RxHandler`. -/
def gsmRxHandler (s : GsmRx) (data : UInt8) : GsmRx :=
  let b := s.gsmIntBuff.put data
  if data = 0x0a ∧ s.formerByte = 0x0d then
    { s with
      gsmIntBuff := { b with gsmWr := 0 }
      formerByte := data
      mqGsm :=
        if b.gsmWr < 1400 then s.mqGsm.rtMqSend b.bytes (b.gsmWr + 2)
        else s.mqGsm }
  else
    let wr := if b.gsmWr = gsmTypebufSize then 0 else b.gsmWr
    { s with
      gsmIntBuff := ⟨wr, Function.update b.gsmContent wr 0⟩
      formerByte := data }

/-- `GSM_Buffer_Read_Process`. -/
def gsmBufferReadProcess (s : GsmRx) : GsmRx :=
  match s.mqGsm.rtMqRecv with
  | (none, _) => s
  | (some m, q) =>
      { s with
        mqGsm := q
        processed := s.processed ++ [(m.drop 2).take (leValue (m.take 2))] }

end GsmRx

/-- `GSM_Process` gets the line of the message in front. -/
theorem GsmRx.processed_message {s : GsmRx} {line : List UInt8}
    {ms : List (List UInt8)} (h : s.mqGsm.messages = message line :: ms)
    (hlen : line.length < 65536) :
    s.gsmBufferReadProcess.processed = s.processed ++ [line] := by
  have htake : (message line).take 2 = leBytes 2 line.length :=
    List.take_left' (leBytes_length 2 _)
  have hdrop : (message line).drop 2 = line :=
    List.drop_left' (leBytes_length 2 _)
  have hvalue : leValue (leBytes 2 line.length) = line.length := by
    rw [leValue_leBytes]
    exact Nat.mod_eq_of_lt hlen
  rw [gsmBufferReadProcess, MessageQueue.rtMqRecv, h, List.head?_cons]
  dsimp only
  rw [htake, hdrop, hvalue, List.take_length]

/-- A byte of the modem, or a turn of the thread. -/
inductive GsmEvent
  | rx (data : UInt8)
  | read

namespace GsmRx

def step (s : GsmRx) : GsmEvent → GsmRx
  | .rx data => s.gsmRxHandler data
  | .read => s.gsmBufferReadProcess

def run (es : List GsmEvent) : GsmRx := es.foldl step startup

theorem run_concat (es : List GsmEvent) (e : GsmEvent) :
    run (es ++ [e]) = (run es).step e := by
  rw [run, List.foldl_append]
  rfl

end GsmRx

/-- The bytes of the modem. -/
def stream (es : List GsmEvent) : List UInt8 :=
  es.filterMap fun
    | .rx data => some data
    | .read => none

theorem stream_rx (es : List GsmEvent) (data : UInt8) :
    stream (es ++ [.rx data]) = stream es ++ [data] := by
  rw [stream, List.filterMap_append]
  rfl

theorem stream_read (es : List GsmEvent) : stream (es ++ [.read]) = stream es := by
  rw [stream, List.filterMap_append]
  exact List.append_nil _

/-! ## What is in the buffer -/

/-- What is left of some bytes in a buffer of `n` that starts anew when it is
full. -/
def afterWraps (n : ℕ) (xs : List UInt8) : List UInt8 :=
  xs.drop (xs.length / n * n)

theorem length_afterWraps (n : ℕ) (xs : List UInt8) :
    (afterWraps n xs).length = xs.length % n := by
  have hdiv := Nat.div_add_mod' xs.length n
  rw [afterWraps, List.length_drop]
  omega

theorem afterWraps_of_lt {n : ℕ} {xs : List UInt8} (h : xs.length < n) :
    afterWraps n xs = xs := by
  rw [afterWraps, Nat.div_eq_of_lt h, Nat.zero_mul, List.drop_zero]

theorem afterWraps_concat {n : ℕ} (hn : 0 < n) (xs : List UInt8) (x : UInt8) :
    afterWraps n (xs ++ [x]) =
      if xs.length % n + 1 = n then [] else afterWraps n xs ++ [x] := by
  have hdiv := Nat.div_add_mod' xs.length n
  have hlt := Nat.mod_lt xs.length hn
  rw [afterWraps, List.length_append, List.length_singleton]
  split
  · next hfull =>
      have hnext : (xs.length + 1) / n * n = xs.length + 1 := by
        refine Nat.div_mul_cancel ⟨xs.length / n + 1, ?_⟩
        rw [Nat.mul_add, Nat.mul_one, Nat.mul_comm]
        omega
      rw [hnext]
      exact List.drop_eq_nil_of_le (by simp)
  · next hroom =>
      have hnext : (xs.length + 1) / n = xs.length / n := by
        refine Nat.div_eq_of_lt_le ?_ ?_
        · omega
        · rw [Nat.add_mul, Nat.one_mul]
          omega
      rw [hnext, List.drop_append_of_le_length (by omega), afterWraps]

namespace GsmRx

/-- The byte ends a line. -/
abbrev LineEnd (xs : List UInt8) : Prop := Ended 0x0d 0x0a xs

/-- The bytes of the line that has not ended. -/
abbrev pending (xs : List UInt8) : List UInt8 := unfinished 0x0d 0x0a xs

theorem cr_ne_lf : (0x0d : UInt8) ≠ 0x0a := by decide

/-- What the handler has kept of the bytes so far. -/
structure Kept (s : GsmRx) (xs : List UInt8) : Prop where
  former : s.formerByte = 0x0d ↔ xs.getLast? = some 0x0d
  line : s.gsmIntBuff.line = afterWraps gsmTypebufSize (pending xs)
  msgSize : s.mqGsm.msgSize = 1400
  maxMsgs : s.mqGsm.maxMsgs = 6

theorem kept_startup : startup.Kept [] := by
  refine ⟨?_, rfl, by decide, by decide⟩
  exact iff_of_false (by decide) (Option.some_ne_none _).symm

variable {s : GsmRx} {xs : List UInt8}

theorem Kept.lineEnd_iff (h : s.Kept xs) (data : UInt8) :
    LineEnd (pending xs ++ [data]) ↔ data = 0x0a ∧ s.formerByte = 0x0d := by
  rw [LineEnd, ended_unfinished_concat_iff cr_ne_lf, ended_concat_iff, h.former]

theorem gsmRxHandler_formerByte (s : GsmRx) (data : UInt8) :
    (s.gsmRxHandler data).formerByte = data := by
  rw [gsmRxHandler]
  dsimp only
  split <;> rfl

/-- The messages behind a byte that ends a line. -/
theorem Kept.messages_of_lineEnd (h : s.Kept xs) {data : UInt8}
    (hend : LineEnd (pending xs ++ [data])) :
    (s.gsmRxHandler data).mqGsm =
      if (afterWraps gsmTypebufSize (pending xs)).length < 1398 ∧
          s.mqGsm.messages.length < 6 then
        { s.mqGsm with messages := s.mqGsm.messages ++
          [message (afterWraps gsmTypebufSize (pending xs) ++ [data])] }
      else s.mqGsm := by
  have hwr : (s.gsmIntBuff.put data).gsmWr =
      (afterWraps gsmTypebufSize (pending xs)).length + 1 := by
    rw [← h.line, GsmTypeBuf.length_line]
    rfl
  rw [gsmRxHandler]
  dsimp only
  rw [if_pos ((h.lineEnd_iff data).mp hend)]
  dsimp only
  by_cases hshort : (afterWraps gsmTypebufSize (pending xs)).length < 1398
  · have hsize : ¬ s.mqGsm.msgSize < (s.gsmIntBuff.put data).gsmWr + 2 := by
      rw [h.msgSize, hwr]
      omega
    rw [if_pos (by omega), MessageQueue.rtMqSend, if_neg hsize,
      GsmTypeBuf.readBytes_bytes, GsmTypeBuf.put_line, h.line]
    by_cases hroom : s.mqGsm.messages.length < 6
    · rw [if_pos (h.maxMsgs.symm ▸ hroom), if_pos ⟨hshort, hroom⟩]
    · rw [if_neg (h.maxMsgs.symm ▸ hroom), if_neg fun hboth => hroom hboth.2]
  · have hnot : ¬ ((afterWraps gsmTypebufSize (pending xs)).length < 1398 ∧
        s.mqGsm.messages.length < 6) := fun hboth => hshort hboth.1
    rw [if_neg hnot]
    split
    · have hsize : s.mqGsm.msgSize < (s.gsmIntBuff.put data).gsmWr + 2 := by
        rw [h.msgSize, hwr]
        omega
      rw [MessageQueue.rtMqSend, if_pos hsize]
    · rfl

theorem Kept.mqGsm_of_not_lineEnd (h : s.Kept xs) {data : UInt8}
    (hend : ¬ LineEnd (pending xs ++ [data])) :
    (s.gsmRxHandler data).mqGsm = s.mqGsm := by
  rw [gsmRxHandler]
  dsimp only
  rw [if_neg fun hdata => hend ((h.lineEnd_iff data).mpr hdata)]

/-- One byte. -/
theorem Kept.rx (h : s.Kept xs) (data : UInt8) :
    (s.gsmRxHandler data).Kept (xs ++ [data]) := by
  have hformer : (s.gsmRxHandler data).formerByte = 0x0d ↔
      (xs ++ [data]).getLast? = some 0x0d := by
    rw [gsmRxHandler_formerByte, List.getLast?_concat, Option.some.injEq]
  by_cases hend : LineEnd (pending xs ++ [data])
  · have hqueue := h.messages_of_lineEnd hend
    refine ⟨hformer, ?_, ?_, ?_⟩
    · rw [pending, unfinished_concat, keep_of_ended hend, gsmRxHandler]
      dsimp only
      rw [if_pos ((h.lineEnd_iff data).mp hend)]
      rfl
    · rw [hqueue, apply_ite MessageQueue.msgSize]
      exact (ite_self _).trans h.msgSize
    · rw [hqueue, apply_ite MessageQueue.maxMsgs]
      exact (ite_self _).trans h.maxMsgs
  · have hqueue := h.mqGsm_of_not_lineEnd hend
    have hwr : (s.gsmIntBuff.put data).gsmWr =
        (pending xs).length % gsmTypebufSize + 1 := by
      rw [← length_afterWraps, ← h.line, GsmTypeBuf.length_line]
      rfl
    refine ⟨hformer, ?_, hqueue ▸ h.msgSize, hqueue ▸ h.maxMsgs⟩
    rw [pending, unfinished_concat, keep_of_not_ended hend,
      afterWraps_concat (by decide), gsmRxHandler]
    dsimp only
    rw [if_neg fun hdata => hend ((h.lineEnd_iff data).mpr hdata), ← hwr]
    by_cases hfull : (s.gsmIntBuff.put data).gsmWr = gsmTypebufSize
    · rw [if_pos hfull, if_pos hfull]
      rfl
    · rw [if_neg hfull, if_neg hfull, ← h.line, ← GsmTypeBuf.put_line]
      -- the zero stands behind the bytes put
      refine readBytes_congr fun i _ hi => Function.update_of_ne ?_ _ _
      rw [Nat.zero_add] at hi
      exact Nat.ne_of_lt hi

/-- A turn of the thread. -/
theorem Kept.read (h : s.Kept xs) : s.gsmBufferReadProcess.Kept xs := by
  rw [gsmBufferReadProcess, MessageQueue.rtMqRecv]
  cases s.mqGsm.messages.head? with
  | none => exact h
  | some m => exact ⟨h.former, h.line, h.msgSize, h.maxMsgs⟩

theorem kept_run (es : List GsmEvent) : (run es).Kept (stream es) := by
  induction es using List.reverseRecOn with
  | nil => exact kept_startup
  | append_singleton es e ih =>
      rw [run_concat]
      cases e with
      | rx data =>
          rw [stream_rx]
          exact ih.rx data
      | read =>
          rw [stream_read]
          exact ih.read

/-! ## Framing -/

/-- A line of the stream, with the byte that ends it and what came before. -/
structure LineAt (es front : List GsmEvent) (data : UInt8)
    (line : List UInt8) : Prop where
  turn : front ++ [.rx data] <+: es
  line : LastLine 0x0d 0x0a (stream front ++ [data]) line

/-- The byte makes the handler queue a message. -/
def Queues (front : List GsmEvent) (data : UInt8) (m : List UInt8) : Prop :=
  (run (front ++ [.rx data])).mqGsm.messages =
    (run front).mqGsm.messages ++ [m]

/-- There is room in the queue when a byte comes. -/
def HasRoom (s : GsmRx) : GsmEvent → Prop
  | .rx _ => s.mqGsm.messages.length < s.mqGsm.maxMsgs
  | .read => True

instance (s : GsmRx) : (e : GsmEvent) → Decidable (s.HasRoom e)
  | .rx _ => inferInstanceAs (Decidable (_ < _))
  | .read => isTrue trivial

/-- A message is queued at the end of a line only and holds that line, and every
line of less than 1400 bytes is queued. -/
structure Framed (es : List GsmEvent) : Prop where
  whole : ∀ front data m, front ++ [.rx data] <+: es → Queues front data m →
    ∃ line, LineAt es front data line ∧ m = message line
  short : ∀ front data line, LineAt es front data line → line.length < 1400 →
    Queues front data (message line)

/-- Lines of this length are queued whole or, if they are long, not at all. -/
def Spared (n : ℕ) : Prop :=
  n ≠ 1399 ∧ (n ≤ 1500 ∨ 1398 ≤ (n - 1) % 1500)

instance (n : ℕ) : Decidable (Spared n) := inferInstanceAs (Decidable (_ ∧ _))

section Turn

variable {es front : List GsmEvent} {data : UInt8} {line m : List UInt8}

theorem not_queues_of_not_lineEnd
    (hend : ¬ LineEnd (pending (stream front) ++ [data])) :
    ¬ Queues front data m := by
  rw [Queues, run_concat, step, (kept_run front).mqGsm_of_not_lineEnd hend]
  intro h
  exact absurd (congrArg List.length h) (by simp)

/-- What a byte that ends a line makes the handler queue. -/
theorem queues_iff (hroom : (run front).HasRoom (.rx data))
    (hend : LineEnd (pending (stream front) ++ [data])) :
    Queues front data m ↔
      (pending (stream front)).length % gsmTypebufSize < 1398 ∧
        m = message
          (afterWraps gsmTypebufSize (pending (stream front)) ++ [data]) := by
  have hmax : (run front).mqGsm.messages.length < 6 := by
    rw [← (kept_run front).maxMsgs]
    exact hroom
  rw [Queues, run_concat, step, (kept_run front).messages_of_lineEnd hend,
    ← length_afterWraps]
  by_cases hshort :
      (afterWraps gsmTypebufSize (pending (stream front))).length < 1398
  · rw [if_pos ⟨hshort, hmax⟩, and_iff_right hshort, List.append_cancel_left_eq,
      List.singleton_inj]
    exact eq_comm
  · rw [if_neg fun hboth => hshort hboth.1]
    refine iff_of_false (fun h => ?_) fun h => hshort h.1
    exact absurd (congrArg List.length h) (by simp)

theorem lineAt_iff (hturn : front ++ [.rx data] <+: es) :
    LineAt es front data line ↔
      LineEnd (pending (stream front) ++ [data]) ∧
        line = pending (stream front) ++ [data] := by
  constructor
  · intro h
    exact (lastLine_concat_iff cr_ne_lf).mp h.line
  · intro h
    exact ⟨hturn, (lastLine_concat_iff cr_ne_lf).mpr h⟩

end Turn

/-- The messages are the lines, and no short line is lost, exactly if every line
of the stream has a length that is spared. -/
theorem framed_iff (es : List GsmEvent)
    (hroom : Throughout step HasRoom startup es) :
    Framed es ↔
      ∀ front data line, LineAt es front data line → Spared line.length := by
  constructor
  · intro h front data line hline
    obtain ⟨hend, rfl⟩ := (lineAt_iff hline.turn).mp hline
    have hqueues (m) := queues_iff (m := m) (hroom front _ hline.turn) hend
    have hlen : (pending (stream front) ++ [data]).length =
        (pending (stream front)).length + 1 := by simp
    constructor
    · intro hsize
      have hsent := ((hqueues _).mp (h.short front data _ hline (by omega))).1
      rw [hlen] at hsize
      rw [gsmTypebufSize] at hsent
      omega
    · by_contra hnot
      rw [hlen] at hnot
      obtain ⟨line, hline', heq⟩ := h.whole front data _ hline.turn
        ((hqueues _).mpr ⟨by rw [gsmTypebufSize]; omega, rfl⟩)
      obtain ⟨-, rfl⟩ := (lineAt_iff hline.turn).mp hline'
      have hsize := congrArg List.length heq
      rw [length_message, length_message, hlen, List.length_append,
        List.length_singleton, length_afterWraps, gsmTypebufSize] at hsize
      omega
  · intro h
    constructor
    · intro front data m hturn hm
      by_cases hend : LineEnd (pending (stream front) ++ [data])
      · have hline := (lineAt_iff hturn).mpr ⟨hend, rfl⟩
        obtain ⟨hshort, rfl⟩ := (queues_iff (hroom front _ hturn) hend).mp hm
        have hspared := h front data _ hline
        rw [Spared, List.length_append, List.length_singleton] at hspared
        rw [gsmTypebufSize] at hshort
        refine ⟨_, hline, ?_⟩
        rw [afterWraps_of_lt (by rw [gsmTypebufSize]; omega)]
      · exact absurd hm (not_queues_of_not_lineEnd hend)
    · intro front data line hline hlt
      obtain ⟨hend, rfl⟩ := (lineAt_iff hline.turn).mp hline
      have hspared := h front data _ hline
      rw [Spared] at hspared
      rw [List.length_append, List.length_singleton] at hlt hspared
      refine (queues_iff (hroom front _ hline.turn) hend).mpr ⟨?_, ?_⟩
      · rw [gsmTypebufSize]
        omega
      · rw [afterWraps_of_lt (by rw [gsmTypebufSize]; omega)]

/-- A line is not longer than the run. -/
theorem LineAt.length_le {es front : List GsmEvent} {data : UInt8}
    {line : List UInt8} (h : LineAt es front data line) :
    line.length ≤ es.length := by
  obtain ⟨before, hsplit, -⟩ := h.line.start
  have hturn := h.turn.length_le
  have hstream := List.length_filterMap_le (fun
    | GsmEvent.rx data => some data
    | GsmEvent.read => none) front
  have hline := congrArg List.length hsplit
  simp only [List.length_append, List.length_singleton] at hturn hline
  rw [stream] at hline
  omega

/-- Bytes that the handler gets one behind the other. -/
def arriving (xs : List UInt8) : List GsmEvent := xs.map .rx

theorem stream_arriving (xs : List UInt8) : stream (arriving xs) = xs := by
  rw [stream, arriving, List.filterMap_map]
  exact List.filterMap_some

theorem arriving_concat (xs : List UInt8) (x : UInt8) :
    arriving (xs ++ [x]) = arriving xs ++ [.rx x] := List.map_append

/-- The lines `+CSQ` and `OK` with a turn of the reader in between. -/
def twoLines : List GsmEvent :=
  arriving [0x2b, 0x43, 0x53, 0x51, 0x0d, 0x0a] ++ .read ::
    arriving [0x4f, 0x4b, 0x0d, 0x0a]

theorem framed_ok : Framed twoLines := by
  have hroom : Throughout step HasRoom startup twoLines :=
    (throughout_iff_meeting (fun _ _ => Iff.rfl) _ _).mpr (by decide)
  refine (framed_iff _ hroom).mpr fun front data line hline => ?_
  have hle : line.length ≤ 11 := hline.length_le
  exact ⟨by omega, .inl (by omega)⟩

theorem messages_of_lf_notMem {es : List GsmEvent} (h : 0x0a ∉ stream es) :
    (run es).mqGsm.messages = [] := by
  induction es using List.reverseRecOn with
  | nil => rfl
  | append_singleton es e ih =>
      rw [run_concat]
      cases e with
      | rx data =>
          rw [stream_rx, List.mem_append, List.mem_singleton] at h
          have hend : ¬ LineEnd (pending (stream es) ++ [data]) := fun hend =>
            h (.inr (ended_concat_iff.mp hend).1.symm)
          rw [step, (kept_run es).mqGsm_of_not_lineEnd hend]
          exact ih fun hmem => h (.inl hmem)
      | read =>
          rw [stream_read] at h
          rw [step, gsmBufferReadProcess, MessageQueue.rtMqRecv, ih h]
          exact ih h

/-- Up to the first LF there is room. -/
theorem hasRoom_of_lf_notMem {es : List GsmEvent} (h : 0x0a ∉ stream es)
    (e : GsmEvent) : Throughout step HasRoom startup (es ++ [e]) := by
  intro front e' hpre
  cases e' with
  | read => trivial
  | rx data =>
      have hfront : front <+: es := by
        rcases List.prefix_concat_iff.mp hpre with heq | hpre
        · rw [(List.append_inj' heq rfl).1]
        · exact (List.prefix_append _ _).trans hpre
      have hnone : 0x0a ∉ stream front := fun hmem =>
        h ((hfront.filterMap _).subset hmem)
      change (run front).mqGsm.messages.length < (run front).mqGsm.maxMsgs
      rw [messages_of_lf_notMem hnone, (kept_run front).maxMsgs]
      decide

/-- The bytes of a line of 1399 in front of its LF. -/
def almost1399 : List UInt8 := List.replicate 1397 0x61 ++ [0x0d]

/-- A line of 1399 bytes does not fit a message with the index in front of it. -/
theorem line1399_not_framed :
    Throughout step HasRoom startup (arriving (almost1399 ++ [0x0a])) ∧
      ¬ Framed (arriving (almost1399 ++ [0x0a])) := by
  have hlf : 0x0a ∉ almost1399 := by
    rw [almost1399, List.mem_append, List.mem_replicate, List.mem_singleton]
    decide
  have hlf' : 0x0a ∉ stream (arriving almost1399) := by
    rwa [stream_arriving]
  have hlen : almost1399.length = 1398 := by
    rw [almost1399, List.length_append, List.length_replicate]
    rfl
  have hroom := hasRoom_of_lf_notMem hlf' (.rx 0x0a)
  rw [arriving_concat]
  refine ⟨hroom, fun h => ?_⟩
  have hpending : pending (stream (arriving almost1399)) = almost1399 := by
    rw [stream_arriving]
    exact unfinished_of_notMem cr_ne_lf hlf
  have hend : LineEnd (pending (stream (arriving almost1399)) ++ [0x0a]) := by
    rw [hpending]
    exact ended_concat_iff.mpr ⟨rfl, List.getLast?_concat⟩
  have hline := (lineAt_iff List.prefix_rfl).mpr ⟨hend, rfl⟩
  have hsent := h.short _ _ _ hline (by
    rw [hpending, List.length_append, hlen]
    decide)
  have hshort := ((queues_iff (hroom _ _ List.prefix_rfl) hend).mp hsent).1
  rw [hpending, hlen] at hshort
  exact absurd hshort (by decide)

end GsmRx

end VehicleRecorder.Gsm
