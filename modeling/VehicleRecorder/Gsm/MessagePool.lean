import VehicleRecorder.Lib.NodePool
import VehicleRecorder.Lib.QueueHistory
import VehicleRecorder.Gsm.LineFraming

/-!
# The message queue of the kernel

`rt_mq_send`, `rt_mq_urgent` and `rt_mq_recv` of `ipc.c` lock the interrupts only
while they take a node from a list or put it on one.  The bytes of a message are
copied with the interrupts enabled, so that other calls go on in between, and even
begin and end there.

The calls of any number of parties, threads and interrupts alike, are taken apart
into these steps and interleaved in any order.  A receiver that waits for a message
is one whose step is not taken yet; waiting, timeouts and the wake-up of threads
are left out.
-/

namespace VehicleRecorder.Gsm

open Bytes NodePool QueueHistory

/-! ## The queue -/

/-- `struct rt_messagequeue`.  A node of the pool is known by its number; in front
of its bytes stands the pointer to the next one. -/
structure RtMessagequeue where
  msgSize : ℕ
  maxMsgs : ℕ
  entry : ℕ := 0
  msgQueueHead : Option ℕ := none
  msgQueueTail : Option ℕ := none
  msgQueueFree : Option ℕ := none
  next : ℕ → Option ℕ := fun _ => none
  body : ℕ → ℕ → UInt8

namespace RtMessagequeue

/-- A node put on the list of free nodes. -/
def putFree (mq : RtMessagequeue) (msg : ℕ) : RtMessagequeue :=
  { mq with
    next := Function.update mq.next msg mq.msgQueueFree
    msgQueueFree := some msg }

/-- `rt_mq_init`; the bytes of the pool are what they are. -/
def rtMqInit (msgSize poolSize : UInt32) (body : ℕ → ℕ → UInt8) :
    RtMessagequeue :=
  let size := (rtAlign msgSize rtAlignSize).toNat % 65536
  let maxMsgs := poolSize.toNat / (size + 4) % 65536
  (List.range maxMsgs).foldl putFree { msgSize := size, maxMsgs, body }

/-- The first part of a send: a node from the list of free nodes, if there is
one. -/
def takeFree (mq : RtMessagequeue) : Option (ℕ × RtMessagequeue) :=
  mq.msgQueueFree.map fun msg => (msg, { mq with msgQueueFree := mq.next msg })

/-- The last part of `rt_mq_send`. -/
def linkTail (mq : RtMessagequeue) (msg : ℕ) : RtMessagequeue :=
  { mq with
    next :=
      match mq.msgQueueTail with
      | some tail => Function.update mq.next tail (some msg)
      | none => mq.next
    msgQueueTail := some msg
    msgQueueHead :=
      match mq.msgQueueHead with
      | some head => some head
      | none => some msg
    entry := (mq.entry + 1) % 65536 }

/-- The last part of `rt_mq_urgent`. -/
def linkHead (mq : RtMessagequeue) (msg : ℕ) : RtMessagequeue :=
  { mq with
    next := Function.update mq.next msg mq.msgQueueHead
    msgQueueHead := some msg
    msgQueueTail :=
      match mq.msgQueueTail with
      | some tail => some tail
      | none => some msg
    entry := (mq.entry + 1) % 65536 }

/-- The first part of `rt_mq_recv`, which is reached when `entry` is not 0. -/
def takeHead (mq : RtMessagequeue) : Option (ℕ × RtMessagequeue) :=
  if mq.entry = 0 then none
  else
    mq.msgQueueHead.map fun msg =>
      (msg, { mq with
        msgQueueHead := mq.next msg
        msgQueueTail := if mq.msgQueueTail = some msg then none else mq.msgQueueTail
        entry := mq.entry - 1 })

end RtMessagequeue

/-! ## Calls that interleave -/

/-- How far a party has got with a call. -/
inductive Call
  | idle
  /-- A send that has its node, in front of `msg->next=RT_NULL`. -/
  | sending (msg : ℕ) (buffer : List UInt8)
  /-- A send that has copied some bytes. -/
  | copying (urgent : Bool) (msg : ℕ) (buffer : List UInt8) (copied : ℕ)
  /-- A receiver that has its node and has read some bytes. -/
  | reading (msg : ℕ) (size : ℕ) (got : List UInt8)
  deriving DecidableEq, Repr

/-- The node a call works on. -/
def Call.msg : Call → Option ℕ
  | .idle => none
  | .sending msg _ => some msg
  | .copying _ msg _ _ => some msg
  | .reading msg _ _ => some msg

/-- A step of a party. -/
inductive CallStep (τ : Type*)
  /-- `rt_mq_send` is called. -/
  | send (t : τ) (buffer : List UInt8)
  /-- `rt_mq_urgent` is called. -/
  | urgent (t : τ) (buffer : List UInt8)
  /-- `rt_mq_recv` is called, or gets on when there is a message. -/
  | recv (t : τ) (size : ℕ)
  /-- A call goes on. -/
  | advance (t : τ)
  deriving DecidableEq, Repr

/-- A queue and the calls under way, with the history of the queue and the sends
that found no free node; no function reads the last two. -/
structure MessagePool (τ : Type*) where
  mq : RtMessagequeue
  calls : τ → Call := fun _ => .idle
  history : List (Entry τ (List UInt8)) := []
  full : List τ := []

namespace MessagePool

variable {τ : Type*} [DecidableEq τ]

/-- A party gets on with its call. -/
def call (s : MessagePool τ) (t : τ) (c : Call) : MessagePool τ :=
  { s with calls := Function.update s.calls t c }

/-- A byte copied into a node. -/
def write (s : MessagePool τ) (msg i : ℕ) (v : UInt8) : MessagePool τ :=
  { s with
    mq.body := Function.update s.mq.body msg
      (Function.update (s.mq.body msg) i v) }

/-- The first part of `rt_mq_send` and of `rt_mq_urgent`. -/
def beginSend (s : MessagePool τ) (t : τ) (urgent : Bool)
    (buffer : List UInt8) : MessagePool τ :=
  if buffer = [] ∨ s.mq.msgSize < buffer.length then s
  else
    match s.mq.takeFree with
    | none => { s with full := s.full ++ [t] }
    | some (msg, mq) =>
        { s with mq := mq }.call t
          (if urgent then .copying true msg buffer 0 else .sending msg buffer)

/-- The first part of `rt_mq_recv`. -/
def beginRecv (s : MessagePool τ) (t : τ) (size : ℕ) : MessagePool τ :=
  if size = 0 then s
  else
    match s.mq.takeHead with
    | none => s
    | some (msg, mq) =>
        { s with mq := mq, history := s.history ++ [Entry.take t] }.call t
          (.reading msg (min size s.mq.msgSize) [])

/-- What a call does next. -/
def advance (s : MessagePool τ) (t : τ) : MessagePool τ :=
  match s.calls t with
  | .idle => s
  | .sending msg buffer =>
      { s with mq.next := Function.update s.mq.next msg none }.call t
        (.copying false msg buffer 0)
  | .copying urgent msg buffer copied =>
      if copied < buffer.length then
        (s.write msg copied (buffer.getD copied 0)).call t
          (.copying urgent msg buffer (copied + 1))
      else if urgent then
        { s with
          mq := s.mq.linkHead msg
          history := s.history ++ [Entry.putFront buffer] }.call t .idle
      else
        { s with
          mq := s.mq.linkTail msg
          history := s.history ++ [Entry.put buffer] }.call t .idle
  | .reading msg size got =>
      if got.length < size then
        s.call t (.reading msg size (got ++ [s.mq.body msg got.length]))
      else
        { s with
          mq := s.mq.putFree msg
          history := s.history ++ [Entry.give t got] }.call t .idle

/-- A step.  A party that is in a call begins no other one. -/
def step (s : MessagePool τ) : CallStep τ → MessagePool τ
  | .send t buffer => if s.calls t = .idle then s.beginSend t false buffer else s
  | .urgent t buffer => if s.calls t = .idle then s.beginSend t true buffer else s
  | .recv t size => if s.calls t = .idle then s.beginRecv t size else s
  | .advance t => s.advance t

/-- A run. -/
def run (s : MessagePool τ) (es : List (CallStep τ)) : MessagePool τ :=
  es.foldl step s

end MessagePool

end VehicleRecorder.Gsm
