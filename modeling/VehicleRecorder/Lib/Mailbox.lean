import Mathlib.Data.List.Infix
import Mathlib.Data.Nat.Notation

/-!
# Single-slot mailboxes

A writer posts to a slot and a reader takes from it; neither waits.  A post goes
over what the slot holds and a reader that is not interested discards it.
Nothing is lost exactly if posts and discards meet an empty slot.
-/

namespace VehicleRecorder

variable {α : Type*}

/-- The slot, with everything posted and everything taken. -/
structure Mailbox (α : Type*) where
  slot : Option α := none
  posted : List α := []
  taken : List α := []

namespace Mailbox

/-- What the writer and the reader do. -/
inductive Op (α : Type*)
  | post (a : α)
  | take
  | discard

def step (m : Mailbox α) : Op α → Mailbox α
  | .post a => { m with slot := some a, posted := m.posted ++ [a] }
  | .take => { m with slot := none, taken := m.taken ++ m.slot.toList }
  | .discard => { m with slot := none }

/-- What was posted was taken in that order, each once, or is still in the
slot. -/
def Lossless (m : Mailbox α) : Prop := m.posted = m.taken ++ m.slot.toList

/-- The operation needs no room, or the slot is empty. -/
def Safe (m : Mailbox α) : Op α → Prop
  | .post _ => m.slot = none
  | .take => True
  | .discard => m.slot = none

/-- One operation loses nothing exactly if it is safe. -/
theorem Lossless.step_iff {m : Mailbox α} (h : m.Lossless) (op : Op α) :
    (m.step op).Lossless ↔ m.Safe op := by
  rw [Lossless] at h
  cases op with
  | post a =>
      simp only [Lossless, step, Safe, h]
      cases m.slot with
      | none => simp
      | some b => simp
  | take => simp [Lossless, step, Safe, h]
  | discard =>
      simp only [Lossless, step, Safe, h]
      cases m.slot with
      | none => simp
      | some b => simp

end Mailbox

end VehicleRecorder
