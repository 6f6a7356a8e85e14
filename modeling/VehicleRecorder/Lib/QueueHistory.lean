import Mathlib.Data.List.Forall2
import Mathlib.Logic.Function.Basic

/-!
# Histories of a queue

What the users of a queue see of it is a history: messages are put into it, a
receiver takes the message in front, and later returns with what it has read of
it.  A history is legal if there is a queue whose messages are put and taken at
once that explains it.
-/

namespace VehicleRecorder.QueueHistory

variable {τ μ : Type*} [DecidableEq τ]

/-- What is seen of a queue, in the order in which it takes effect. -/
inductive Entry (τ μ : Type*)
  /-- A message is put behind the others. -/
  | put (m : μ)
  /-- A message is put in front of the others. -/
  | putFront (m : μ)
  /-- A receiver takes the message in front. -/
  | take (t : τ)
  /-- The receiver returns with what it has read. -/
  | give (t : τ) (m : μ)
  deriving DecidableEq, Repr

/-- The messages in a queue, and those that receivers have taken. -/
structure Queue (τ μ : Type*) where
  messages : List μ := []
  held : τ → Option μ := fun _ => none

/-- An entry explained by a queue.  What is read of a message agrees with it. -/
inductive Move (agrees : μ → μ → Prop) : Queue τ μ → Entry τ μ → Queue τ μ → Prop
  | put {q : Queue τ μ} {m : μ} :
      Move agrees q (.put m) { q with messages := q.messages ++ [m] }
  | putFront {q : Queue τ μ} {m : μ} :
      Move agrees q (.putFront m) { q with messages := m :: q.messages }
  | take {q : Queue τ μ} {m : μ} {ms : List μ} {t : τ}
      (hfront : q.messages = m :: ms) (hidle : q.held t = none) :
      Move agrees q (.take t)
        { messages := ms, held := Function.update q.held t (some m) }
  | give {q : Queue τ μ} {m got : μ} {t : τ} (hheld : q.held t = some m)
      (hgot : agrees m got) :
      Move agrees q (.give t got)
        { q with held := Function.update q.held t none }

/-- A history of a queue that was empty, and the queue behind it. -/
inductive Legal (agrees : μ → μ → Prop) : List (Entry τ μ) → Queue τ μ → Prop
  | nil : Legal agrees [] {}
  | concat {h : List (Entry τ μ)} {e : Entry τ μ} {q q' : Queue τ μ}
      (hlegal : Legal agrees h q) (hmove : Move agrees q e q') :
      Legal agrees (h ++ [e]) q'

/-- The message that an entry puts behind the others. -/
def Entry.putMessage : Entry τ μ → Option μ
  | .put m => some m
  | _ => none

/-- What a receiver returns with. -/
def Entry.given : Entry τ μ → Option μ
  | .give _ m => some m
  | _ => none

def puts (h : List (Entry τ μ)) : List μ := h.filterMap Entry.putMessage

def gives (h : List (Entry τ μ)) : List μ := h.filterMap Entry.given

/-- No message overtakes another, and only one party receives. -/
def Entry.InOrder (t : τ) : Entry τ μ → Prop
  | .putFront _ => False
  | .take u => u = t
  | _ => True

variable {agrees : μ → μ → Prop} {h : List (Entry τ μ)} {q : Queue τ μ}

omit [DecidableEq τ] in
theorem puts_concat (e : Entry τ μ) :
    puts (h ++ [e]) = puts h ++ e.putMessage.toList := by
  rw [puts, List.filterMap_append]
  cases e <;> rfl

omit [DecidableEq τ] in
theorem gives_concat (e : Entry τ μ) :
    gives (h ++ [e]) = gives h ++ e.given.toList := by
  rw [gives, List.filterMap_append]
  cases e <;> rfl

/-- With one receiver, the messages put are those it has returned with, the one
it has taken and those in the queue, in this order. -/
theorem Legal.fifo {t : τ} (hlegal : Legal agrees h q)
    (horder : ∀ e ∈ h, e.InOrder t) :
    (∀ u, u ≠ t → q.held u = none) ∧
      ∃ ms, puts h = ms ++ (q.held t).toList ++ q.messages ∧
        List.Forall₂ agrees ms (gives h) := by
  induction hlegal with
  | nil => exact ⟨fun _ _ => rfl, [], rfl, .nil⟩
  | @concat h e q q' hlegal hmove ih =>
      obtain ⟨hothers, ms, hputs, hgives⟩ :=
        ih fun e he => horder e (List.mem_append_left _ he)
      have hlast : e.InOrder t :=
        horder e (List.mem_append_right h (List.mem_singleton_self e))
      rw [puts_concat, gives_concat, hputs]
      cases hmove with
      | @put m =>
          refine ⟨hothers, ms, ?_, ?_⟩
          · exact List.append_assoc ..
          · exact (List.append_nil (gives h)).symm ▸ hgives
      | putFront => exact hlast.elim
      | @take m rest u hfront hidle =>
          obtain rfl : u = t := hlast
          refine ⟨fun v hv => (Function.update_of_ne hv ..).trans (hothers v hv),
            ms, ?_, ?_⟩
          · dsimp only
            rw [hidle, hfront, Function.update_self]
            simp only [Entry.putMessage, Option.toList_none, Option.toList_some,
              List.append_nil, List.append_assoc, List.singleton_append]
          · exact (List.append_nil (gives h)).symm ▸ hgives
      | @give m got u hheld hgot =>
          have hut : u = t := by
            by_contra hne
            exact nomatch (hothers u hne).symm.trans hheld
          subst hut
          refine ⟨fun v hv => (Function.update_of_ne hv ..).trans (hothers v hv),
            ms ++ [m], ?_, ?_⟩
          · dsimp only
            rw [hheld, Function.update_self]
            simp only [Entry.putMessage, Option.toList_none, Option.toList_some,
              List.append_nil]
          · exact List.rel_append hgives (.cons hgot .nil)

end VehicleRecorder.QueueHistory
