/-!
# Channels

A queue between one who sends and one who receives.  Once it is closed it takes nothing more, but
what waits in it can still be received.

* `Channel.send?`: puts a value in, unless the channel is closed.
* `Channel.receive`, `Channel.drain`: takes the first value, or all of them.
* `Channel.close`, `Channel.abandon`: ends the channel, with or without what waits in it.
-/

set_option autoImplicit false

namespace TileRealm

/-- A queue of values. -/
structure Channel (α : Type) where
  /-- What was sent and not received yet, in the order in which it was sent. -/
  waiting : Array α
  closed : Bool
deriving DecidableEq

namespace Channel

variable {α : Type}

/-- An open channel with nothing in it. -/
def fresh : Channel α := ⟨#[], false⟩

/-- A channel whose receiver is gone. -/
def gone : Channel α := ⟨#[], true⟩

/-- What waits in the channel. -/
def toList (c : Channel α) : List α :=
  c.waiting.toList

/-- Puts a value behind those that wait. -/
def send? (c : Channel α) (a : α) : Option (Channel α) :=
  if c.closed then none else some { c with waiting := c.waiting.push a }

/-- Puts a value in, or drops it if the channel is closed. -/
def send (c : Channel α) (a : α) : Channel α :=
  (c.send? a).getD c

/-- Takes out the first value that waits. -/
def receive (c : Channel α) : Option α × Channel α :=
  (c.waiting[0]?, { c with waiting := c.waiting.extract 1 })

/-- Takes out all values that wait. -/
def drain (c : Channel α) : List α × Channel α :=
  (c.toList, { c with waiting := #[] })

/-- Takes nothing more; what waits can still be received. -/
def close (c : Channel α) : Channel α :=
  { c with closed := true }

/-- Takes nothing more and drops what waits. -/
def abandon (_ : Channel α) : Channel α :=
  gone

/-- An open channel takes every value, and stays open. -/
theorem exists_send? {c : Channel α} (h : c.closed = false) (a : α) :
    ∃ d, c.send? a = some d ∧ d.closed = false ∧ d.toList = c.toList ++ [a] := by
  refine ⟨⟨c.waiting.push a, false⟩, ?_, rfl, by simp [toList]⟩
  simp [send?, h]

theorem send?_eq_none_iff {c : Channel α} {a : α} : c.send? a = none ↔ c.closed = true := by
  unfold send?
  split <;> simp_all

theorem toList_receive (c : Channel α) : c.receive.2.toList = c.toList.tail := by
  simp [receive, toList, List.take_of_length_le]

theorem head?_receive (c : Channel α) : c.receive.1 = c.toList.head? := by
  simp [receive, toList, List.head?_eq_getElem?]

end Channel

end TileRealm
