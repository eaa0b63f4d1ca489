import TileRealm.Entity

/-!
# Events

What clients are told about a scene, and to whom it goes.

* `Event`: an entity moves, stops, comes into view or goes out of it.
* `Delivery`, `Recipient`: an event on its way to everybody in a scene or to one entity.
* `Outbox`: the deliveries of a scene in the order in which they were made.
-/

set_option autoImplicit false

namespace TileRealm

/-- Something that a client is told. -/
inductive Event where
  | move (entity : Handle) (pos : Tile) (speed seq : UInt32)
  | stop (entity : Handle) (pos : Tile) (seq : UInt32)
  | appear (portrait : Portrait)
  | disappear (entity : Handle)
deriving DecidableEq

/-- To whom an event goes. -/
inductive Recipient where
  /-- Everybody in the scene. -/
  | scene
  | entity (h : Handle)
deriving DecidableEq

/-- An event on its way. -/
structure Delivery where
  scene : UInt32
  recipient : Recipient
  event : Event
deriving DecidableEq

/-- The deliveries that a scene has to make, the oldest first. -/
structure Outbox where
  scene : UInt32
  queue : Array Delivery
deriving DecidableEq

namespace Outbox

/-- An outbox with nothing in it. -/
def empty (scene : UInt32) : Outbox :=
  ⟨scene, #[]⟩

/-- The number of deliveries. -/
def size (o : Outbox) : Nat :=
  o.queue.size

/-- The deliveries, the oldest first. -/
def toList (o : Outbox) : List Delivery :=
  o.queue.toList

/-- One more delivery. -/
def push (o : Outbox) (recipient : Recipient) (event : Event) : Outbox :=
  { o with queue := o.queue.push ⟨o.scene, recipient, event⟩ }

/-- Tells everybody in the scene. -/
def broadcast (o : Outbox) (event : Event) : Outbox :=
  o.push .scene event

/-- Tells one entity. -/
def tell (o : Outbox) (h : Handle) (event : Event) : Outbox :=
  o.push (.entity h) event

/-- Takes out all deliveries. -/
def drain (o : Outbox) : List Delivery × Outbox :=
  (o.toList, { o with queue := #[] })

theorem toList_push (o : Outbox) (recipient : Recipient) (event : Event) :
    (o.push recipient event).toList = o.toList ++ [⟨o.scene, recipient, event⟩] := by
  simp [push, toList]

end Outbox

end TileRealm
