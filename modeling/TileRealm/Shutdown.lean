/-!
# Shutting down

Any part of the server may ask for a shutdown and give the reason.  Only the first reason counts.

* `Shutdown.trigger`: asks for a shutdown.
* `Shutdown.wait`: what one who waits for it gets.
-/

set_option autoImplicit false

namespace TileRealm

/-- Why the server stops. -/
inductive StopReason where
  | signal
  | tickLimit
  | sceneFailure
deriving DecidableEq

/-- The written form of a reason. -/
def StopReason.text : StopReason → String
  | signal => "signal"
  | tickLimit => "tick limit reached"
  | sceneFailure => "scene failure"

/-- The reason, if there is one, and how many parts can still give one or listen for it. -/
structure Shutdown where
  reason : Option StopReason
  senders : Nat
  listeners : Nat
deriving DecidableEq

/-- What one who waits for a shutdown gets. -/
inductive Shutdown.Outcome where
  /-- It may still come. -/
  | pending
  | reached (reason : StopReason)
  /-- It cannot come any more. -/
  | never
deriving DecidableEq

namespace Shutdown

/-- One sender and one listener, and no reason. -/
def fresh : Shutdown :=
  ⟨none, 1, 1⟩

/-- Whether the server stops. -/
def isDown (s : Shutdown) : Bool :=
  s.reason.isSome

/-- Gives a reason and tells whether it is the first. -/
def trigger (s : Shutdown) (reason : StopReason) : Bool × Shutdown :=
  match s.reason with
  | some _ => (false, s)
  | none => (true, { s with reason := some reason })

/-- What one who waits gets. -/
def wait (s : Shutdown) : Outcome :=
  match s.reason with
  | some reason => .reached reason
  | none => if s.senders = 0 then .never else .pending

theorem trigger_eq_true_iff (s : Shutdown) (reason : StopReason) :
    (s.trigger reason).1 = true ↔ s.reason = none := by
  unfold trigger
  split <;> simp_all

theorem reason_trigger (s : Shutdown) (reason : StopReason) :
    (s.trigger reason).2.reason = s.reason.or (some reason) := by
  unfold trigger
  split <;> simp_all

end Shutdown

end TileRealm
