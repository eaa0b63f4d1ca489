import TileRealm.Router

/-!
# The queues of the router

Registrations, departures and batches reach the router on three queues.  Each is served in its own
order, but which queue is served next is not settled.  The router stops once all three are closed
and nothing waits in them.

* `Switchboard.serve?`: the first message of one of the queues is dealt with.
* `Switchboard.settle`: all that waits is dealt with.
* `Switchboard.isRunning`: whether anything can still come.
-/

set_option autoImplicit false

namespace TileRealm

/-- A router with the messages that wait for it. -/
structure Switchboard where
  router : Router
  registrations : Channel (Handle × LineId)
  departures : Channel Handle
  batches : Channel (List Delivery)
deriving DecidableEq

/-- One of the three queues. -/
inductive Switchboard.Queue where
  | registrations
  | departures
  | batches
deriving DecidableEq

namespace Switchboard

/-- A router for which nothing waits. -/
def idle (scale : Scale) : Switchboard :=
  ⟨.idle scale, .fresh, .fresh, .fresh⟩

/-! ## Serving -/

/-- Deals with the first message of a queue, if one waits there. -/
def serve? (s : Switchboard) : Queue → Option Switchboard
  | .registrations =>
    s.registrations.receive.1.map fun (h, line) =>
      { s with router := s.router.register h line, registrations := s.registrations.receive.2 }
  | .departures =>
    s.departures.receive.1.map fun h =>
      { s with router := s.router.unregister h, departures := s.departures.receive.2 }
  | .batches =>
    s.batches.receive.1.map fun batch =>
      { s with router := s.router.deliverAll batch, batches := s.batches.receive.2 }

/-- Deals with the first message of the first queue in which one waits. -/
def turn? (s : Switchboard) : Option Switchboard :=
  ((s.serve? .registrations).or (s.serve? .departures)).or (s.serve? .batches)

/-- How many messages wait. -/
def waiting (s : Switchboard) : Nat :=
  s.registrations.waiting.size + s.departures.waiting.size + s.batches.waiting.size

/-- Whether a message waits or can still come. -/
def isRunning (s : Switchboard) : Bool :=
  !(s.registrations.closed && s.departures.closed && s.batches.closed && s.waiting == 0)

/-- Takes so many turns. -/
def turns : Nat → Switchboard → Switchboard
  | 0, s => s
  | n + 1, s =>
    match s.turn? with
    | some s => turns n s
    | none => s

/-- Deals with all that waits; a router that stops forgets its lines. -/
def settle (s : Switchboard) : Switchboard :=
  let s := turns s.waiting s
  if s.isRunning then s else { s with router := s.router.shut }

/-! ## Messages -/

/-- A registration is sent, unless the queue is closed. -/
def register? (s : Switchboard) (h : Handle) (line : LineId) : Option Switchboard :=
  (s.registrations.send? (h, line)).map fun c => { s with registrations := c }

/-- A departure is sent, unless the queue is closed. -/
def unregister? (s : Switchboard) (h : Handle) : Option Switchboard :=
  (s.departures.send? h).map fun c => { s with departures := c }

/-- A batch is sent, unless the queue is closed. -/
def post? (s : Switchboard) (batch : List Delivery) : Option Switchboard :=
  (s.batches.send? batch).map fun c => { s with batches := c }

/-- All queues are closed. -/
def finish (s : Switchboard) : Switchboard :=
  { s with
    registrations := s.registrations.close
    departures := s.departures.close
    batches := s.batches.close }

end Switchboard

end TileRealm
