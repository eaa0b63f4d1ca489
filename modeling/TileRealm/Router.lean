import TileRealm.Channel
import TileRealm.Wire

/-!
# Routing deliveries

Each client has a line on which it reads texts.  The router knows at most one line per entity and
writes the text of a delivery on the line of its recipient, or on all lines if it goes to the whole
scene.  A line found to be closed is forgotten.

* `Router.register`, `Router.unregister`: which line belongs to an entity.
* `Router.deliver`: what a delivery writes.
* `Router.connect`, `Router.hangUp`, `Router.read`: the clients' side.
-/

set_option autoImplicit false

namespace TileRealm

/-- The number of a line. -/
abbrev LineId : Type := Nat

/-- The lines to the clients, and whose they are. -/
structure Router where
  scale : Scale
  /-- The line of each registered entity. -/
  writers : Roster LineId
  /-- What was written on each line and not read yet; it is closed once the client is gone. -/
  lines : Std.ExtTreeMap LineId (Channel String)
deriving DecidableEq

namespace Router

/-- A router without clients. -/
def idle (scale : Scale) : Router :=
  ⟨scale, ∅, ∅⟩

/-! ## The clients' side -/

/-- A client opens a new line. -/
def connect (r : Router) : LineId × Router :=
  (r.lines.size, { r with lines := r.lines.insert r.lines.size .fresh })

/-- A client goes away. -/
def hangUp (r : Router) (line : LineId) : Router :=
  { r with lines := r.lines.modify line (·.abandon) }

/-- A client reads all that was written. -/
def read (r : Router) (line : LineId) : List String × Router :=
  (((r.lines[line]?).map (·.toList)).getD [],
    { r with lines := r.lines.modify line (·.drain.2) })

/-- Whether a client is still at its end of a line. -/
def isOpen (r : Router) (line : LineId) : Bool :=
  match r.lines[line]? with
  | some channel => !channel.closed
  | none => false

/-! ## The router's side -/

/-- Gives an entity a line, instead of the one it had. -/
def register (r : Router) (h : Handle) (line : LineId) : Router :=
  { r with writers := r.writers.insert h line }

/-- Forgets the line of an entity. -/
def unregister (r : Router) (h : Handle) : Router :=
  { r with writers := r.writers.erase h }

/-- Forgets all lines. -/
def shut (r : Router) : Router :=
  { r with writers := ∅ }

/-- Whether a line belongs to an entity. -/
def holds (r : Router) (line : LineId) : Bool :=
  r.writers.values.contains line

/-- Writes a text on a line. -/
def write (text : String) (r : Router) (line : LineId) : Router :=
  { r with lines := r.lines.modify line (·.send text) }

/-- Writes a text on all lines; those that are closed are forgotten. -/
def broadcast (r : Router) (text : String) : Router :=
  let writers := r.writers.filter fun _ line => r.isOpen line
  writers.values.foldl (write text) { r with writers := writers }

/-- Writes a text on the line of an entity, which is forgotten if it is closed. -/
def tell (r : Router) (h : Handle) (text : String) : Router :=
  match r.writers[h]? with
  | none => r
  | some line => if r.isOpen line then r.write text line else r.unregister h

/-- Writes the text of a delivery where it belongs. -/
def deliver (r : Router) (d : Delivery) : Router :=
  match d.recipient with
  | .scene => r.broadcast (Wire.text r.scale d.event)
  | .entity h => r.tell h (Wire.text r.scale d.event)

/-- Writes the texts of a batch, one delivery after the other. -/
def deliverAll (r : Router) (batch : List Delivery) : Router :=
  batch.foldl deliver r

end Router

end TileRealm
