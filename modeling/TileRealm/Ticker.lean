import TileRealm.Decimal.Fixed
import TileRealm.Mover

/-!
# Ticking scenes

A ticker owns a scene.  At each tick it carries out the commands that came in, lets every mover act,
tells the players what came into view or went out of it, and hands on all deliveries as one batch.

* `Ticker.obey`: what a command does.
* `Ticker.step`: one tick; `Ticker.beat`: one tick with the commands that come in before.
* `Ticker.run`: ticks up to the limit or until it is told to stop.
-/

set_option autoImplicit false

namespace TileRealm

/-- Something that a ticker is asked to do. -/
inductive Command where
  | join (e : Entity)
  | leave (h : Handle)
  | report (h : Handle) (report : Report)
  /-- Hands over a mover, which stays until its entity leaves. -/
  | attach (m : Mover)

/-- The name of a command. -/
def Command.label : Command → String
  | join _ => "join"
  | leave _ => "leave"
  | report _ (.start ..) => "start_move"
  | report _ (.update ..) => "update_move"
  | report _ (.finish ..) => "end_move"
  | attach _ => "attach_mover"

/-- How often a ticker ticks, and for how long. -/
structure TickRules where
  /-- Ticks per second. -/
  rate : UInt32 := 30
  /-- The number of the last tick, 0 for none. -/
  maxTicks : UInt64 := 0
deriving DecidableEq

namespace TickRules

/-- The time between two ticks in nanoseconds: a second divided in machine numbers, and the quotient
rounded to the nearest nanosecond, ties to even. -/
def interval (rules : TickRules) : Nat :=
  match Decimal.Exact.ofFloat (1 / (max rules.rate 1).toFloat) with
  | .finite _ mantissa exponent => Decimal.Exact.scaled mantissa exponent 9
  | _ => 0

/-- Whether the last tick has been made. -/
def reached (rules : TickRules) (tick : UInt64) : Bool :=
  decide (0 < rules.maxTicks ∧ rules.maxTicks ≤ tick)

end TickRules

/-- What happened in a tick. -/
structure TickReport where
  /-- The number of the tick. -/
  tick : UInt64
  commands : Nat
  /-- The number of entities after the tick. -/
  entities : Nat
  refused : UInt64
  appeared : Nat
  disappeared : Nat
  deliveries : Nat
deriving DecidableEq

/-- The time in microseconds that a tick may take. -/
def tickBudget : Nat := 33000

/-- Whether a tick took longer than it may. -/
def overBudget (duration : Nat) : Bool :=
  decide (tickBudget < duration)

/-- A scene with its movers, the commands that wait, and the way out for deliveries. -/
structure Ticker where
  scene : Scene
  movers : Roster Mover
  mailbox : Channel Command
  /-- Where batches go, if anywhere. -/
  outbound : Option (Channel (List Delivery))
  rules : TickRules
  /-- The number of ticks made, which starts again at 0 behind the largest machine number. -/
  current : UInt64

namespace Ticker

/-- A ticker before its first tick. -/
def create (rules : TickRules) (scene : Scene) (outbound : Option (Channel (List Delivery))) :
    Ticker :=
  ⟨scene, ∅, .fresh, outbound, rules, 0⟩

/-! ## One tick -/

/-- Carries out a command.  Nobody asks whether it could be carried out. -/
def obey (now : Nat) (t : Ticker) : Command → Ticker
  | .join e => { t with scene := (t.scene.add e).2 }
  | .leave h => { t with movers := t.movers.erase h, scene := (t.scene.remove h).2 }
  | .report h report => { t with scene := (t.scene.report now h report).2 }
  | .attach m =>
    if t.scene.contains m.handle then { t with movers := t.movers.insert m.handle m } else t

/-- Lets a mover act. -/
def drive (now : Nat) (t : Ticker) (m : Mover) : Ticker :=
  let (_, m, scene) := m.tick t.scene now
  { t with scene := scene, movers := t.movers.insert m.handle m }

/-- Hands a batch on, unless it is empty. -/
def post (t : Ticker) (batch : List Delivery) : Ticker :=
  if batch.isEmpty then t
  else { t with outbound := t.outbound.map (·.send batch) }

/-- One tick. -/
def step (t : Ticker) (now : Nat) : TickReport × Ticker :=
  let (commands, mailbox) := t.mailbox.drain
  let t := commands.foldl (obey now) { t with mailbox := mailbox }
  let t := t.movers.values.foldl (drive now) t
  let (count, scene) := t.scene.flush
  let (batch, scene) := scene.drain
  let (refused, scene) := scene.takeRefused
  let t := { t with scene := scene, current := t.current + 1 }.post batch
  (⟨t.current, commands.length, t.scene.size, refused, count.appeared, count.disappeared,
    batch.length⟩, t)

/-! ## Beats -/

/-- The commands that come in before a tick, and the time of the tick. -/
structure Beat where
  commands : List Command
  now : Nat

/-- The ticker with the commands in its mailbox. -/
def mail (t : Ticker) (commands : List Command) : Ticker :=
  { t with mailbox := commands.foldl Channel.send t.mailbox }

/-- The ticker after a beat. -/
def beat (t : Ticker) (b : Beat) : Ticker :=
  ((t.mail b.commands).step b.now).2

/-! ## A run -/

/-- How a run of ticks went. -/
structure Run where
  /-- The number of ticks made. -/
  ticks : UInt64
  /-- How often it was asked whether to stop. -/
  asked : Nat
  final : Ticker

/-- Ticks, at most as often as `turns` says, until the last tick is made or the answer to the
question number `asked` is to stop.  The question is not put once the last tick is made.  Gives the
number of questions put. -/
def runFrom (clock : Nat → Nat) (stop : Nat → Bool) : Nat → Nat → Ticker → Nat × Ticker
  | 0, asked, t => (asked, t)
  | turns + 1, asked, t =>
    if t.rules.reached t.current then (asked, t)
    else if stop asked then (asked + 1, t)
    else runFrom clock stop turns (asked + 1) (t.step (clock asked)).2

/-- Ticks until the last tick is made or it is told to stop. -/
def run (t : Ticker) (clock : Nat → Nat) (stop : Nat → Bool) (turns : Nat) : Run :=
  let (asked, final) := runFrom clock stop turns 0 t
  ⟨final.current - t.current, asked, final⟩

end Ticker

end TileRealm
