import TileRealm.Shutdown
import TileRealm.Ticker

/-!
# Services

A service is a ticker with the thread that lets it tick, step by step, since a shutdown may be asked
for between any two steps of the thread.

* `Service.advance`: the next step of the thread.
* `Service.perform`: a step of the thread, or a reason that somebody else gives.
-/

set_option autoImplicit false

namespace TileRealm

/-- What the ticking thread is about to do. -/
inductive Service.Stage where
  /-- It sees whether the last tick is made. -/
  | counting
  /-- It asks whether a shutdown is under way. -/
  | asking
  | ticking
  /-- The ticks are over, and it gives the tick limit as the reason. -/
  | leaving
  | gone
deriving DecidableEq

/-- A ticker with its thread, and the shutdown that ends them. -/
structure Service where
  ticker : Ticker
  shutdown : Shutdown
  stage : Service.Stage

namespace Service

open Ticker (Beat)

/-- What can happen next. -/
inductive Move where
  /-- Somebody who holds a sender gives a reason. -/
  | trigger (reason : StopReason)
  /-- The thread goes on; if it ticks, it does so at the time of the beat, and the commands came in
  before. -/
  | advance (b : Beat)

/-- A service before the first step of its thread. -/
def start (t : Ticker) : Service :=
  ⟨t, .fresh, .counting⟩

/-- The next step of the thread. -/
def advance (s : Service) (b : Beat) : Service :=
  match s.stage with
  | .counting =>
    { s with stage := if s.ticker.rules.reached s.ticker.current then .leaving else .asking }
  | .asking => { s with stage := if s.shutdown.isDown then .leaving else .ticking }
  | .ticking => { s with ticker := s.ticker.beat b, stage := .counting }
  | .leaving => { s with shutdown := (s.shutdown.trigger .tickLimit).2, stage := .gone }
  | .gone => s

/-- The service after a move. -/
def perform (s : Service) : Move → Service
  | .trigger reason => { s with shutdown := (s.shutdown.trigger reason).2 }
  | .advance b => s.advance b

/-- Whether the ticks are over. -/
def isOver (s : Service) : Bool :=
  s.stage = .leaving || s.stage = .gone

end Service

end TileRealm
