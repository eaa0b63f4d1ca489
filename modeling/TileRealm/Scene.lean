import TileRealm.Event
import TileRealm.PositionFeed
import TileRealm.Route.Planner
import TileRealm.Scene.Stage
import TileRealm.Terrain.Sampling

/-!
# Scenes

A scene is a stage with all that belongs to it: the referee of client movements, the outbox, random
numbers for places to stand, and the feed of resting places.

* `Scene.add`, `Scene.remove`, `Scene.move`: entities come, go and are moved.  Each of them tells
  whether it could be done, and leaves a scene behind in either case.
* `Scene.report`: a client's report, with what everybody or the client is told about it.
* `Scene.step`: a step that the server makes an entity take.
* `Scene.flush`: tells the players who came into view and who went out of it.
-/

set_option autoImplicit false

namespace TileRealm

/-- What a scene is made from, apart from its terrain. -/
structure SceneSetup where
  id : UInt32 := 1
  cellSize : UInt32 := defaultCellSize
  rules : MoveRules := {}
  limits : Limits := {}
  /-- How many tiles are drawn to find one to stand on. -/
  spawnAttempts : UInt32 := 100
  seed : UInt64 := 0

/-- How many deliveries tell of entities that came into view and went out of it. -/
structure FlushCount where
  appeared : Nat
  disappeared : Nat
deriving DecidableEq

/-- A stage with its referee, outbox, random numbers and feed. -/
structure Scene where
  stage : Stage
  referee : Referee
  outbox : Outbox
  random : Random.Stream
  limits : Limits
  spawnAttempts : UInt32
  feed : PositionFeed
  /-- How many reports were refused and not counted yet. -/
  refused : UInt64

namespace Scene

/-- A scene without entities. -/
def empty (setup : SceneSetup) (terrain : Terrain) (feed : PositionFeed) : Scene where
  stage := ⟨setup.id, terrain, .empty setup.cellSize, ∅⟩
  referee := .idle setup.rules
  outbox := .empty setup.id
  random := .seeded setup.seed
  limits := setup.limits
  spawnAttempts := setup.spawnAttempts
  feed := feed
  refused := 0

/-! ## Questions -/

/-- The number of the scene. -/
def id (s : Scene) : UInt32 :=
  s.stage.id

/-- The terrain of the scene. -/
def terrain (s : Scene) : Terrain :=
  s.stage.terrain

/-- Who sees whom. -/
def visibility (s : Scene) : Visibility :=
  s.stage.visibility

/-- An entity of the scene. -/
def entity? (s : Scene) (h : Handle) : Option Entity :=
  s.stage.entities[h]?

/-- Whether an entity is in the scene. -/
def contains (s : Scene) (h : Handle) : Bool :=
  s.stage.entities.contains h

/-- All entities, in the order of their handles. -/
def entities (s : Scene) : List Entity :=
  s.stage.entities.values

/-- The number of entities. -/
def size (s : Scene) : Nat :=
  s.stage.entities.size

/-- A route over the terrain. -/
def plan (s : Scene) (algorithm : Algorithm) (start goal : Tile) : Plan :=
  TileRealm.plan s.terrain.walkable s.limits algorithm start goal

/-! ## Coming, going and moving -/

/-- An entity enters at its place, with a new session. -/
def add (s : Scene) (e : Entity) : Except SceneError Unit × Scene :=
  match s.stage.enter e with
  | (.ok (), stage) =>
    (.ok (), { s with stage := stage, referee := s.referee.bind e.handle e.pos })
  | (.error reason, stage) => (.error reason, { s with stage := stage })

/-- An entity leaves, and its session ends. -/
def remove (s : Scene) (h : Handle) : Except SceneError Entity × Scene :=
  match s.stage.leave h with
  | (.ok e, stage) => (.ok e, { s with stage := stage, referee := s.referee.unbind h })
  | (.error reason, stage) => (.error reason, { s with stage := stage })

/-- An entity is moved without a word. -/
def move (s : Scene) (h : Handle) (pos : Tile) : Except SceneError Unit × Scene :=
  let (moved, stage) := s.stage.move h pos
  (moved.map fun _ => (), { s with stage := stage })

/-- An entity makes a step that everybody is told of. -/
def step (s : Scene) (h : Handle) (pos : Tile) (speed : UInt32) :
    Except SceneError Unit × Scene :=
  match s.move h pos with
  | (.ok (), s) => (.ok (), { s with outbox := s.outbox.broadcast (.move h pos speed 0) })
  | (.error reason, s) => (.error reason, s)

/-! ## Reports -/

/-- Everybody is told of an accepted report; the place where a player comes to rest is sent on. -/
def announce (s : Scene) (h : Handle) (report : Report) : Scene :=
  if report.isFinish then
    let s := { s with outbox := s.outbox.broadcast (.stop h report.target report.seq) }
    if h.isRole then { s with feed := (s.feed.send ⟨h, s.id, report.target⟩).2 } else s
  else
    { s with outbox := s.outbox.broadcast (.move h report.target report.speed report.seq) }

/-- A client whose report was refused is told where its entity is. -/
def resync (s : Scene) (h : Handle) (report : Report) : Scene :=
  let s := { s with refused := s.refused + 1 }
  match s.entity? h with
  | some e => { s with outbox := s.outbox.tell h (.stop h e.pos report.seq) }
  | none => s

/-- Answers a report of a client. -/
def report (s : Scene) (now : Nat) (h : Handle) (report : Report) :
    Except Refusal Acceptance × Scene :=
  let (answer, referee, stage) := s.referee.report s.stage now h report
  let s := { s with referee := referee, stage := stage }
  match answer with
  | .ok _ => (answer, s.announce h report)
  | .error _ => (answer, s.resync h report)

/-- The number of refused reports, which are counted once. -/
def takeRefused (s : Scene) : UInt64 × Scene :=
  (s.refused, { s with refused := 0 })

/-! ## Places to stand -/

/-- Draws a tile to stand on. -/
def sample (s : Scene) (area : Option Area) : Tile × Scene :=
  let (pos, random) := s.terrain.sample area s.spawnAttempts.toNat s.random
  (pos, { s with random := random })

/-! ## Deliveries -/

/-- The events that tell a player of the net changes. -/
def sightings (s : Scene) (changes : Changes) : List Event × List Event :=
  (changes.entered.toList.filterMap fun h => (s.entity? h).map fun e => .appear e.portrait,
    changes.left.toList.map .disappear)

/-- Tells one player of the net changes. -/
def inform (s : Scene) (count : FlushCount) (h : Handle) (changes : Changes) :
    FlushCount × Scene :=
  let (appeared, disappeared) := s.sightings changes
  (⟨count.appeared + appeared.length, count.disappeared + disappeared.length⟩,
    { s with outbox := (appeared ++ disappeared).foldl (fun o e => o.tell h e) s.outbox })

/-- Tells all players of the net changes since the last time. -/
def flush (s : Scene) : FlushCount × Scene :=
  let (pending, visibility) := s.visibility.drain
  let s := { s with stage := { s.stage with visibility := visibility } }
  (pending.filter fun (h, _) => h.isRole).foldl
    (fun (count, s) (h, changes) => s.inform count h changes) (⟨0, 0⟩, s)

/-- Takes out all deliveries. -/
def drain (s : Scene) : List Delivery × Scene :=
  (s.outbox.drain.1, { s with outbox := s.outbox.drain.2 })

end Scene

end TileRealm
