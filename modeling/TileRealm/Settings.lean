import TileRealm.Ticker
import TileRealm.Tile.Pixel

/-!
# Settings

All that can be set about a server, in sections, each with its defaults.

* `Settings`: the sections.
* `Settings.sceneSetup`, `Settings.moverRules`, ...: what the parts of the server are made from.
-/

set_option autoImplicit false

namespace TileRealm

/-- The scene and its terrain. -/
structure SceneSection where
  id : UInt32 := 1
  width : UInt32 := 1028
  height : UInt32 := 1028
  /-- The share of obstacles as the bits of a double. -/
  obstacleRatio : UInt64 := Terrain.defaultObstacleRatio.toBits
  seed : UInt64 := 0
  /-- The path of a map, which takes the place of drawn obstacles. -/
  mapFile : Option String := none
  /-- Where players appear, anywhere if not set. -/
  spawnArea : Option Area := none
  spawnAttempts : UInt32 := 100
deriving DecidableEq

/-- How far entities see. -/
structure SightSection where
  cellSize : UInt32 := defaultCellSize
deriving DecidableEq

/-- What is asked of movement reports; times are in milliseconds. -/
structure MovementSection where
  positionTolerance : UInt32 := 30
  distanceTolerance : UInt32 := 50
  minInterval : UInt64 := 50
  startGrace : UInt64 := 1000
  defaultSpeedCap : UInt32 := 20
deriving DecidableEq

/-- How routes are looked for. -/
structure RouteSection where
  expansions : UInt64 := 2000
  steps : UInt64 := 500
  heuristic : Heuristic := .octile
  patrol : Algorithm := .straight
  chase : Algorithm := .bestFirst
  home : Algorithm := .bestFirst
deriving DecidableEq

/-- The monsters of the scene. -/
structure MonsterSection where
  count : UInt32 := 20
  speed : UInt32 := 4
  patrolRadius : UInt32 := 5
  detectRange : UInt32 := 8
  resetDistance : UInt32 := 20
  replanThreshold : UInt32 := 2
  /-- Where monsters appear, anywhere if not set. -/
  spawnArea : Option Area := none
deriving DecidableEq

/-- How clients are talked to. -/
structure ProtocolSection where
  /-- The edge of a tile in pixels. -/
  tileSize : UInt32 := 32
deriving DecidableEq

/-- All sections. -/
structure Settings where
  tick : TickRules := {}
  scene : SceneSection := {}
  sight : SightSection := {}
  movement : MovementSection := {}
  routes : RouteSection := {}
  monsters : MonsterSection := {}
  protocol : ProtocolSection := {}
deriving DecidableEq

/-- The share of obstacles. -/
def SceneSection.ratio (s : SceneSection) : Float :=
  Float.ofBits s.obstacleRatio

/-- The rules for movement reports. -/
def MovementSection.rules (s : MovementSection) : MoveRules where
  positionTolerance := s.positionTolerance
  distanceTolerance := s.distanceTolerance
  minInterval := s.minInterval.toNat * 1000000
  startGrace := s.startGrace.toNat * 1000000
  defaultSpeedCap := s.defaultSpeedCap

/-- How much a planner may do. -/
def RouteSection.limits (s : RouteSection) : Limits where
  expansions := s.expansions.toNat
  steps := s.steps.toNat
  heuristic := s.heuristic

namespace Settings

/-- What the scene is made from. -/
def sceneSetup (s : Settings) : SceneSetup where
  id := s.scene.id
  cellSize := s.sight.cellSize
  rules := s.movement.rules
  limits := s.routes.limits
  spawnAttempts := s.scene.spawnAttempts
  seed := s.scene.seed

/-- How movers behave. -/
def moverRules (s : Settings) : MoverRules where
  patrolRadius := s.monsters.patrolRadius
  detectRange := s.monsters.detectRange
  resetDistance := s.monsters.resetDistance
  replanThreshold := s.monsters.replanThreshold
  patrolAlgorithm := s.routes.patrol
  chaseAlgorithm := s.routes.chase
  homeAlgorithm := s.routes.home

/-- How tiles are drawn on the screens of clients. -/
def scale (s : Settings) : Scale where
  tileSize := s.protocol.tileSize

end Settings

end TileRealm
