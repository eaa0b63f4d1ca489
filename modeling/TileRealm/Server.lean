import TileRealm.Log
import TileRealm.Settings.Arguments
import TileRealm.Shutdown
import TileRealm.World

/-!
# The server

A server builds the world that its settings ask for, puts monsters into it, and ticks until the last
tick is made or it is told to stop.  Its log tells what it does.

* `Server.settings`: the settings that a command line asks for.
* `Server.create`: a server that is ready to tick, or has no world to tick in.
* `Server.run`: all ticks of a server.
* `Server.outcome`: what a command line leads to, as it is seen from outside.
-/

set_option autoImplicit false

namespace TileRealm

/-- A server with what it said so far. -/
structure Server where
  /-- The scene with its movers on their way, none if it could not be built. -/
  ticker : Option Ticker
  shutdown : Shutdown
  log : List LogLine

/-- What is seen of a server when it is over. -/
structure Outcome where
  exitCode : UInt32
  /-- The text for the user who started it. -/
  complaint : String
  log : List LogLine
deriving DecidableEq

namespace Server

/-! ## What the log says -/

/-- A line from the server itself. -/
def line (message : String) (fields : List (String × String) := []) : LogLine :=
  ⟨.info, "dungeon_server", message, fields⟩

/-- The width and the height of a terrain. -/
def sizeFields (t : Terrain) : List (String × String) :=
  [("width", toString t.width), ("height", toString t.height)]

/-- The first line. -/
def startLine : LogLine :=
  line "Dungeon server starting..."

/-- How the terrain was made. -/
def terrainLine (s : SceneSection) (t : Terrain) : LogLine :=
  match s.mapFile with
  | some path =>
    ⟨.info, "dungeon_server::world", "map loaded", ("path", path) :: sizeFields t⟩
  | none =>
    ⟨.info, "space::walkable", "walkable grid generated",
      sizeFields t ++ [("obstacles", toString (Terrain.obstacleCount s.width s.height s.ratio))]⟩

/-- Where an entity appeared. -/
def enteredLine (scene : UInt32) (h : Handle) (pos : Tile) : LogLine :=
  ⟨.info, "engine_core::scene", "entity entered scene", [("scene", toString scene),
    ("entity", h.text), ("x", toString pos.x), ("y", toString pos.y)]⟩

/-- How many monsters there are. -/
def monstersLine (scene : UInt32) (count : Nat) : LogLine :=
  ⟨.info, "dungeon_server::world", "monsters spawned",
    [("scene", toString scene), ("count", toString count)]⟩

/-- The scene is complete. -/
def readyLine (s : Scene) : LogLine :=
  line "Scene ready" (("scene", toString s.id) :: sizeFields s.terrain ++
    [("entities", toString s.size)])

/-- The scene is about to tick. -/
def runningLine (s : Scene) : LogLine :=
  line "Scene tick loop running (Ctrl+C to stop)" [("scene", toString s.id)]

/-- The scene does not tick any more. -/
def stoppedLine (ticks : UInt64) (s : Scene) : LogLine :=
  line "Scene tick loop stopped" [("ticks", toString ticks), ("entities", toString s.size)]

/-- There is no scene. -/
def failureLine (e : WorldError) : LogLine :=
  ⟨.error, "dungeon_server", "Failed to build scene: " ++ e.message, []⟩

/-- A tick took longer than it may. -/
def slowLine (r : TickReport) (duration : Nat) : LogLine :=
  ⟨.warn, "observability", "tick exceeded budget (" ++ toString duration ++ "us > " ++
      toString tickBudget ++ "us)",
    [("tick", toString r.tick), ("duration_us", toString duration),
      ("commands", toString r.commands), ("entities", toString r.entities),
      ("rejected", toString r.refused)]⟩

/-- The last line, with the reason for the end. -/
def endLine (s : Shutdown) : LogLine :=
  line "Server stopped." (match s.reason with
    | some reason => [("reason", reason.text)]
    | none => [])

/-! ## From start to end -/

/-- The settings that a command line asks for, or what is wrong with it. -/
def settings (arguments : List String) (files : String → FileContent) : Except String Settings := do
  let a ← (Arguments.parse arguments).mapError (·.message)
  (a.settings files).mapError ("Failed to load config: " ++ ·.message)

/-- A server before its first tick.  Its movers wait in the mailbox. -/
def create (settings : Settings) (files : String → FileContent) : Server :=
  match World.scene settings files .connected with
  | .error e => ⟨none, (Shutdown.fresh.trigger .sceneFailure).2, [startLine, failureLine e]⟩
  | .ok scene =>
    let terrainLine := terrainLine settings.scene scene.terrain
    let (movers, _, scene) := World.spawnMonsters settings .fresh scene
    let ticker := Ticker.create settings.tick scene (some .fresh)
    let mailbox := movers.foldl (fun c m => c.send (.attach m)) ticker.mailbox
    ⟨some { ticker with mailbox := mailbox }, .fresh,
      startLine :: terrainLine :: movers.map (fun m => enteredLine scene.id m.handle m.home) ++
        [monstersLine scene.id movers.length, readyLine scene, runningLine scene]⟩

/-- A server after the given number of ticks, which is over unless it had a reason to stop before. -/
def stopped (s : Server) (ticks : UInt64) : Server :=
  match s.ticker with
  | none => s
  | some t => { s with
      shutdown := (s.shutdown.trigger .tickLimit).2
      log := s.log ++ [stoppedLine ticks t.scene] }

/-- A server after all its ticks, the first of which is made at the first time of the clock.  It is
over after the last tick that its settings allow, and after as many ticks as `turns` says if they
allow for more. -/
def run (s : Server) (clock : Nat → Nat) (turns : Nat) : Server :=
  match s.ticker with
  | none => s
  | some t =>
    let r := t.run clock (fun _ => false) turns
    { s with ticker := some r.final }.stopped r.ticks

/-- What a command line leads to if every tick is made in time. -/
def outcome (arguments : List String) (files : String → FileContent) : Outcome :=
  match settings arguments files with
  | .error complaint => ⟨1, complaint ++ "\n", []⟩
  | .ok settings =>
    let rules := settings.tick
    let s := (create settings files).run (· * rules.interval) rules.maxTicks.toNat
    ⟨0, "", s.log ++ [endLine s.shutdown]⟩

end Server

end TileRealm
