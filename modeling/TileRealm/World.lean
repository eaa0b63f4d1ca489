import TileRealm.Files
import TileRealm.Handle.Issuer
import TileRealm.Settings
import TileRealm.Terrain.MapFile

/-!
# Worlds

A scene from the settings: its terrain from a map or drawn at random, and the entities that are
placed in it.

* `World.terrain`, `World.scene`: the terrain and the scene that the settings ask for.
* `World.spawnMonsters`, `World.spawnRole`: entities at random places.
-/

set_option autoImplicit false

namespace TileRealm

/-- Why there is no terrain. -/
inductive WorldError where
  | file (fault : FileFault)
  /-- The file holds no map. -/
  | mapForm (fault : MapFault)
  | terrain (e : TerrainError)

/-- The text that tells a reader why. -/
def WorldError.message : WorldError → String
  | file fault => "I/O error: " ++ fault.message
  | mapForm fault => fault.message
  | terrain e => e.message

namespace World

/-! ## Terrain -/

/-- The terrain of a map file. -/
def mapTerrain (file : FileContent) : Except WorldError Terrain := do
  let text ← file.text.mapError .file
  match MapData.parse? text with
  | none => throw (.mapForm (.ofText text))
  | some data => (Terrain.ofMapData data).mapError .terrain

/-- The terrain that the settings ask for: a map, or one with obstacles drawn from the seed. -/
def terrain (settings : Settings) (files : String → FileContent) : Except WorldError Terrain :=
  let s := settings.scene
  match s.mapFile with
  | some path => mapTerrain (files path)
  | none =>
    ((Terrain.generate s.width s.height s.ratio (.seeded s.seed)).mapError .terrain).map (·.1)

/-- The scene that the settings ask for, without entities. -/
def scene (settings : Settings) (files : String → FileContent) (feed : PositionFeed) :
    Except WorldError Scene := do
  return .empty settings.sceneSetup (← terrain settings files) feed

/-! ## Entities -/

/-- Places an entity of a kind at a random tile of an area; none if its handle is taken. -/
def spawn (kind : Kind) (name : String) (area : Option Area) (speed : UInt32) (issuer : Issuer)
    (s : Scene) : Except SceneError (Handle × Tile) × Issuer × Scene :=
  let (h, issuer) := issuer.issue kind
  let (pos, s) := s.sample area
  let (added, s) := s.add (.outside h name pos speed)
  (added.map fun _ => (h, pos), issuer, s)

/-- Places a player. -/
def spawnRole (settings : Settings) (name : String) (speed : UInt32) (issuer : Issuer)
    (s : Scene) : Except SceneError Handle × Issuer × Scene :=
  let (spawned, issuer, s) := spawn .role name settings.scene.spawnArea speed issuer s
  (spawned.map (·.1), issuer, s)

/-- Places the given number of monsters, the first of which has the given number in its name.  Each
gets a mover that is at home where the monster stands. -/
def spawnMonstersFrom (settings : Settings) :
    Nat → Nat → Issuer → Scene → List Mover × Issuer × Scene
  | 0, _, issuer, s => ([], issuer, s)
  | count + 1, number, issuer, s =>
    let (spawned, issuer, s) := spawn .monster ("monster-" ++ toString number)
      settings.monsters.spawnArea settings.monsters.speed issuer s
    let (movers, issuer, s) := spawnMonstersFrom settings count (number + 1) issuer s
    match spawned with
    | .ok (h, home) => (.create h home settings.moverRules :: movers, issuer, s)
    | .error _ => (movers, issuer, s)

/-- Places the monsters that the settings ask for. -/
def spawnMonsters (settings : Settings) (issuer : Issuer) (s : Scene) :
    List Mover × Issuer × Scene :=
  spawnMonstersFrom settings settings.monsters.count.toNat 1 issuer s

end World

end TileRealm
