import TileRealm.Decimal.Shortest
import TileRealm.Settings
import TileRealm.Text.Quoted
import TileRealm.Toml
import TileRealm.Toml.Complaint

/-!
# Reading settings

Settings are a table of sections, and a section is a table of fields.  Keys that have no meaning are
passed over, and what is not given keeps its default.  An array stands for a section or an area too,
with the values of the fields in their order; values beyond the last field are passed over.

* `Field`: how the value of a name changes a group of values.
* `Settings.ofTable`: the settings that a document holds, or the first value with the wrong type.
-/

set_option autoImplicit false

namespace TileRealm

open Toml (Complaint)

namespace Toml.Value

/-! ## Single values -/

/-- How a value looks in a complaint. -/
def shown : Value → String
  | string s => "string " ++ Text.quoteString s
  | integer n => "integer `" ++ toString n ++ "`"
  | float bits => "floating point `" ++ Decimal.shortest (Float.ofBits bits) ++ "`"
  | boolean b => "boolean `" ++ toString b ++ "`"
  | array _ | tables _ => "sequence"
  | datetime _ | table _ => "map"

/-- The complaint about a value of the wrong type. -/
def wrongType (expected : String) (v : Value) : Complaint :=
  ⟨none, "invalid type: " ++ v.shown ++ ", expected " ++ expected⟩

/-- An integer from 0 up to, but not including, the bound. -/
def boundedBy (bound : Nat) (expected : String) : Value → Except Complaint Nat
  | integer n =>
    if 0 ≤ n ∧ n < bound then .ok n.toNat
    else .error ⟨none, "invalid value: " ++ (integer n).shown ++ ", expected " ++ expected⟩
  | v => .error (v.wrongType expected)

/-- A 32-bit number. -/
def word (v : Value) : Except Complaint UInt32 :=
  (v.boundedBy UInt32.size "u32").map UInt32.ofNat

/-- A 64-bit number. -/
def longWord (v : Value) : Except Complaint UInt64 :=
  (v.boundedBy UInt64.size "u64").map UInt64.ofNat

/-- A 64-bit number that counts something. -/
def count (v : Value) : Except Complaint UInt64 :=
  (v.boundedBy UInt64.size "usize").map UInt64.ofNat

/-- The bits of a double; an integer is taken for one. -/
def double : Value → Except Complaint UInt64
  | float bits => .ok bits
  | integer n => .ok (Float.ofInt n).toBits
  | v => .error (v.wrongType "f64")

/-- A text. -/
def text : Value → Except Complaint String
  | string s => .ok s
  | v => .error (v.wrongType "a string")

/-! ## Choices -/

/-- One of several choices by its name. -/
def choose {α : Type} (choices : List (String × α)) (name : String) : Except Complaint α :=
  match choices.lookup name with
  | some choice => .ok choice
  | none =>
    let names := choices.map fun (known, _) => "`" ++ known ++ "`"
    .error ⟨none, "unknown variant `" ++ name ++ "`, expected " ++ " or ".intercalate names⟩

/-- One of several choices: its name as a text, or as the only key of a table that leads to
nothing. -/
def choice {α : Type} (choices : List (String × α)) : Value → Except Complaint α
  | string s => choose choices s
  | table [] => .error ⟨none, "wanted exactly 1 element, found 0 elements"⟩
  | table [(k, span, v)] => do
    let choice ← (choose choices k.name).mapError (·.within (some k.span))
    match v with
    | table [] | array [] => return choice
    | table _ | array _ => throw ⟨span, "expected empty table"⟩
    | tables _ => throw ⟨span, "expected empty array"⟩
    | v => throw ⟨span, "expected table, found " ++ v.kind⟩
  | table _ => .error ⟨none, "wanted exactly 1 element, more than 1 element"⟩
  | _ => .error ⟨none, "wanted string or table"⟩

/-- An algorithm. -/
def algorithm : Value → Except Complaint Algorithm :=
  choice ([Algorithm.straight, .bestFirst].map fun a => (a.text, a))

/-- A heuristic. -/
def heuristic : Value → Except Complaint Heuristic :=
  choice ([Heuristic.manhattan, .octile].map fun h => (h.text, h))

end Toml.Value

open Toml

/-! ## Groups of values -/

/-- A name with what its value does to a group of values. -/
structure Field (σ : Type) where
  name : String
  put : σ → Value → Except Complaint σ

namespace Field

variable {σ : Type}

/-- A group of values after the entries of a table, one after the other. -/
def putEntries (fields : List (Field σ)) : σ → Table → Except Complaint σ :=
  List.foldlM fun s (k, span, v) =>
    match fields.find? (·.name = k.name) with
    | none => .ok s
    | some field => (field.put s v).mapError (·.within (span <|> some k.span))

/-- A group of values after the items of an array, which are in the order of the fields. -/
def putItems (fields : List (Field σ)) (s : σ) (items : List (Text.Span × Value)) :
    Except Complaint σ :=
  (fields.zip items).foldlM (fun s (field, span, v) =>
    (field.put s v).mapError (·.within (some span))) s

/-- A group of values after a table or an array.  A date is a table without any of the names. -/
def putAll (fields : List (Field σ)) (title : String) (s : σ) : Value → Except Complaint σ
  | .table entries => putEntries fields s entries
  | .array items | .tables items => putItems fields s items
  | .datetime _ => .ok s
  | v => .error (v.wrongType ("struct " ++ title))

end Field

/-! ## Areas -/

/-- The coordinates of an area, in their order. -/
def Area.names : List String :=
  ["x1", "y1", "x2", "y2"]

/-- The coordinates by their names. -/
def Area.fields : List (Field (List (String × UInt32))) :=
  Area.names.map fun name => ⟨name, fun found v => do return (name, ← v.word) :: found⟩

/-- An area, of which nothing can be left out. -/
def Area.ofValue (v : Value) : Except Complaint Area := do
  let found ← Field.putAll Area.fields "SpawnArea" [] v
  let coordinate (name : String) : Except Complaint UInt32 :=
    match found.lookup name, v with
    | some n, _ => .ok n
    | none, .array items | none, .tables items =>
      .error ⟨none, "invalid length " ++ toString items.length ++
        ", expected struct SpawnArea with 4 elements"⟩
    | none, _ => .error ⟨none, "missing field `" ++ name ++ "`"⟩
  return ⟨← coordinate "x1", ← coordinate "y1", ← coordinate "x2", ← coordinate "y2"⟩

/-! ## Sections -/

/-- The fields of the section `tick`. -/
def TickRules.fields : List (Field TickRules) :=
  [⟨"tps", fun s v => do return { s with rate := ← v.word }⟩,
    ⟨"max_ticks", fun s v => do return { s with maxTicks := ← v.longWord }⟩]

/-- The fields of the section `scene`. -/
def SceneSection.fields : List (Field SceneSection) :=
  [⟨"id", fun s v => do return { s with id := ← v.word }⟩,
    ⟨"width", fun s v => do return { s with width := ← v.word }⟩,
    ⟨"height", fun s v => do return { s with height := ← v.word }⟩,
    ⟨"obstacle_ratio", fun s v => do return { s with obstacleRatio := ← v.double }⟩,
    ⟨"seed", fun s v => do return { s with seed := ← v.longWord }⟩,
    ⟨"map_file", fun s v => do return { s with mapFile := some (← v.text) }⟩,
    ⟨"spawn_area", fun s v => do return { s with spawnArea := some (← Area.ofValue v) }⟩,
    ⟨"spawn_attempts", fun s v => do return { s with spawnAttempts := ← v.word }⟩]

/-- The fields of the section `aoi`. -/
def SightSection.fields : List (Field SightSection) :=
  [⟨"cell_size", fun s v => do return { s with cellSize := ← v.word }⟩]

/-- The fields of the section `movement`. -/
def MovementSection.fields : List (Field MovementSection) :=
  [⟨"position_tolerance", fun s v => do return { s with positionTolerance := ← v.word }⟩,
    ⟨"distance_tolerance", fun s v => do return { s with distanceTolerance := ← v.word }⟩,
    ⟨"min_update_interval_ms", fun s v => do return { s with minInterval := ← v.longWord }⟩,
    ⟨"start_grace_ms", fun s v => do return { s with startGrace := ← v.longWord }⟩,
    ⟨"default_speed_cap", fun s v => do return { s with defaultSpeedCap := ← v.word }⟩]

/-- The fields of the section `pathfinding`. -/
def RouteSection.fields : List (Field RouteSection) :=
  [⟨"astar_max_expansions", fun s v => do return { s with expansions := ← v.count }⟩,
    ⟨"straight_max_steps", fun s v => do return { s with steps := ← v.count }⟩,
    ⟨"heuristic", fun s v => do return { s with heuristic := ← v.heuristic }⟩,
    ⟨"patrol_algorithm", fun s v => do return { s with patrol := ← v.algorithm }⟩,
    ⟨"chase_algorithm", fun s v => do return { s with chase := ← v.algorithm }⟩,
    ⟨"return_algorithm", fun s v => do return { s with home := ← v.algorithm }⟩]

/-- The fields of the section `monsters`. -/
def MonsterSection.fields : List (Field MonsterSection) :=
  [⟨"count", fun s v => do return { s with count := ← v.word }⟩,
    ⟨"move_speed", fun s v => do return { s with speed := ← v.word }⟩,
    ⟨"patrol_radius", fun s v => do return { s with patrolRadius := ← v.word }⟩,
    ⟨"detect_range", fun s v => do return { s with detectRange := ← v.word }⟩,
    ⟨"reset_distance", fun s v => do return { s with resetDistance := ← v.word }⟩,
    ⟨"replan_threshold", fun s v => do return { s with replanThreshold := ← v.word }⟩,
    ⟨"spawn_area", fun s v => do return { s with spawnArea := some (← Area.ofValue v) }⟩]

/-- The fields of the section `protocol`. -/
def ProtocolSection.fields : List (Field ProtocolSection) :=
  [⟨"tile_size", fun s v => do return { s with tileSize := ← v.word }⟩]

namespace Settings

/-- The sections by their names. -/
def fields : List (Field Settings) :=
  [⟨"tick", fun s v => do
      return { s with tick := ← Field.putAll TickRules.fields "TickSection" {} v }⟩,
    ⟨"scene", fun s v => do
      return { s with scene := ← Field.putAll SceneSection.fields "SceneSection" {} v }⟩,
    ⟨"aoi", fun s v => do
      return { s with sight := ← Field.putAll SightSection.fields "AoiSection" {} v }⟩,
    ⟨"movement", fun s v => do
      return { s with movement := ← Field.putAll MovementSection.fields "MovementSection" {} v }⟩,
    ⟨"pathfinding", fun s v => do
      return { s with routes := ← Field.putAll RouteSection.fields "PathfindingSection" {} v }⟩,
    ⟨"monsters", fun s v => do
      return { s with monsters := ← Field.putAll MonsterSection.fields "MonsterSection" {} v }⟩,
    ⟨"protocol", fun s v => do
      return { s with protocol := ← Field.putAll ProtocolSection.fields "ProtocolSection" {} v }⟩]

/-- The settings that a document holds, or the first value with the wrong type. -/
def ofTable (t : Table) : Except Complaint Settings :=
  Field.putEntries fields {} t

end Settings

end TileRealm
