import TileRealm.Binary
import TileRealm.Channel
import TileRealm.Decimal.Fixed
import TileRealm.Decimal.Nearest
import TileRealm.Decimal.Shortest
import TileRealm.Entity
import TileRealm.Event
import TileRealm.Files
import TileRealm.Files.Tree
import TileRealm.Handle
import TileRealm.Handle.Issuer
import TileRealm.Heap
import TileRealm.Json
import TileRealm.Json.Reader
import TileRealm.Least
import TileRealm.Log
import TileRealm.Main
import TileRealm.Movement
import TileRealm.Movement.Board
import TileRealm.Movement.Referee
import TileRealm.Movement.Session
import TileRealm.Mover
import TileRealm.PositionFeed
import TileRealm.Proofs.Cell
import TileRealm.Proofs.Float
import TileRealm.Proofs.Movement.Bout
import TileRealm.Proofs.Movement.Check
import TileRealm.Proofs.Movement.Orderly
import TileRealm.Proofs.Movement.Reach
import TileRealm.Proofs.Roster
import TileRealm.Proofs.Scene.Answer
import TileRealm.Proofs.Scene.Bout
import TileRealm.Proofs.Scene.ClientView
import TileRealm.Proofs.Scene.Coherent
import TileRealm.Proofs.Scene.Replica
import TileRealm.Proofs.Scene.Restart
import TileRealm.Proofs.Scene.Run
import TileRealm.Proofs.Ticker
import TileRealm.Proofs.Visibility.NetChange
import TileRealm.Proofs.Visibility.Owed
import TileRealm.Proofs.Visibility.Settled
import TileRealm.Proofs.Visibility.Sight
import TileRealm.Proofs.Visibility.Upkeep
import TileRealm.Random
import TileRealm.Route
import TileRealm.Route.BestFirst
import TileRealm.Route.Follower
import TileRealm.Route.Planner
import TileRealm.Route.Straight
import TileRealm.Router
import TileRealm.Router.Switchboard
import TileRealm.Scene
import TileRealm.Scene.Stage
import TileRealm.Server
import TileRealm.Service
import TileRealm.Settings
import TileRealm.Settings.Arguments
import TileRealm.Settings.Reader
import TileRealm.Shutdown
import TileRealm.Terrain
import TileRealm.Terrain.MapFile
import TileRealm.Terrain.MapText
import TileRealm.Terrain.Sampling
import TileRealm.Terrain.Snapshot
import TileRealm.Text.Digit
import TileRealm.Text.Invisible
import TileRealm.Text.Quoted
import TileRealm.Text.Reading
import TileRealm.Text.Scan
import TileRealm.Ticker
import TileRealm.Tile
import TileRealm.Tile.Cell
import TileRealm.Tile.Pixel
import TileRealm.Toml
import TileRealm.Toml.Complaint
import TileRealm.Toml.Line
import TileRealm.Toml.Moment
import TileRealm.Toml.Number
import TileRealm.Toml.Quoted
import TileRealm.Toml.Reader
import TileRealm.Toml.Tree
import TileRealm.Toml.Written
import TileRealm.Visibility
import TileRealm.Visibility.Watcher
import TileRealm.Wire
import TileRealm.World
import TileRealm.Proofs.Scene.Registry
import TileRealm.Proofs.Ticker.Movers
import TileRealm.Proofs.Route.Neighbours
import TileRealm.Proofs.Route.Straight
import TileRealm.Proofs.Route.Explored
import TileRealm.Proofs.Route.Plan
import TileRealm.Proofs.Heap
import TileRealm.Proofs.Route.Complete
import TileRealm.Proofs.Route.Costs
import TileRealm.Proofs.Route.Optimal
import TileRealm.Proofs.Route.Octile
import TileRealm.Proofs.Route.Budget
import TileRealm.Proofs.Scene.Order
import TileRealm.Proofs.Ticker.Batch
import TileRealm.Proofs.Terrain.Draws
import TileRealm.Proofs.World.Spawn
import TileRealm.Proofs.Handle
import TileRealm.Proofs.Handle.Issuer
import TileRealm.Proofs.Binary
import TileRealm.Proofs.Terrain.Store
import TileRealm.Proofs.Terrain.Answer
import TileRealm.Proofs.Terrain.Snapshot
import TileRealm.Proofs.Stored
import TileRealm.Proofs.Shutdown
import TileRealm.Proofs.Json
import TileRealm.Proofs.Tile.Pixel
import TileRealm.Proofs.Wire
import TileRealm.Proofs.Router
import TileRealm.Proofs.Router.Due
import TileRealm.Proofs.Router.Order
import TileRealm.Proofs.Router.Exchange
import TileRealm.Proofs.Router.Served
import TileRealm.Proofs.Router.Reconnect
import TileRealm.Proofs.Float.Rounding
import TileRealm.Proofs.Float.Arithmetic
import TileRealm.Proofs.Tile.Distance
import TileRealm.Proofs.Route.Follower
import TileRealm.Proofs.Mover.Tick
import TileRealm.Proofs.Mover.Outing
import TileRealm.Proofs.Mover.Mode
import TileRealm.Proofs.Mover.Homeward
import TileRealm.Proofs.Random
import TileRealm.Proofs.Terrain.MapText
import TileRealm.Proofs.Terrain.Sampling
import TileRealm.Proofs.Float.Truncation
import TileRealm.Proofs.Route.Line
import TileRealm.Proofs.Mover.Patrol
import TileRealm.Proofs.Text.Digit
import TileRealm.Proofs.Settings.Arguments
