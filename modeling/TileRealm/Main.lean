import TileRealm.Server

/-!
# The program

Reads the command line and the files that it names, and lets the server tick in real time.
-/

set_option autoImplicit false

namespace TileRealm.Program

/-- What is found at a path. -/
def contentOf (path : String) : IO FileContent := do
  if let some fault := pathFault? path then return .absent fault
  try
    return .bytes (← IO.FS.readBinFile path).toList
  catch
    | .noFileOrDirectory .. => return .absent .missing
    | .inappropriateType _ 20 _ => return .absent .notDirectory
    | .invalidArgument _ 36 _ => return .absent .tooLong
    | .permissionDenied .. => return .locked
    | _ => return .directory

/-- Prints log lines. -/
def printLog (lines : List LogLine) : IO Unit :=
  lines.forM fun l => IO.println l.text

/-- Ticks until the last tick is made, at the pace that the rules ask for.  Nobody is connected, so
that what the scene hands on is dropped. -/
partial def keepTicking (start : Nat) (t : Ticker) : IO Ticker := do
  if t.rules.reached t.current then return t
  let began ← IO.monoNanosNow
  let (report, t) := t.step (began - start)
  let t := { t with outbound := t.outbound.map (·.drain.2) }
  let spent := (← IO.monoNanosNow) - began
  if overBudget (spent / 1000) then printLog [Server.slowLine report (spent / 1000)]
  IO.sleep (UInt32.ofNat ((t.rules.interval - spent) / 1000000))
  keepTicking start t

/-- Lets a server tick to its end. -/
def serve (s : Server) : IO Server := do
  match s.ticker with
  | none => return s
  | some t =>
    let t ← keepTicking (← IO.monoNanosNow) t
    return { s with ticker := some t }.stopped t.current

/-- Runs the server that a command line asks for. -/
def run (arguments : List String) : IO UInt32 := do
  let path := (Arguments.parse arguments).toOption.bind (·.configPath)
  let config ← path.mapM contentOf
  match Server.settings arguments fun _ => config.getD (.absent .missing) with
  | .error complaint =>
    IO.eprintln complaint
    return 1
  | .ok settings =>
    let map ← settings.scene.mapFile.mapM contentOf
    let s := Server.create settings fun _ => map.getD (.absent .missing)
    printLog s.log
    let final ← serve s
    printLog (final.log.drop s.log.length ++ [Server.endLine final.shutdown])
    return 0

end TileRealm.Program

/-- Runs the server that the command line asks for. -/
def main (arguments : List String) : IO UInt32 :=
  TileRealm.Program.run arguments
