/-!
# Log lines

A log line has a level, the part of the server that it comes from, a message, and values under names.

* `LogLine.text`: the written form of a line.
-/

set_option autoImplicit false

namespace TileRealm

/-- How serious a log line is. -/
inductive LogLevel where
  | info
  | warn
  | error
deriving DecidableEq

/-- The written form of a level. -/
def LogLevel.text : LogLevel → String
  | info => "INFO"
  | warn => "WARN"
  | error => "ERROR"

/-- One line of a log. -/
structure LogLine where
  level : LogLevel
  /-- The part of the server that the line comes from. -/
  source : String
  message : String
  /-- Values under names, in the order in which they are written. -/
  fields : List (String × String) := []
deriving DecidableEq

/-- The written form of a line. -/
def LogLine.text (l : LogLine) : String :=
  l.level.text ++ " " ++ l.source ++ ": " ++ l.message ++
    String.join (l.fields.map fun (name, value) => " " ++ name ++ "=" ++ value)

end TileRealm
