import RouterGate.Json.Writer
import RouterGate.Log.Event
import RouterGate.Text.Quoted
/-!
Events as lines: compact text, or a JSON object for machines.
-/
namespace RouterGate.Log

def Field.json : Field → Json
  | .quoted text => .text text
  | .shown text => .text text
  | .number n => .natural n
  | .flag value => .bool value

def Field.plain : Field → String
  | .quoted text => Text.Quoted.encode text
  | .shown text => text
  | .number n => toString n
  | .flag value => toString value

namespace Event

def jsonFields (event : Event) : Json :=
  .record (("message", .text event.message) ::
    event.fields.map fun field => (field.1, field.2.json))

def jsonLine (clock : String) (event : Event) : String :=
  Bytes.shown (Json.write (.record [("timestamp", .text clock), ("level", .text event.level.name),
    ("fields", event.jsonFields), ("target", .text event.source.target)]))

def plainText (event : Event) : String :=
  event.level.name ++ " " ++ event.source.target ++ ": " ++
    " ".intercalate (event.message ::
      event.fields.map fun field => field.1 ++ "=" ++ field.2.plain)

/-- Levels of four letters are set to the width of the others. -/
def plainLine (clock : String) (event : Event) : String :=
  clock ++ (if event.level.name.length < 5 then "  " else " ") ++ event.plainText

end Event

end RouterGate.Log
