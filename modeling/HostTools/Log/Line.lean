import HostTools.Environment
import HostTools.Json.Printer
import HostTools.Log.Event
import HostTools.Log.Format

set_option autoImplicit false

namespace HostTools

def FieldValue.json : FieldValue → Json
  | .text value => .text value
  | .number value => .number value
  | .bool value => .bool value

namespace Event

def members (event : Event) : List (String × Json) :=
  let all := ("message", Json.text event.message) ::
    event.fields.map fun (name, value) => (name, value.json)
  all.mergeSort fun a b => a.1 ≤ b.1

def json (event : Event) : Json :=
  .object
    [("fields", .object event.members), ("level", .text event.level.name),
      ("target", .text event.speaker)]

def prettyLine (event : Event) : String :=
  let fields := event.fields.map fun (name, value) => ", " ++ name ++ ": " ++ value.shown
  "  " ++ event.level.name ++ " " ++ event.speaker ++ ": " ++ event.message ++ String.join fields

def line (format : LogFormat) (event : Event) : Bytes :=
  match format with
  | .json => Bytes.ofChars (Json.compact event.json ++ ['\n'])
  | .pretty => Bytes.ofText (event.prettyLine ++ "\n")

end Event

end HostTools
