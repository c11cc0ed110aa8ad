import HostTools.Json.Printer
import HostTools.Output
import HostTools.Paint
import HostTools.Report.Basic
import HostTools.Text.Utf8

set_option autoImplicit false

namespace HostTools.Report

def line (channel : Channel) (pieces : List (List Char)) : List (Channel × Bytes) :=
  (pieces ++ [['\n']]).map fun piece => (channel, Bytes.ofChars piece)

def complaint (color : Bool) (text : String) : List (Channel × Bytes) :=
  line .err (Style.boldRed.paint color text.toList)

def verdict (color : Bool) : Option Family → List (List Char)
  | some family => Style.green.paint color family.name.toList
  | none => Style.red.paint color ['i', 'n', 'v', 'a', 'l', 'i', 'd']

def addressLine (color : Bool) (result : String × Option Family) : List (Channel × Bytes) :=
  line .out ([result.1.toList, [' ', ' ']] ++ verdict color result.2)

-- What a command or a server gave goes to the output untouched, and a line that tells of a failure
-- goes to the error output.
def textWrites (color : Bool) : Report → List (Channel × Bytes)
  | .exec true _ output => [(.out, output)]
  | .exec false code output =>
    (.err, output) :: complaint color ("✗ Command exited with status " ++ Digits.signedText code)
  | .fetch _ (some body) => [(.out, body)]
  | .fetch url none => complaint color ("✗ No response from " ++ url)
  | .addresses results => results.flatMap (addressLine color)

def addressJson (result : String × Option Family) : Json :=
  .object [("address", .text result.1), ("family", Json.ofText? (result.2.map Family.name))]

def json : Report → Json
  | .exec success code output =>
    .object
      [("command", .text "exec"), ("success", .bool success), ("exit_code", .number code),
        ("output", .text (Utf8.lossy output))]
  | .fetch url body =>
    .object
      [("command", .text "fetch"), ("url", .text url), ("body", Json.ofText? (body.map Utf8.lossy))]
  | .addresses results =>
    .object [("command", .text "is_ip"), ("results", .list (results.map addressJson))]

def jsonWrites (report : Report) : List Bytes :=
  (Json.wide 0 report.json ++ [['\n']]).map Bytes.ofChars

def writeText (report : Report) (color : Bool) (outputs : Outputs) : Outputs × Option IoError :=
  outputs.writeAll (report.textWrites color)

def writeJson (report : Report) (sink : Sink) : Sink × Option IoError :=
  sink.writeAll report.jsonWrites

end HostTools.Report
