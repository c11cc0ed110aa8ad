import HostTools.Address.Basic
import HostTools.Json.Number
import HostTools.Text.Utf8

set_option autoImplicit false

namespace HostTools.FamilyJson

open Json (Fault Problem)

def ofName? (name : Bytes) : Option Family :=
  if name = Bytes.ofText "ipv4" then some .ipv4
  else if name = Bytes.ofText "ipv6" then some .ipv6
  else none

def mismatch (found wanted : String) : Problem :=
  .meaning ("invalid type: " ++ found ++ ", expected " ++ wanted)

def unknown (name : Bytes) : Problem :=
  .meaning ("unknown variant `" ++ Utf8.lossy name ++ "`, expected `ipv4` or `ipv6`")

-- Words, numbers and strings are read whole before they are found to be of the wrong kind; lists
-- and objects are not.
def wrongKind (wanted : String) : Bytes → Fault
  | [] => .upon .expectedValue []
  | byte :: rest =>
    if byte = 0x6e then
      match Json.restOfWord [0x75, 0x6c, 0x6c] rest with
      | .ok rest => .after (mismatch "null" wanted) rest
      | .error fault => fault
    else if byte = 0x74 then
      match Json.restOfWord [0x72, 0x75, 0x65] rest with
      | .ok rest => .after (mismatch "boolean `true`" wanted) rest
      | .error fault => fault
    else if byte = 0x66 then
      match Json.restOfWord [0x61, 0x6c, 0x73, 0x65] rest with
      | .ok rest => .after (mismatch "boolean `false`" wanted) rest
      | .error fault => fault
    else if byte = 0x2d then
      match Json.numeral true rest with
      | .ok (number, rest) => .after (mismatch number.shown wanted) rest
      | .error fault => fault
    else if Bytes.isDigit byte then
      match Json.numeral false (byte :: rest) with
      | .ok (number, rest) => .after (mismatch number.shown wanted) rest
      | .error fault => fault
    else if byte = 0x22 then
      match Json.literal rest with
      | .ok (value, rest) =>
        .after (mismatch ("string " ++ Quoted.text (Utf8.lossy value)) wanted) rest
      | .error fault => fault
    else if byte = 0x5b then .after (mismatch "sequence" wanted) (byte :: rest)
    else if byte = 0x7b then .after (mismatch "map" wanted) (byte :: rest)
    else .upon .expectedValue (byte :: rest)

def name (input : Bytes) : Except Fault (Family × Bytes) :=
  match Json.literal input with
  | .error fault => .error fault
  | .ok (value, rest) =>
    match ofName? value with
    | some family => .ok (family, rest)
    | none => .error (.after (unknown value) rest)

-- An empty object lacks a value, not a key.
def key (input : Bytes) : Except Fault (Family × Bytes) :=
  match Json.skipBlanks input with
  | [] => .error (.upon .endInObject [])
  | byte :: rest =>
    if byte = 0x22 then name rest
    else if byte = 0x7d then .error (.upon .expectedValue (byte :: rest))
    else .error (.upon .expectedKey (byte :: rest))

-- One octet after blanks. What is at fault without it is the text's end or what stands in its place.
def mark (wanted : UInt8) (ended other : Bytes → Fault) (input : Bytes) : Except Fault Bytes :=
  match Json.skipBlanks input with
  | [] => .error (ended [])
  | byte :: rest => if byte = wanted then .ok rest else .error (other (byte :: rest))

def colon : Bytes → Except Fault Bytes := mark 0x3a (.upon .endInObject) (.upon .expectedColon)

def closing : Bytes → Except Fault Bytes := mark 0x7d (.after .endInObject) (.after .expectedValue)

def null (input : Bytes) : Except Fault Bytes :=
  match Json.skipBlanks input with
  | [] => .error (.upon .endInValue [])
  | byte :: rest =>
    if byte = 0x6e then Json.restOfWord [0x75, 0x6c, 0x6c] rest
    else .error (wrongKind "unit" (byte :: rest))

def member (input : Bytes) : Except Fault (Family × Bytes) := do
  let (family, rest) ← key input
  let rest ← colon rest
  let rest ← null rest
  let rest ← closing rest
  .ok (family, rest)

def value (input : Bytes) : Except Fault (Family × Bytes) :=
  match Json.skipBlanks input with
  | [] => .error (.upon .endInValue [])
  | byte :: rest =>
    if byte = 0x7b then member rest
    else if byte = 0x22 then name rest
    else .error (.upon .expectedValue (byte :: rest))

def read (text : Bytes) : Except Fault Family :=
  match value text with
  | .error fault => .error fault
  | .ok (family, rest) =>
    match Json.skipBlanks rest with
    | [] => .ok family
    | more => .error (.upon .trailing more)

end HostTools.FamilyJson
