import HostTools.Text.Digits

set_option autoImplicit false

namespace HostTools

inductive Level where
  | error
  | warn
  | info
  | debug
  | trace
deriving DecidableEq, Repr

namespace Level

def name : Level → String
  | .error => "ERROR"
  | .warn => "WARN"
  | .info => "INFO"
  | .debug => "DEBUG"
  | .trace => "TRACE"

def rank : Level → Nat
  | .error => 1
  | .warn => 2
  | .info => 3
  | .debug => 4
  | .trace => 5

end Level

inductive FieldValue where
  | text (value : String)
  | number (value : Int)
  | bool (value : Bool)
deriving DecidableEq, Repr

def FieldValue.shown : FieldValue → String
  | .text value => value
  | .number value => Digits.signedText value
  | .bool true => "true"
  | .bool false => "false"

structure Event where
  level : Level
  speaker : String
  message : String
  fields : List (String × FieldValue)
  -- The fields that hold readings of a clock, which are not kept.
  timed : List String := []
deriving DecidableEq, Repr

def Event.names (event : Event) : List String :=
  "message" :: event.fields.map Prod.fst ++ event.timed

abbrev Logger (m : Type → Type) := Event → m Unit

end HostTools
