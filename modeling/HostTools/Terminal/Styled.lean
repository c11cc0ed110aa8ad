import HostTools.Terminal.Plain

set_option autoImplicit false

namespace HostTools

inductive Emphasis where
  | none
  | heading
  | literal
  | failure
  | wrong
  | right
deriving DecidableEq, Repr

def Emphasis.start : Emphasis → String
  | .none => ""
  | .heading => "\x1b[1m\x1b[4m"
  | .literal => "\x1b[1m"
  | .failure => "\x1b[1m\x1b[31m"
  | .wrong => "\x1b[33m"
  | .right => "\x1b[32m"

abbrev Styled := List (Emphasis × String)

namespace Styled

def of (emphasis : Emphasis) (text : String) : Styled := [(emphasis, text)]

def plain (text : String) : Styled := .of .none text

def literal (text : String) : Styled := .of .literal text

def width (styled : Styled) : Nat := styled.foldl (fun total part => total + part.2.length) 0

def render (styled : Styled) : String :=
  String.join (styled.map fun (emphasis, text) =>
    if emphasis = .none then text else emphasis.start ++ text ++ "\x1b[0m")

-- Where styles are not wanted, the text is what a terminal would show of it, so sequences inside it
-- disappear too.
def write (wanted : Bool) (styled : Styled) : Bytes :=
  let octets := Bytes.ofText styled.render
  if wanted then octets else Terminal.plain octets

end Styled

end HostTools
