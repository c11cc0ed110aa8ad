import HostTools.Text.Digits
import HostTools.Text.Pieces

set_option autoImplicit false

namespace HostTools.Causes

def oneLine (texts : List String) : String := Pieces.join ": " texts

def indented (head indent text : String) : String :=
  head ++ Pieces.join ("\n" ++ indent) ((Pieces.split '\n' text.toList).map String.ofList)

def numbered (n : Nat) : String :=
  let digits := Digits.decimal n
  String.ofList (List.replicate (5 - digits.length) ' ' ++ digits ++ [':', ' '])

def listFrom : Nat → List String → List String
  | _, [] => []
  | n, cause :: more => indented (numbered n) "       " cause :: listFrom (n + 1) more

def report : List String → String
  | [] => ""
  | [message] => message
  | [message, cause] => message ++ "\n\nCaused by:\n" ++ indented "    " "    " cause
  | message :: causes => message ++ "\n\nCaused by:\n" ++ Pieces.join "\n" (listFrom 0 causes)

end HostTools.Causes
