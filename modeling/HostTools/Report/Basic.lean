import HostTools.Address.Basic

set_option autoImplicit false

namespace HostTools

inductive Report where
  | exec (success : Bool) (code : Int) (output : Bytes)
  | fetch (url : String) (body : Option Bytes)
  | addresses (results : List (String × Option Family))
deriving DecidableEq, Repr

namespace Report

def failure : Int := 1

-- The code of a command passes where it is one of a process; any other code but 0 becomes 1.
def exitCode : Report → Int
  | .exec _ code _ => if 0 ≤ code ∧ code ≤ 255 then code else failure
  | .fetch _ body => if body.isSome then 0 else failure
  | .addresses results => if results.all fun result => result.2.isSome then 0 else failure

def ofAddresses (texts : List String) : Report :=
  .addresses (texts.map fun text => (text, Address.classify text))

end Report

end HostTools
