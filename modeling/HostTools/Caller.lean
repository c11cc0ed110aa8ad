import HostTools.Environment
import HostTools.Path

set_option autoImplicit false

namespace HostTools

structure Caller where
  environment : Environment
  -- The home directory that the system has for the user, if it has one.
  account : Option String
deriving DecidableEq

namespace Caller

-- A variable that is set to nothing names no home.
def home? (caller : Caller) : Option String :=
  match caller.environment.get? "HOME" with
  | some home => if home.isEmpty then caller.account else some home
  | none => caller.account

-- Without a home a tilde stays as it is.
def expand (caller : Caller) (path : String) : String :=
  match caller.home? with
  | some home => Path.expand home path
  | none => path

end Caller

end HostTools
