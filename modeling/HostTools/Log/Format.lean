set_option autoImplicit false

namespace HostTools

inductive LogFormat where
  | pretty
  | json
deriving DecidableEq, Repr

def LogFormat.ofName (name : String) : LogFormat :=
  if name.toList.map Char.toLower = ['j', 's', 'o', 'n'] then .json else .pretty

end HostTools
