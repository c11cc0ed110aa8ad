import HostTools.Shell.Builtin.Lookup

set_option autoImplicit false

namespace HostTools.Shell

structure Invocation where
  name : String
  args : List String
  functions : Bool := true
  searchPath : Option String := none
  -- Whether it is a command of the shell whose faults end it.
  special : Bool := false

namespace Invocation

-- Nothing if the word that says how the others are called is to do something itself.
def beyond : Bool → List String → Option (Bool × List String)
  | _, [] => none
  | standard, word :: rest =>
    match word.toList with
    | ['-', '-'] => if rest.isEmpty then none else some (standard, rest)
    | '-' :: letter :: letters =>
      if (letter :: letters).all (· = 'p') then beyond true rest else none
    | _ => some (standard, word :: rest)

def again (searchPath : Option String) : Nat → String → List String → Invocation
  | 0, name, args => { name, args, functions := false, searchPath }
  | fuel + 1, name, args =>
    match if name = "command" then beyond false args else none with
    | some (standard, next :: rest) =>
      again (if standard then some standardPath else searchPath) fuel next rest
    | _ => { name, args, functions := false, searchPath }

def ofWords (functions : List String) (name : String) (args : List String) : Invocation :=
  if functions.contains name then { name, args }
  else if name = "command" then again none (args.length + 1) name args
  else { name, args, special := Name.specialBuiltins.contains name }

def isBuiltin (functions : List String) (invocation : Invocation) : Bool :=
  Name.isBuiltin invocation.name && !(invocation.functions && functions.contains invocation.name)

def takesAssignments (functions : List String) (invocation : Invocation) : Bool :=
  invocation.isBuiltin functions && Name.assigning.contains invocation.name

def isExec (functions : List String) (invocation : Invocation) : Bool :=
  invocation.isBuiltin functions && invocation.name = "exec"

end Invocation

end HostTools.Shell
