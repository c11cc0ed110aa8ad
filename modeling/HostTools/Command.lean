import HostTools.Environment
import HostTools.Path

set_option autoImplicit false

namespace HostTools

inductive CommandError where
  | empty
  | assignment (raw : String)
deriving DecidableEq, Repr

def CommandError.message : CommandError → String
  | .empty => "Command must name at least the program to run"
  | .assignment raw => "Invalid environment assignment (expected KEY=VALUE): " ++ raw

-- A missing directory or environment is the caller's. The arguments go to the program as they are:
-- no shell splits or unquotes them.
structure Command where
  program : String
  args : List String
  cwd : Option String
  env : Option Environment
deriving DecidableEq

namespace Command

def ofArgv : List String → Except CommandError Command
  | [] => .error .empty
  | program :: args => .ok ⟨program, args, none, none⟩

def argv (command : Command) : List String := command.program :: command.args

def within (command : Command) (directory : String) : Command :=
  { command with cwd := some directory }

def withEnvironment (command : Command) (environment : Environment) : Command :=
  { command with env := some environment }

def inheriting (command : Command) : Command := { command with env := none }

def same (a b : Command) : Bool :=
  a.argv = b.argv && Path.same? a.cwd b.cwd && decide (a.env = b.env)

end Command

def parseAssignment (raw : String) : Except CommandError (String × String) :=
  match Pieces.cut '=' raw.toList with
  | some (name, value) =>
    if name = [] then .error (.assignment raw) else .ok (String.ofList name, String.ofList value)
  | none => .error (.assignment raw)

structure EnvironmentChoice where
  clear : Bool
  assignments : List String
deriving DecidableEq, Repr

namespace EnvironmentChoice

def assign (environment : Environment) : List String → Except CommandError Environment
  | [] => .ok environment
  | raw :: rest =>
    match parseAssignment raw with
    | .ok (name, value) => assign (environment.insert name value) rest
    | .error error => .error error

-- Nothing where the caller's environment passes unchanged.
def build (choice : EnvironmentChoice) (caller : Environment) :
    Except CommandError (Option Environment) :=
  if !choice.clear && choice.assignments.isEmpty then .ok none
  else (assign (if choice.clear then .empty else caller) choice.assignments).map some

end EnvironmentChoice

end HostTools
