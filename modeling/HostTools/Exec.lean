import HostTools.Caller
import HostTools.Causes
import HostTools.Command
import HostTools.Report.Basic
import HostTools.Run.Failure

set_option autoImplicit false

namespace HostTools

abbrev Runner (m : Type → Type) := Command → m (Except RunFailure Bytes)

inductive ExecError where
  | command (error : CommandError)
  | run (program : String) (failure : RunFailure)
deriving DecidableEq, Repr

namespace ExecError

-- Outermost first.
def chain : ExecError → List String
  | .command error => [error.message]
  | .run program failure =>
    ("Failed to run " ++ program) :: failure.message :: (failure.cause?.map IoError.message).toList

end ExecError

structure ExecOrder where
  argv : List String
  cwd : Option String
  environment : EnvironmentChoice
deriving DecidableEq, Repr

namespace ExecOrder

def command (order : ExecOrder) (caller : Caller) : Except CommandError Command := do
  let command ← Command.ofArgv order.argv
  let command :=
    match order.cwd with
    | some directory => command.within (caller.expand directory)
    | none => command
  match ← order.environment.build caller.environment with
  | some environment => .ok (command.withEnvironment environment)
  | none => .ok command

-- A command that fails is a report; only a command that could not be run is an error.
def outcome (command : Command) : Except RunFailure Bytes → Except ExecError Report
  | .ok output => .ok (.exec true 0 output)
  | .error (.failed _ code output) => .ok (.exec false code output)
  | .error failure => .error (.run command.program failure)

def exec {m : Type → Type} [Monad m] (order : ExecOrder) (caller : Caller) (run : Runner m) :
    m (Except ExecError Report) :=
  match order.command caller with
  | .error error => pure (.error (.command error))
  | .ok command => do
    let result ← run command
    pure (outcome command result)

end ExecOrder

end HostTools
