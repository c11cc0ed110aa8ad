import HostTools.Exec
import HostTools.Log.Event
import HostTools.Run.Status

set_option autoImplicit false

namespace HostTools

inductive Spawned where
  | refused (cause : IoError)
  | lost (cause : IoError)
  | finished (child : Finished)
deriving DecidableEq, Repr

namespace Run

def speaker : String := "hostkit_infra_system::subprocess_runner"

def shownDirectory : Option String → String
  | some directory => "Some(" ++ Quoted.text directory ++ ")"
  | none => "None"

def starting (command : Command) : Event :=
  { level := .info
    speaker
    message := "Starting subprocess"
    fields :=
      [("program", .text command.program), ("args", .text (Quoted.list command.args)),
        ("cwd", .text (shownDirectory command.cwd)), ("inherit_env", .bool command.env.isNone)] }

def completed (command : Command) (child : Finished) : Event :=
  { level := .info
    speaker
    message := "Subprocess completed"
    fields :=
      [("program", .text command.program), ("exit_code", .number child.status.exitCode)]
    timed := ["duration_ms"] }

def captured (child : Finished) : Event :=
  { level := .debug
    speaker
    message := "Subprocess output captured"
    fields :=
      [("stdout_bytes", .number child.stdout.length),
        ("stderr_bytes", .number child.stderr.length)] }

def runner {m : Type → Type} [Monad m] (spawn : Command → m Spawned) (log : Logger m) : Runner m :=
  fun command => do
    log (starting command)
    match ← spawn command with
    | .refused cause => pure (.error (.spawn command.program cause))
    | .lost cause => pure (.error (.wait cause))
    | .finished child =>
      log (completed command child)
      log (captured child)
      pure (child.result command)

end Run

end HostTools
