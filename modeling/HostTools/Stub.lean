import HostTools.Exec
import HostTools.Fetch.Basic
import HostTools.Run.Status

set_option autoImplicit false

namespace HostTools.Stub

structure Recording (α : Type) where
  calls : List α
  events : List Event

namespace Recording

def empty {α : Type} : Recording α := ⟨[], []⟩

end Recording

abbrev Recorder (α : Type) := StateM (Recording α)

def note {α : Type} (call : α) : Recorder α Unit :=
  modify fun recording => { recording with calls := recording.calls ++ [call] }

def log {α : Type} : Logger (Recorder α) := fun event =>
  modify fun recording => { recording with events := recording.events ++ [event] }

inductive Behavior where
  | succeed (stdout : Bytes)
  | fail (code : Int) (output : Bytes)
  | refuse (failure : RunFailure)
deriving DecidableEq, Repr

-- A failure carries the command's own arguments.
def Behavior.result (behavior : Behavior) (command : Command) : Except RunFailure Bytes :=
  match behavior with
  | .succeed stdout => .ok stdout
  | .fail code output => .error (.failed command.argv code output)
  | .refuse failure => .error failure

def answering (answer : Command → Except RunFailure Bytes) : Runner (Recorder Command) := fun command => do
  note command
  pure (answer command)

theorem answering_run (answer : Command → Except RunFailure Bytes) (command : Command) (before : Recording Command) :
    (answering answer command).run before = (answer command, { before with calls := before.calls ++ [command] }) := rfl

def runner (behavior : Behavior) : Runner (Recorder Command) := answering behavior.result

def attempt (response : Except FetchFailure Bytes) (request : Request) :
    Recorder Request (Except FetchFailure Bytes) := do
  note request
  pure response

end HostTools.Stub
