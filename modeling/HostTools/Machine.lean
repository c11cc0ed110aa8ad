import HostTools.Run.Runner
import HostTools.Shell.Eval

set_option autoImplicit false

namespace HostTools

structure Machine where
  disk : Disk
  -- In the caller's own order.
  inherited : List (String × String)

namespace Machine

def defaultPath : String := "/bin:/usr/bin"

def depth : Nat := 100000

def hasNul (text : String) : Bool := text.toList.contains (Char.ofNat 0)

def environment (machine : Machine) (command : Command) : List (String × String) :=
  match command.env with
  | some environment => environment.entries
  | none => machine.inherited

def refusesText (command : Command) : Bool :=
  command.argv.any hasNul || command.cwd.any hasNul ||
    (command.env.any fun environment =>
      environment.entries.any fun (name, value) => hasNul name || hasNul value)

def start (machine : Machine) (command : Command) : Except IoError Place :=
  match command.cwd with
  | none => .ok machine.disk.work
  | some directory =>
    match machine.disk.resolve machine.disk.work directory with
    | .error error => .error error
    | .ok place =>
      if machine.disk.isDirectory place then .ok place else .error .notDirectory

def collected (stream : Shell.Stream) (written : List Shell.Written) : Bytes :=
  let mine := written.reverse.filter (·.stream = stream)
  (mine.mergeSort fun a b => a.time ≤ b.time).flatMap fun one => Shell.toBytes one.text

-- The child runs to the end of what it has left behind, too.
def child (machine : Machine) (place : Place) (tool : String) (argv : List String)
    (environment : List (String × String)) : Finished :=
  let process : Shell.Process :=
    { name := tool
      directory := place
      descriptors := [(0, .nowhere), (1, .output), (2, .errors)]
      number := 1
      self := 1 }
  let environment := environment.map fun (name, value) => (Shell.ofText name, Shell.ofText value)
  let act : Shell.Act Shell.Ended := do
    let ended ← Shell.tool depth tool (argv.map Shell.ofText) environment
    Shell.runDeferred depth
    pure ended
  let (ended, state) := act.run.run { world := { disk := machine.disk }, process }
  let status := match ended with
    | .ok (.exited code) => WaitStatus.ofExit code
    | .ok (.killed signal) => WaitStatus.ofSignal signal
    | .error _ => WaitStatus.ofSignal 9
  { status
    stdout := collected .output state.world.written
    stderr := collected .errors state.world.written }

def spawn (machine : Machine) (command : Command) : Spawned :=
  if refusesText command then .refused .nulByte
  else
    let environment := machine.environment command
    match machine.start command with
    | .error error => .refused error
    | .ok place =>
      let searchPath := (environment.lookup "PATH").getD defaultPath
      match machine.disk.program place searchPath command.program with
      | .error error => .refused error
      | .ok tool => .finished (machine.child place tool command.argv environment)

def runner {m : Type → Type} [Monad m] (machine : Machine) (log : Logger m) : Runner m :=
  Run.runner (fun command => pure (machine.spawn command)) log

end Machine

end HostTools
