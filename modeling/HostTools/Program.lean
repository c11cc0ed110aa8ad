import HostTools.Arguments.Help
import HostTools.Arguments.Parser
import HostTools.Log.Filter
import HostTools.Log.Line
import HostTools.Machine
import HostTools.Network
import HostTools.Report.Printer

set_option autoImplicit false

namespace HostTools

structure Ending where
  code : Nat
  out : Bytes
  err : Bytes
deriving DecidableEq, Repr

namespace Ending

def said (code : Nat) (out err : String) : Ending := ⟨code, Bytes.ofText out, Bytes.ofText err⟩

end Ending

namespace Program

def version : String := "0.1.0"

def started : Event :=
  { level := .debug, speaker := "hostkit", message := "Hostkit CLI v" ++ version, fields := [] }

def isSet (environment : Environment) (name : String) : Bool :=
  match environment.get? name with
  | some value => value ≠ ""
  | none => false

def wantsStyles (environment : Environment) : Bool :=
  isSet environment "CLICOLOR_FORCE" && !isSet environment "NO_COLOR"

def stopped (environment : Environment) (stop : Stop) : Ending :=
  let write := Styled.write (wantsStyles environment)
  match stop with
  | .help topic => ⟨0, write (topic.manual environment), []⟩
  | .version => .said 0 ("hostkit " ++ version ++ "\n") ""
  | .nothing => ⟨2, [], write (Topic.program.manual environment)⟩
  | .refused refusal => ⟨2, [], write refusal.report⟩

def wantsColor (environment : Environment) : Bool :=
  match environment.get? "CLICOLOR_FORCE" with
  | some value => value ≠ "0"
  | none => false

def reported (environment : Environment) (format : OutputFormat) (report : Report) : Ending :=
  let outputs := match format with
    | .text => (report.writeText (wantsColor environment) .unlimited).1
    | .json => { Outputs.unlimited with out := (report.writeJson .unlimited).1 }
  ⟨report.exitCode.toNat, outputs.out.content, outputs.err.content⟩

def failed (error : ExecError) : Ending := .said 1 "" ("Error: " ++ Causes.report error.chain ++ "\n")

def perform {m : Type → Type} [Monad m] (caller : Caller) (run : Runner m)
    (attempt : Request → m (Except FetchFailure Bytes)) (log : Logger m) :
    Action → m (Except ExecError Report)
  | .exec order => order.exec caller run
  | .fetch order => do
    let report ← order.fetch caller attempt log
    pure (.ok report)
  | .addresses texts => pure (.ok (.ofAddresses texts))

def filtered {m : Type → Type} [Monad m] (filter : LogFilter) (log : Logger m) : Logger m :=
  fun event => if filter.passes event then log event else pure ()

def invoke (machine : Machine) (network : Network) (caller : Caller) (invocation : Invocation) : SessionM Ending := do
  let log := filtered (.ofVariable (caller.environment.get? "RUST_LOG")) Session.log
  log started
  let attempt := Fetch.tryFetch (network.client machine.disk) log
  let result ← perform caller (machine.runner log) attempt log invocation.action
  pure (match result with
    | .ok report => reported caller.environment invocation.format report
    | .error error => failed error)

-- Log lines come before the report.
def run (disk : Disk) (network : Network) (caller : Caller) (args : List String) : Ending × List Sent :=
  match Arguments.parse caller.environment args with
  | .error stop => (stopped caller.environment stop, [])
  | .ok invocation =>
    let machine : Machine := ⟨disk, caller.environment.entries⟩
    let (ending, session) := (invoke machine network caller invocation).run .empty
    let lines := session.events.flatMap (Event.line (LogFormat.ofName invocation.logFormat))
    ({ ending with err := lines ++ ending.err }, session.sent)

end Program

end HostTools
