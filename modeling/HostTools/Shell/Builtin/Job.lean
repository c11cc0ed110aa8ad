import HostTools.Shell.Builtin.Basic
import HostTools.Shell.Signal
import HostTools.Shell.Variable

set_option autoImplicit false

namespace HostTools.Shell

def receive (signal : Nat) : Act Unit := do
  let current ← process
  if signal = 9 then throw (.signal 9)
  else if current.ignored.contains signal then pure ()
  else
    match current.traps.lookup signal with
    | some action =>
      if !action.isEmpty then
        change fun process => { process with pending := process.pending ++ [signal] }
    | none => if signal ≠ 0 && !Signal.harmless.contains signal then throw (.signal signal)

def receiveDoom : Act Unit := do
  let current ← process
  if !current.isCopy then
    let (mine, others) := (← world).doom.partition fun (number, _) => number = current.number
    if !mine.isEmpty then
      changeWorld ({ · with doom := others })
      mine.forM fun (_, signal) => receive signal

def endedBy (process clock : Nat) (world : World) : Option Ended :=
  ((world.ended.lookup process).filter fun (_, time) => time ≤ clock).map (·.1)

def strike (signal target : Nat) : Act Bool := do
  let clock := (← process).clock
  let before ← world
  let isDeferred := before.deferred.any fun deferred => deferred.process.self = target
  let isRunning := (before.ended.lookup target).any fun (_, time) => clock < time
  if !isDeferred && !isRunning then pure false
  else
    if signal ≠ 0 && !Signal.harmless.contains signal then
      changeWorld fun world =>
        { world with
          deferred := world.deferred.filter fun deferred => deferred.process.self ≠ target
          written := world.written.filter fun one => !(one.writer = target && clock < one.time)
          ended := assoc target (.killed signal, clock) world.ended }
    pure true

def send (signal target : Nat) : Act Bool := do
  let current ← process
  if target = current.self then
    receive signal
    pure true
  else if (← world).shells.contains target then
    changeWorld fun world => { world with doom := world.doom ++ [(target, signal)] }
    pure true
  else strike signal target

namespace Builtin

def trap (args : List String) : Act Nat := do
  match ← noOptions args with
  | [] =>
    let traps := (← process).traps.mergeSort fun a b => a.1 ≤ b.1
    put (String.join (traps.map fun (signal, action) =>
      "trap -- " ++ quoteText action ++ " " ++ Signal.name signal ++ "\n")) 0
  | first :: rest =>
    let (action, words) : Option String × List String :=
      if rest.isEmpty || ((Digits.read? 10 first.toList).any (· ≤ Signal.greatest)) then
        (none, first :: rest)
      else (if first = "-" then none else some first, rest)
    words.foldlM (fun status word => do
      if status ≠ 0 then pure status
      else
        match Signal.number? 0 word with
        | none =>
          writeError ("trap: " ++ word ++ ": bad trap\n")
          pure 1
        | some signal =>
          change fun process =>
            let others := process.traps.filter (·.1 ≠ signal)
            { process with
              traps := match action with
                | some text => (signal, text) :: others
                | none => others }
          pure 0) 0

def job (word : Option String) : Act Job := do
  let jobs := (← process).jobs
  let shown := word.getD "(null)"
  let pick (found : Option Job) (reason : String) : Act Job :=
    match found with
    | some job => pure job
    | none => fail reason
  match word.map String.toList with
  | none => pick jobs.head? "No current job"
  | some ('%' :: rest) =>
    match rest with
    | [] => pick jobs.head? "No current job"
    | ['+'] => pick jobs.head? "No current job"
    | ['%'] => pick jobs.head? "No current job"
    | ['-'] => pick (jobs[1]?) "No previous job"
    | ['?'] =>
      match jobs with
      | _ :: _ :: _ => fail (shown ++ ": ambiguous")
      | _ => pick jobs.head? ("No such job: " ++ shown)
    | _ =>
      pick ((Digits.read? 10 rest).bind fun number => jobs.find? (·.number = number))
        ("No such job: " ++ shown)
  | _ => fail ("No such job: " ++ shown)

def killUsage : String :=
  "Usage: kill [-s sigspec | -signum | -sigspec] [pid | job]... or\nkill -l [exitstatus]"

def killAll (signal : Nat) (words : List String) : Act Nat := do
  words.foldlM (fun status word => do
    let found : Bool ← (match word.toList with
      | '%' :: _ => do
        let _ ← job (some word)
        pure false
      | '-' :: rest => do
        let _ ← numberOf (String.ofList rest)
        pure false
      | _ => do send signal (← numberOf word))
    if found then pure status
    else
      complain "No such process\n"
      pure 1) 0

def kill (args : List String) : Act Nat := do
  let (signal, lists, words) : Option Nat × Bool × List String ← (match args with
    | [] => fail killUsage
    | first :: rest =>
      match first.toList with
      | '-' :: name =>
        match Signal.number? 1 (String.ofList name) with
        | some signal => pure (some signal, false, rest)
        | none => do
          let (given, words) ← options "ls:" args
          let (signal, lists) ← given.foldlM (fun (signal, lists) (letter, value) => do
            if letter = 'l' then pure (signal, true)
            else
              match Signal.number? 1 value with
              | some signal => pure (some signal, lists)
              | none => fail ("invalid signal number or name: " ++ value)) (none, false)
          pure (signal, lists, words)
      | _ => pure (none, false, args))
  match lists, signal, words with
  | false, _, [] => fail killUsage
  | false, signal, words => killAll (signal.getD 15) words
  | true, some _, _ :: _ => fail killUsage
  | true, _, [] =>
    let names := ((List.range (Signal.greatest + 1)).drop 1).map Signal.name
    put (String.join (("0" :: names).map (· ++ "\n"))) 0
  | true, none, word :: _ =>
    let number ← numberOf word
    let number := if 128 < number then number - 128 else number
    if 0 < number && number ≤ Signal.greatest then put (Signal.name number ++ "\n") 0
    else fail ("invalid signal number or exit status: " ++ word)

def stateText : Option Ended → String
  | none => "Running"
  | some (.exited 0) => "Done"
  | some (.exited code) => "Done(" ++ Digits.decimalText code ++ ")"
  | some (.killed signal) => Signal.obituary signal

-- A command that has ended is forgotten with its line.
def jobLine (pids groups : Bool) (job : Job) : Act String := do
  let current ← process
  let ended := endedBy job.process current.clock (← world)
  if groups then pure (Digits.decimalText job.process ++ "\n")
  else
    let mark := if current.jobs.head? = some job then "+ " else if current.jobs[1]? = some job then "- "
      else "  "
    let front := "[" ++ Digits.decimalText job.number ++ "] " ++ mark ++
      (if pids then Digits.decimalText job.process ++ " " else "") ++ stateText ended
    let pipes := if pids then "" else String.join (List.replicate (job.stages - 1) " | ")
    if ended.isSome then
      change fun process => { process with jobs := process.jobs.filter (· ≠ job) }
    pure (Setting.pad 32 front ++ " " ++ pipes ++ "\n")

def jobs (args : List String) : Act Nat := do
  let (given, words) ← options "lp" args
  let last := given.getLast?.map (·.1)
  let shown : List Job ← (match words with
    | [] => do pure (← process).jobs
    | _ => words.mapM fun word => job (some word))
  let lines ← shown.mapM (jobLine (last = some 'l') (last = some 'p'))
  put (String.join lines) 0

-- Without control of jobs, none can be brought to the foreground or sent to the background.
def bring (args : List String) : Act Nat := do
  let words ← noOptions args
  let _ ← job words.head?
  fail ("job " ++ words.headD "(null)" ++ " not created under job control")

end Builtin

end HostTools.Shell
