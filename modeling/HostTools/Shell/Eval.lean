import HostTools.Shell.Builtin.Declaration
import HostTools.Shell.Builtin.Directory
import HostTools.Shell.Builtin.Job
import HostTools.Shell.Builtin.Limit
import HostTools.Shell.Builtin.Output
import HostTools.Shell.Invocation
import HostTools.Shell.Parser
import HostTools.Shell.Redirect
import HostTools.Shell.Tool.Text

set_option autoImplicit false

namespace HostTools.Shell

-- The fuel of the functions below bounds how deeply scripts, words and programs nest; loops are
-- bounded apart from it.
def rounds : Nat := Nat.pow 2 40

structure Flow where
  -- Whether someone looks at the status, so that a failure does not end the shell.
  tested : Bool := false
  -- Whether the shell ends with the command.
  last : Bool := false

namespace Flow

def inside (flow : Flow) : Flow := { flow with last := false }

end Flow

def Process.hasTraps (process : Process) : Bool := process.traps.any fun (_, action) => !action.isEmpty

def Process.copied (process : Process) (self : Nat) : Process :=
  { process with
    self
    traps := process.traps.filter fun (_, action) => action.isEmpty
    pending := []
    savedStatus := none
    jobs := [] }

def leaveShell {α : Type} : Act α := do
  let current ← process
  setStatus (current.savedStatus.getD current.status)
  throw .exit

def settle (flow : Flow) (status : Nat) : Act Unit := do
  if (← process).has .stopOnFailure && !flow.tested && status ≠ 0 then leaveShell

def restoring (act : Act Unit) (restore : Act Unit) : Act Unit := do
  let left ← observe act
  restore
  relay left

def collect (number : Nat) : Act String := do
  let (mine, others) := (← world).written.partition fun one => one.stream = .pipe number
  changeWorld ({ · with written := others })
  let sorted := mine.reverse.mergeSort fun a b => a.time ≤ b.time
  pure (String.join (sorted.map (·.text)))

def report (ended : Ended) : Act Unit := do
  match ended with
  | .exited _ => pure ()
  | .killed signal =>
    if signal ≠ 2 && signal ≠ 13 then writeError (Signal.obituary signal ++ "\n")

def inChild (start : Process) (act : Act Ended) : Act Ended := do
  let saved ← process
  setProcess start
  let ended ← act
  let clock := (← process).clock
  setProcess { saved with clock := if saved.clock < clock then clock else saved.clock }
  pure ended

def plainName : Script → Option String
  | .simple _ _ (word :: _) _ => (bareText word).filter Name.isName
  | _ => none

def freeNumber (jobs : List Job) : Nat :=
  ((List.range (jobs.length + 1)).find? fun number => jobs.all (·.number ≠ number + 1)).getD 0 + 1

def loopCount (args : List String) : Act Nat := do
  match args with
  | [] => pure 1
  | word :: _ =>
    let count ← numberOf word
    if count = 0 then fail ("Illegal number: " ++ word) else pure count

def scriptPath (name : String) : Act String := do
  if name.toList.contains '/' then pure name
  else
    let directories := Pieces.split ':' ((← valueOf "PATH").getD "").toList
    let disk := (← world).disk
    let start := (← process).directory
    let found := directories.findSome? fun directory =>
      let path := if directory.isEmpty then name else String.ofList directory ++ "/" ++ name
      match disk.resolve start (toText path) with
      | .ok place =>
        match disk.entry? place with
        | some (.file _) => some path
        | _ => none
      | .error _ => none
    match found with
    | some path => pure path
    | none => fail (name ++ ": not found")

structure Start where
  settings : List Setting := []
  -- Whether a script is among the words.
  given : Bool := false
  words : List String := []
  text : String := ""

def startLetters (on : Bool) : List Char → List String → Start → Except String (Start × List String)
  | [], words, start => .ok (start, words)
  | 'c' :: rest, words, start => startLetters on rest words { start with given := true }
  | 'l' :: rest, words, start => startLetters on rest words start
  | 'o' :: rest, [], start =>
    let all := Setting.table.map (·.1)
    let text := if on then Setting.listing all else Setting.commands all
    startLetters on rest [] { start with text := start.text ++ text }
  | 'o' :: rest, name :: words, start =>
    match Setting.ofName? name with
    | some setting =>
      startLetters on rest words { start with settings := Setting.turn start.settings setting on }
    | none => .error ("Illegal option -o " ++ name)
  | letter :: rest, words, start =>
    match Setting.ofLetter? letter with
    | some setting =>
      startLetters on rest words { start with settings := Setting.turnLetter start.settings setting on }
    | none => .error ("Illegal option -" ++ String.singleton letter)

def startOptions : Nat → List String → Start → Except String Start
  | 0, words, start => .ok { start with words }
  | _ + 1, [], start => .ok start
  | fuel + 1, word :: words, start =>
    match word.toList with
    | ['-'] => .ok { start with words }
    | ['-', '-'] => .ok { start with words }
    | sign :: rest =>
      if sign = '-' || sign = '+' then
        match startLetters (sign = '-') rest words start with
        | .ok (start, words) => startOptions fuel words start
        | .error reason => .error reason
      else .ok { start with words := word :: words }
    | [] => .ok { start with words := word :: words }

def startBindings (environment : List (String × String)) (shown parent : String) :
    List (String × Variable) :=
  let imported := environment.filter fun (name, _) => Name.isName name
  let given : List (String × Variable) := imported.foldl
    (fun bindings (name, value) => assoc name ⟨some value, true, false⟩ bindings)
    [("PATH", ⟨some standardPath, false, false⟩)]
  let exported (name : String) : Bool := ((given.lookup name).map (·.exported)).getD false
  let own := [("IFS", " \t\n"), ("OPTIND", "1"), ("PS1", "# "), ("PS2", "> "), ("PS4", "+ "),
    ("PPID", parent)]
  let bindings := own.foldl
    (fun bindings (name, value) => assoc name ⟨some value, exported name, false⟩ bindings) given
  assoc "PWD" ⟨some shown, true, false⟩ bindings

def envForms : List Tool.OptionForm :=
  [⟨some 'i', some "ignore-environment", false⟩, ⟨some '0', some "null", false⟩,
    ⟨some 'u', some "unset", true⟩, ⟨some 'C', some "chdir", true⟩,
    ⟨none, some "default-signal", false⟩, ⟨none, some "ignore-signal", false⟩,
    ⟨none, some "block-signal", false⟩, ⟨none, some "list-signal-handling", false⟩,
    ⟨some 'v', some "debug", false⟩, ⟨some 'S', some "split-string", true⟩]

mutual

def capture : Nat → Script → Act String
  | 0, _ => throw .exhausted
  | fuel + 1, body => do
    if body.isNothing then pure ""
    else
      let number ← newPipe []
      let ended ← forked fuel do
        setDescriptor 1 (.pipe number)
        run fuel { last := true } body
      report ended
      change ({ · with substituted := ended.status })
      collect number

def forked : Nat → Act Unit → Act Ended
  | 0, _ => throw .exhausted
  | fuel + 1, act => do
    runDeferred fuel
    let number ← newProcess
    let ended ← inChild ((← process).copied number) do
      let left ← observe act
      let ended ← conclude fuel left
      runDeferred fuel
      pure ended
    receiveDoom
    pure ended

def conclude : Nat → Option Leave → Act Ended
  | 0, _ => throw .exhausted
  | fuel + 1, left => do
    match left with
    | some (.signal number) => pure (.killed number)
    | some (.replaced ended) => pure ended
    | some .exhausted => throw .exhausted
    | _ =>
      let current ← process
      match current.traps.lookup 0 with
      | none => pure (.exited (current.status % 256))
      | some action =>
        change fun process =>
          { process with
            traps := process.traps.filter (·.1 ≠ 0)
            savedStatus := some current.status
            running := none
            loops := 0 }
        match ← observe (source fuel false action.toList) with
        | some (.signal number) => pure (.killed number)
        | some (.replaced ended) => pure ended
        | some .exhausted => throw .exhausted
        | some .exit => do pure (.exited ((← process).status % 256))
        | some .failure => do pure (.exited ((← process).status % 256))
        | _ => pure (.exited (current.status % 256))

def runDeferred : Nat → Act Unit
  | 0 => throw .exhausted
  | fuel + 1 =>
    repeatWhile rounds do
      match (← world).deferred with
      | [] => pure false
      | next :: rest =>
        changeWorld ({ · with deferred := rest })
        let saved ← process
        setProcess next.process
        let left ← observe (run fuel { last := true } next.body)
        let ended ← conclude fuel left
        let clock := (← process).clock
        changeWorld fun world =>
          { world with ended := assoc next.process.self (ended, clock) world.ended }
        setProcess saved
        receiveDoom
        pure true

def answer : Nat → Act Unit
  | 0 => throw .exhausted
  | fuel + 1 => do
    let current ← process
    if !current.pending.isEmpty then
      let status := current.savedStatus.getD current.status
      change ({ · with savedStatus := some status, pending := [] })
      (current.pending.mergeSort (· ≤ ·)).eraseDups.forM fun signal => do
        match (← process).traps.lookup signal with
        | none => pure ()
        | some action =>
          match ← observe (source fuel false action.toList) with
          | none => setStatus status
          | some leave =>
            change ({ · with savedStatus := current.savedStatus })
            throw leave
      change ({ · with savedStatus := current.savedStatus })

def source : Nat → Bool → List Char → Act Unit
  | 0, _, _ => throw .exhausted
  | fuel + 1, tested, text => do
    iterate (fun (source : Source) => do
      let aliases := (← process).aliases
      match Parser.line { source with aliases } with
      | .error fault =>
        change ({ · with line := fault.line })
        fail ("Syntax error: " ++ fault.text)
      | .ok (none, _) => pure none
      | .ok (some line, rest) =>
        run fuel { tested } line.script
        pure (if line.last then none else some rest)) (text.length + 1) { rest := text }

-- The status is that of the last command, or success if there is none.
def sourceStatus : Nat → Bool → List Char → Act Nat
  | 0, _, _ => throw .exhausted
  | fuel + 1, tested, text => do
    setStatus 0
    source fuel tested text
    pure (← process).status

def round : Nat → Flow → Script → Act Bool
  | 0, _, _ => throw .exhausted
  | fuel + 1, flow, body => do
    match ← observe (run fuel flow body) with
    | none => pure true
    | some (.breaks count) => if count ≤ 1 then pure false else throw (.breaks (count - 1))
    | some (.continues count) => if count ≤ 1 then pure true else throw (.continues (count - 1))
    | some leave => throw leave

def run : Nat → Flow → Script → Act Unit
  | 0, _, _ => throw .exhausted
  | fuel + 1, flow, script => do
    if (← process).has .readOnly then return
    answer fuel
    match script with
    | .nothing => pure ()
    | .sequence first second =>
      run fuel flow.inside first
      run fuel flow second
    | .both first second =>
      run fuel { tested := true } first
      if (← process).status = 0 then run fuel flow second
    | .either first second =>
      run fuel { tested := true } first
      if (← process).status ≠ 0 then run fuel flow second
    | .negated body =>
      run fuel { tested := true } body
      setStatus (if (← process).status = 0 then 1 else 0)
    | .choice condition body otherwise =>
      run fuel { tested := true } condition
      if (← process).status = 0 then run fuel flow body
      else if otherwise.isNothing then setStatus 0
      else run fuel flow otherwise
    | .function name body =>
      change fun process =>
        { process with
          functions := assoc name body process.functions
          hashed := process.hashed.filter (·.1 ≠ name) }
      setStatus 0
    | .loop untilTrue condition body =>
      change fun process => { process with loops := process.loops + 1 }
      restoring (do
        setStatus 0
        repeatWhile rounds do
          let last := (← process).status
          let goes ← round fuel { tested := true } condition
          if !goes then
            setStatus last
            pure false
          else if ((← process).status = 0) != untilTrue then
            round fuel flow.inside body
          else
            setStatus last
            pure false)
        (change fun process => { process with loops := process.loops - 1 })
    | .each line name words body =>
      change ({ · with line })
      let items ← words.mapM (Expansion.fields (capture fuel) fuel)
      change fun process => { process with loops := process.loops + 1 }
      restoring (do
        setStatus 0
        iterate (fun (items : List String) => do
          match items with
          | [] => pure none
          | item :: rest =>
            assign name item false
            if ← round fuel flow.inside body then pure (some rest) else pure none)
          (items.flatten.length + 1) items.flatten)
        (change fun process => { process with loops := process.loops - 1 })
    | .select line word branches =>
      change ({ · with line })
      let subject ← Expansion.text (capture fuel) fuel {} word
      let chosen ← branches.findM? fun (patterns, _) =>
        patterns.anyM fun pattern => Expansion.fits (capture fuel) fuel pattern subject
      match chosen with
      | some (_, body) =>
        if body.isNothing then setStatus 0 else run fuel flow body
      | none => setStatus 0
    | .redirected line body redirections =>
      change ({ · with line })
      let prepared ← prepareAll (capture fuel) fuel redirections
      let descriptors := (← process).descriptors
      restoring (do
        if ← applyAll (capture fuel) fuel prepared then run fuel flow.inside body
        else
          setStatus 2
          settle flow 2)
        (change ({ · with descriptors }))
    | .apart line body redirections =>
      change ({ · with line })
      let prepared ← prepareAll (capture fuel) fuel redirections
      let inside (flow : Flow) : Act Unit := do
        if ← applyAll (capture fuel) fuel prepared then run fuel { flow with last := true } body
        else
          setStatus 2
          throw .failure
      if flow.last && !(← process).hasTraps then
        inside flow
        throw .exit
      else
        let ended ← forked fuel (inside flow)
        report ended
        finish fuel flow ended.status
    | .background body =>
      defer fuel body
      finish fuel flow 0
    | .pipeline stages =>
      stages.forM fun stage => do
        match plainName stage with
        | some name =>
          let _ ← meaning name true none
        | none => pure ()
      let clock := (← process).clock
      let final : Option Nat × Ended × Nat ← stages.dropLast.foldlM
        (fun (input, _, latest) stage => do
          change ({ · with clock })
          let number ← newPipe []
          let ended ← forked fuel do
            match input with
            | some pipe => setDescriptor 0 (.pipe pipe)
            | none => pure ()
            setDescriptor 1 (.pipe number)
            run fuel { flow with last := true } stage
          report ended
          let text ← collect number
          changeWorld fun world => { world with waiting := assoc number text.toList world.waiting }
          let clock := (← process).clock
          pure (some number, ended, if latest < clock then clock else latest))
        (none, .exited 0, clock)
      let (input, _, latest) := final
      change ({ · with clock })
      match stages.getLast? with
      | none => pure ()
      | some stage =>
        let ended ← forked fuel do
          match input with
          | some pipe => setDescriptor 0 (.pipe pipe)
          | none => pure ()
          run fuel { flow with last := true } stage
        change fun process =>
          { process with clock := if process.clock < latest then latest else process.clock }
        report ended
        finish fuel flow ended.status
    | .simple line assignments words redirections =>
      change ({ · with line, substituted := 0 })
      simple fuel flow assignments words redirections
      finish fuel flow (← process).status
    answer fuel

def finish : Nat → Flow → Nat → Act Unit
  | 0, _, _ => throw .exhausted
  | fuel + 1, flow, status => do
    setStatus status
    answer fuel
    settle flow status

def defer : Nat → Script → Act Unit
  | 0, _ => throw .exhausted
  | _ + 1, body => do
    let number ← newProcess
    let current ← process
    let world ← world
    let kept := current.jobs.filter fun job =>
      !(job.waited && (endedBy job.process current.clock world).isSome)
    let stages := match body with
      | .pipeline stages => stages.length
      | _ => 1
    let child := current.copied number
    let child :=
      { child with
        descriptors := assoc 0 .nowhere child.descriptors
        ignored := 2 :: 3 :: child.ignored }
    changeWorld fun world => { world with deferred := world.deferred ++ [⟨child, body⟩] }
    change ({ · with
      jobs := { number := freeNumber kept, process := number, stages } :: kept
      background := some number })

-- Whether a word may assign hangs on those before it.
def commandWords : Nat → List Word → Act (List String)
  | 0, _ => throw .exhausted
  | fuel + 1, words =>
    words.foldlM (fun found word => do
      let functions := (← process).functions.map (·.1)
      let assigns := match found with
        | name :: args => (Invocation.ofWords functions name args).takesAssignments functions
        | [] => false
      let more ← (if assigns then Expansion.argument (capture fuel) fuel word
        else Expansion.fields (capture fuel) fuel word)
      pure (found ++ more)) []

def simple : Nat → Flow → List (String × Word) → List Word → List Redirection → Act Unit
  | 0, _, _, _, _ => throw .exhausted
  | fuel + 1, flow, assignments, words, redirections => do
    let found ← commandWords fuel words
    let functions := (← process).functions.map (·.1)
    let invocation : Option Invocation := match found with
      | name :: args => some (Invocation.ofWords functions name args)
      | [] => none
    let isExec := invocation.any (Invocation.isExec functions)
    let special := invocation.any (·.special)
    let isLocal := invocation.isSome && !special
    let prepared ← prepareAll (capture fuel) fuel redirections
    let before := (← process).descriptors
    let frames := (← process).frames.length
    if isLocal then pushFrame
    restoring (do
      if !(← applyAll (capture fuel) fuel prepared) then
        setStatus 2
        if special then throw .failure
      else
        let values ← assignments.mapM fun (name, word) => do
          let value ← Expansion.text (capture fuel) fuel { isValue := true } word
          if isLocal then assignInFrame name value true
          else assign name value (isExec && 1 < found.length)
          pure (name ++ "=" ++ value)
        if (← process).has .trace then trace fuel before (values ++ found)
        match invocation with
        | none => setStatus (← process).substituted
        | some invocation => invoke fuel flow invocation)
      (do
        if !isExec then change ({ · with descriptors := before })
        if frames < (← process).frames.length then popFrame)

-- The words go to the error stream from before the command's redirections.
def trace : Nat → List (Nat × Stream) → List String → Act Unit
  | 0, _, _ => throw .exhausted
  | fuel + 1, before, words => do
    let current ← process
    let mark ← Expansion.text (capture fuel) fuel { quoted := true }
      (Parser.document ((← valueOf "PS4").getD ""))
    setProcess { ← process with descriptors := before }
    writeError (mark ++ " ".intercalate words ++ "\n")
    change ({ · with descriptors := current.descriptors })

def invoke : Nat → Flow → Invocation → Act Unit
  | 0, _, _ => throw .exhausted
  | fuel + 1, flow, invocation => do
    let name := invocation.name
    match ← meaning name invocation.functions invocation.searchPath with
    | .missing error =>
      complain (name ++ ": " ++ missingReason error)
      setStatus 127
    | .function body =>
      let before ← process
      change fun process =>
        { process with
          args := invocation.args
          depth := process.depth + 1
          loops := 0
          optionIndex := 1
          optionOffset := none }
      let left ← observe (run fuel flow.inside body)
      change ({ · with
        args := before.args
        depth := before.depth
        loops := before.loops
        optionIndex := before.optionIndex
        optionOffset := before.optionOffset })
      match left with
      | some .returns => pure ()
      | left => relay left
    | .builtin =>
      let running := (← process).running
      change ({ · with running := some name })
      let left ← observe do setStatus (← builtin fuel flow name invocation.args)
      change ({ · with running })
      match left with
      | some .failure => if invocation.special then throw .failure
      | left => relay left
    | .program path => external fuel flow name path invocation.args

-- If the shell ends with the program, the program takes its place.
def external : Nat → Flow → String → Option String → List String → Act Unit
  | 0, _, _, _, _ => throw .exhausted
  | fuel + 1, flow, name, path, args => do
    let current ← process
    let replaces := flow.last && !current.hasTraps
    match (← world).disk.tool current.directory (toText (path.getD name)) with
    | .error error =>
      complain (name ++ ": " ++ missingReason error)
      let missing := error = .noSuchFile || error = .notDirectory || error = .nameTooLong
      setStatus (if missing then 127 else 126)
      if replaces then throw .exit
    | .ok found =>
      let environment := exported current
      let start := current.copied (← newProcess)
      if replaces then
        runDeferred fuel
        throw (.replaced (← tool fuel found (name :: args) environment))
      else
        runDeferred fuel
        let ended ← inChild start (tool fuel found (name :: args) environment)
        receiveDoom
        report ended
        setStatus ended.status

def become : Nat → String → List String → Act Nat
  | 0, _, _ => throw .exhausted
  | fuel + 1, name, args => do
    let current ← process
    let disk := (← world).disk
    let located : Except IoError String :=
      if name.toList.contains '/' then .ok name
      else
        searchProgram disk current.directory name .noSuchFile
          (Pieces.split ':' (((current.bindings.lookup "PATH").bind (·.value)).getD "").toList)
    match located.bind fun path => disk.tool current.directory (toText path) with
    | .error error =>
      complain (name ++ ": " ++ missingReason error)
      let missing := error = .noSuchFile || error = .notDirectory || error = .nameTooLong
      setStatus (if missing then 127 else 126)
      throw .exit
    | .ok found =>
      runDeferred fuel
      change fun process => { process with traps := process.traps.filter fun (_, action) => action.isEmpty }
      throw (.replaced (← tool fuel found (name :: args) (exported current)))

def waitFor : Nat → List String → Act Nat
  | 0, _ => throw .exhausted
  | fuel + 1, args => do
    let words ← Builtin.noOptions args
    let waited (targets : List Nat) : Act Unit := do
      let ended := (← world).ended
      change fun process =>
        { process with
          jobs := process.jobs.map fun job =>
            if targets.contains job.process then { job with waited := true } else job
          clock := targets.foldl (fun clock target =>
            match ended.lookup target with
            | some (_, time) => if clock < time then time else clock
            | none => clock) process.clock }
    if words.isEmpty then
      runDeferred fuel
      waited ((← process).jobs.map (·.process))
      pure 0
    else
      words.foldlM (fun status word => do
        let job : Option Job ← (if word.startsWith "%" then some <$> Builtin.job (some word)
          else do
            let number ← numberOf word
            pure ((← process).jobs.find? (·.process = number)))
        match job with
        | none => pure status
        | some job =>
          runDeferred fuel
          let clock := (← process).clock
          match (← world).ended.lookup job.process with
          | none => pure status
          | some (ended, time) =>
            if clock ≤ time then report ended
            waited [job.process]
            pure ended.status) 127

def builtin : Nat → Flow → String → List String → Act Nat
  | 0, _, _, _ => throw .exhausted
  | fuel + 1, flow, name, args => do
    match name with
    | "true" => pure 0
    | ":" => pure 0
    | "false" => pure 1
    | "echo" => Builtin.echo args
    | "printf" => Builtin.printf args
    | "test" => Builtin.test name args
    | "[" => Builtin.test name args
    | "cd" => Builtin.cd args
    | "chdir" => Builtin.cd args
    | "pwd" => Builtin.pwd args
    | "read" => Builtin.read args
    | "export" => Builtin.declare name true args
    | "readonly" => Builtin.declare name false args
    | "local" => Builtin.local_ args
    | "unset" => Builtin.unset args
    | "set" => Builtin.set args
    | "shift" => Builtin.shift args
    | "getopts" => Builtin.getopts args
    | "alias" => Builtin.defineAlias args
    | "unalias" => Builtin.unalias args
    | "hash" => Builtin.hash args
    | "type" => Builtin.type args
    | "command" => Builtin.command args
    | "trap" => Builtin.trap args
    | "kill" => Builtin.kill args
    | "jobs" => Builtin.jobs args
    | "fg" => Builtin.bring args
    | "bg" => Builtin.bring args
    | "wait" => waitFor fuel args
    | "umask" => Builtin.umask args
    | "ulimit" => Builtin.ulimit args
    | "times" => Builtin.times
    | "eval" =>
      if args.isEmpty then pure 0 else sourceStatus fuel flow.tested (" ".intercalate args).toList
    | "." => do
      match ← Builtin.noOptions args with
      | [] => pure 0
      | word :: _ =>
        let path ← scriptPath word
        match ← Tool.contentAt path with
        | .error error =>
          if error = .isDirectory then pure 0
          else fail ("cannot open " ++ path ++ ": " ++ Opening.shownReason "No such file" error)
        | .ok text =>
          change ({ · with running := some path })
          match ← observe do setStatus (← sourceStatus fuel false text) with
          | none => pure (← process).status
          | some .returns => pure (← process).status
          | some leave => throw leave
    | "exec" =>
      match args with
      | [] => pure 0
      | name :: rest => become fuel name rest
    | "exit" => do
      match args with
      | [] => leaveShell
      | word :: _ =>
        setStatus (← numberOf word)
        throw .exit
    | "return" => do
      match args with
      | [] => throw .returns
      | word :: _ =>
        setStatus (← numberOf word)
        throw .returns
    | "break" => do
      let count ← loopCount args
      let loops := (← process).loops
      if loops = 0 then pure 0
      else
        setStatus 0
        throw (.breaks (min count loops))
    | "continue" => do
      let count ← loopCount args
      let loops := (← process).loops
      if loops = 0 then pure 0
      else
        setStatus 0
        throw (.continues (min count loops))
    | _ => pure 0

def tool : Nat → String → List String → List (String × String) → Act Ended
  | 0, _, _, _ => throw .exhausted
  | fuel + 1, found, argv, environment => do
    let name := argv.headD found
    let args := argv.drop 1
    match found with
    | "true" => pure (.exited 0)
    | "false" => pure (.exited 1)
    | "sleep" => .exited <$> Tool.sleep name args
    | "echo" => .exited <$> Tool.echo name args
    | "printf" => .exited <$> Tool.printf name args
    | "cat" => .exited <$> Tool.cat name args
    | "rm" => .exited <$> Tool.rm name args
    | "pwd" => .exited <$> Tool.pwd name environment args
    | "test" => .exited <$> Tool.test name false args
    | "[" => .exited <$> Tool.test name true args
    | "env" => env fuel name environment args
    | _ => shell fuel argv environment

def env : Nat → String → List (String × String) → List String → Act Ended
  | 0, _, _, _ => throw .exhausted
  | fuel + 1, name, environment, args => do
    match Tool.arguments envForms false args with
    | .error reason => .exited <$> Tool.refuse name reason 125
    | .ok found =>
      let (bare, words) := match found.words with
        | "-" :: rest => (true, rest)
        | words => (false, words)
      let removed := (found.options.filter fun given => given.form.key = "u").map (·.value)
      match removed.find? fun name => name.isEmpty || name.toList.contains '=' with
      | some wrong =>
        Tool.complain name ("cannot unset " ++ Quoting.inMessage wrong ++ ": Invalid argument")
        pure (.exited 125)
      | none =>
        let base := if bare || found.has "i" then [] else environment
        let base := base.filter fun (name, _) => !removed.contains name
        let isAssignment (word : String) : Bool := word.toList.contains '='
        let environment := (words.takeWhile isAssignment).foldl (fun environment word =>
          match Pieces.cut '=' word.toList with
          | some (key, value) => assoc (String.ofList key) (String.ofList value) environment
          | none => environment) base
        let directory := (found.options.reverse.find? fun given => given.form.key = "C").map (·.value)
        match words.dropWhile isAssignment with
        | [] =>
          if directory.isSome then
            .exited <$> Tool.refuse name "must specify command with --chdir (-C)" 125
          else
            let ending := if found.has "0" then String.singleton (Char.ofNat 0) else "\n"
            let lines := environment.map fun (name, value) => name ++ "=" ++ value ++ ending
            .exited <$> Tool.put name (String.join lines) 125
        | word :: rest =>
          if found.has "0" then
            .exited <$> Tool.refuse name "cannot specify --null (-0) with command" 125
          else
            let entered : Except (String × IoError) Unit ← (match directory with
              | none => pure (.ok ())
              | some path => do
                match ← resolve path with
                | .error error => pure (.error (path, error))
                | .ok place =>
                  if (← world).disk.isDirectory place then
                    change ({ · with directory := place })
                    pure (.ok ())
                  else pure (.error (path, .notDirectory)))
            match entered with
            | .error (path, error) =>
              Tool.complain name
                ("cannot change directory to " ++ Quoting.inMessage path ++ ": " ++ reason error)
              pure (.exited 125)
            | .ok _ =>
              let searchPath := (environment.lookup "PATH").getD "/bin:/usr/bin"
              match (← world).disk.program (← process).directory (toText searchPath) (toText word) with
              | .ok found => tool fuel found (word :: rest) environment
              | .error error =>
                Tool.complain name (Quoting.inMessage word ++ ": " ++ reason error)
                if error = .noSuchFile && word.toList.any (fun char => char = ' ' || char = '\t') then
                  Tool.complain name "use -[v]S to pass options in shebang lines"
                pure (.exited (if error = .noSuchFile then 127 else 126))

def shell : Nat → List String → List (String × String) → Act Ended
  | 0, _, _ => throw .exhausted
  | fuel + 1, argv, environment => do
    let outer ← process
    let disk := (← world).disk
    let name := argv.headD "sh"
    let place := outer.directory
    let physical := ofText (placeText place)
    let shown := match environment.lookup "PWD" with
      | some text =>
        match disk.resolve [] (toText text) with
        | .ok found => if text.startsWith "/" && found = place then text else physical
        | .error _ => physical
      | none => physical
    let bindings := startBindings environment shown (Digits.decimalText outer.number)
    let start := startOptions (argv.length + 1) (argv.drop 1) {}
    let number ← newProcess
    setProcess
      { name
        bindings
        directory := place
        shown
        descriptors := outer.descriptors
        line := 0
        ignored := outer.ignored ++
          (outer.traps.filter fun (_, action) => action.isEmpty).map (·.1)
        number
        self := number
        clock := outer.clock }
    changeWorld fun world => { world with shells := number :: world.shells }
    let left ← observe do
      match start with
      | .error reason => fail reason
      | .ok start =>
        if !start.text.isEmpty then
          let _ ← write 1 start.text
        let fromInput := start.settings.contains .fromInput
        match start.words with
        | [] => if start.given then fail "-c requires an argument"
        | _ => pure ()
        let settings := if start.settings.contains .interactive
          then Setting.turn start.settings .jobControl true else start.settings
        if start.given then
          let words := start.words.drop 1
          change ({ · with name := words.headD name, args := words.drop 1 })
          Builtin.adopt settings
          change ({ · with line := 1 })
          source fuel false (start.words.headD "").toList
          if fromInput then
            let text ← available 0
            leaveUnread 0 []
            source fuel false text
        else if fromInput || start.words.isEmpty then
          let settings := if start.words.isEmpty then Setting.turn settings .fromInput true else settings
          change ({ · with args := start.words })
          Builtin.adopt settings
          let text ← available 0
          leaveUnread 0 []
          source fuel false text
        else
          let path := start.words.headD ""
          match ← Tool.contentAt path with
          | .error error =>
            if error = .isDirectory then pure ()
            else fail ("cannot open " ++ path ++ ": " ++ Opening.shownReason "No such file" error)
          | .ok text =>
            change ({ · with name := path, args := start.words.drop 1 })
            Builtin.adopt settings
            source fuel false text
    let ended ← conclude fuel left
    changeWorld fun world => { world with shells := world.shells.erase number }
    let clock := (← process).clock
    setProcess { outer with clock := if outer.clock < clock then clock else outer.clock }
    pure ended

end

end HostTools.Shell
