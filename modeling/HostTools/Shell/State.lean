import HostTools.Disk
import HostTools.Shell.Name
import HostTools.Shell.Script
import HostTools.Shell.Setting
import HostTools.Text.Digits
import HostTools.Text.Utf8

set_option autoImplicit false

namespace HostTools.Shell

-- One character for each octet.
def ofText (text : String) : String := Bytes.asciiText (Bytes.ofText text)

def toBytes (text : String) : Bytes := text.toList.map fun char => UInt8.ofNat char.toNat

def toText (text : String) : String := Utf8.lossy (toBytes text)

inductive Stream where
  | nowhere
  | full
  | output
  | errors
  | pipe (number : Nat)
  | directory
  | file (place : Place)
deriving DecidableEq, Repr

-- Every process has a clock of its own, so that what processes write at the same place can be put
-- in order.
structure Written where
  stream : Stream
  time : Nat
  writer : Nat
  text : String
deriving DecidableEq, Repr

inductive Ended where
  | exited (code : Nat)
  | killed (signal : Nat)
deriving DecidableEq, Repr

def Ended.status : Ended → Nat
  | .exited code => code
  | .killed signal => 128 + signal

structure Variable where
  value : Option String
  exported : Bool
  fixed : Bool
deriving DecidableEq, Repr

structure Job where
  number : Nat
  process : Nat
  stages : Nat := 1
  waited : Bool := false
deriving DecidableEq, Repr

structure Hashed where
  path : String
  -- Whether the working directory has changed since the program was found.
  stale : Bool := false
deriving DecidableEq, Repr

-- Variables with what they were before a function made them its own, and the settings.
structure Frame where
  bindings : List (String × Option Variable) := []
  settings : Option (List Setting) := none
deriving DecidableEq, Repr

structure Process where
  name : String
  args : List String := []
  bindings : List (String × Variable) := []
  directory : Place
  -- The working directory by the names that led to it.
  shown : String := ""
  descriptors : List (Nat × Stream)
  functions : List (String × Script) := []
  aliases : List (String × String) := []
  hashed : List (String × Hashed) := []
  settings : List Setting := []
  status : Nat := 0
  -- The status of the last command whose output became part of a word.
  substituted : Nat := 0
  line : Nat := 1
  running : Option String := none
  -- Number 0 is the end of the shell.
  traps : List (Nat × String) := []
  pending : List Nat := []
  -- The signals that the one who started the shell has made it ignore.
  ignored : List Nat := []
  -- The status from before the trap that is running.
  savedStatus : Option Nat := none
  -- The number that the shell has for itself, and that of the process, which may be a copy of the
  -- shell.
  number : Nat
  self : Nat
  depth : Nat := 0
  loops : Nat := 0
  frames : List Frame := []
  -- The argument that is looked at for options next, and the place in the one before.
  optionIndex : Nat := 1
  optionOffset : Option Nat := none
  -- The last first.
  jobs : List Job := []
  background : Option Nat := none
  mask : Nat := 18
  clock : Nat := 0

def Process.isCopy (process : Process) : Bool := process.self ≠ process.number

def Process.has (process : Process) (setting : Setting) : Bool := process.settings.contains setting

structure Deferred where
  process : Process
  body : Script

structure World where
  disk : Disk
  -- The last first.
  written : List Written := []
  waiting : List (Nat × List Char) := []
  pipes : Nat := 0
  processes : Nat := 1
  deferred : List Deferred := []
  ended : List (Nat × Ended × Nat) := []
  -- The innermost first.
  shells : List Nat := []
  -- The signals that shells have got while others were running for them.
  doom : List (Nat × Nat) := []

structure State where
  world : World
  process : Process

inductive Leave where
  | exit
  -- A command has failed so that the shell cannot go on.
  | failure
  | signal (number : Nat)
  | breaks (count : Nat)
  | continues (count : Nat)
  | returns
  | replaced (ended : Ended)
  -- Scripts nest too deeply.
  | exhausted
deriving DecidableEq, Repr

abbrev Act := ExceptT Leave (StateM State)

def observe (act : Act Unit) : Act (Option Leave) :=
  ExceptT.mk do
    match ← act.run with
    | .ok _ => pure (.ok none)
    | .error leave => pure (.ok (some leave))

def relay (left : Option Leave) : Act Unit :=
  match left with
  | some leave => throw leave
  | none => pure ()

def repeatWhile : Nat → Act Bool → Act Unit
  | 0, _ => pure ()
  | count + 1, act => do
    if ← act then repeatWhile count act

def iterate {α : Type} (step : α → Act (Option α)) : Nat → α → Act Unit
  | 0, _ => pure ()
  | count + 1, value => do
    match ← step value with
    | some next => iterate step count next
    | none => pure ()

def process : Act Process := do pure (← get).process

def setProcess (process : Process) : Act Unit := modify fun state => { state with process }

def change (update : Process → Process) : Act Unit :=
  modify fun state => { state with process := update state.process }

def world : Act World := do pure (← get).world

def changeWorld (update : World → World) : Act Unit :=
  modify fun state => { state with world := update state.world }

def setStatus (status : Nat) : Act Unit := change ({ · with status })

inductive WriteFault where
  | closed
  | full
deriving DecidableEq, Repr

def write (descriptor : Nat) (text : String) : Act (Option WriteFault) := do
  let process ← process
  match process.descriptors.lookup descriptor with
  | none => pure (some .closed)
  | some .nowhere => pure none
  | some .full => pure (some .full)
  | some .directory => pure (some .closed)
  | some (.file place) =>
    changeWorld fun world =>
      let old := match world.disk.content place with
        | .ok content => content
        | .error _ => []
      { world with disk := world.disk.write place (old ++ toBytes text) }
    pure none
  | some stream =>
    changeWorld fun world =>
      { world with written := ⟨stream, process.clock, process.self, text⟩ :: world.written }
    pure none

def writeError (text : String) : Act Unit := do
  let _ ← write 2 text

def available (descriptor : Nat) : Act (List Char) := do
  match (← process).descriptors.lookup descriptor with
  | some (.pipe number) => pure (((← world).waiting.lookup number).getD [])
  | _ => pure []

def leaveUnread (descriptor : Nat) (rest : List Char) : Act Unit := do
  match (← process).descriptors.lookup descriptor with
  | some (.pipe number) =>
    changeWorld fun world =>
      { world with waiting := (number, rest) :: world.waiting.filter (·.1 ≠ number) }
  | _ => pure ()

def newPipe (text : List Char) : Act Nat := do
  let number := (← world).pipes
  changeWorld fun world =>
    { world with pipes := number + 1, waiting := (number, text) :: world.waiting }
  pure number

def newProcess : Act Nat := do
  changeWorld fun world => { world with processes := world.processes + 1 }
  pure (← world).processes

def assoc {α β : Type} [DecidableEq α] (key : α) (value : β) : List (α × β) → List (α × β)
  | [] => [(key, value)]
  | entry :: rest => if entry.1 = key then (key, value) :: rest else entry :: assoc key value rest

def setDescriptor (descriptor : Nat) (stream : Stream) : Act Unit :=
  change fun process => { process with descriptors := assoc descriptor stream process.descriptors }

def closeDescriptor (descriptor : Nat) : Act Unit :=
  change fun process =>
    { process with descriptors := process.descriptors.filter (·.1 ≠ descriptor) }

def complain (text : String) : Act Unit := do
  let process ← process
  let running := match process.running with
    | some name => name ++ ": "
    | none => ""
  writeError (process.name ++ ": " ++ Digits.decimalText process.line ++ ": " ++ running ++ text ++ "\n")

-- Leaves the command, and the shell too if nothing stops that.
def fail {α : Type} (text : String) : Act α := do
  complain text
  setStatus 2
  throw .failure

def valueOf (name : String) : Act (Option String) := do
  pure (((← process).bindings.lookup name).bind (·.value))

def placeText (place : Place) : String :=
  if place.isEmpty then "/" else String.join (place.map ("/" ++ ·))

def reason (error : IoError) : String :=
  match error with
  | .os number => IoError.systemText number
  | .custom text => text

def resolve (path : String) : Act (Except IoError Place) := do
  pure ((← world).disk.resolve (← process).directory (toText path))

end HostTools.Shell
