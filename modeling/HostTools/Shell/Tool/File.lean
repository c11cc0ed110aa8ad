import HostTools.Shell.State
import HostTools.Shell.Tool.Option
import HostTools.Shell.Tool.Quoting

set_option autoImplicit false

namespace HostTools.Shell.Tool

def writeReason : WriteFault → String
  | .closed => "Bad file descriptor"
  | .full => "No space left on device"

def complain (name text : String) : Act Unit := writeError (name ++ ": " ++ text ++ "\n")

def put (name text : String) (failing : Nat) : Act Nat := do
  if text.isEmpty then pure 0
  else
    match ← write 1 text with
    | none => pure 0
    | some fault =>
      complain name ("write error: " ++ writeReason fault)
      pure failing

def advice (name : String) : String := "Try '" ++ name ++ " --help' for more information.\n"

def refuse (name reason : String) (status : Nat) : Act Nat := do
  writeError (name ++ ": " ++ reason ++ "\n" ++ advice name)
  pure status

def contentAt (path : String) : Act (Except IoError (List Char)) := do
  let current ← process
  let disk := (← world).disk
  match disk.resolve current.directory (toText path) with
  | .error error => pure (.error error)
  | .ok place =>
    match disk.entry? place with
    | some (.device (.descriptor number)) =>
      match current.descriptors.lookup number with
      | some _ => do
        let text ← available number
        leaveUnread number []
        pure (.ok text)
      | none => pure (.error .noSuchFile)
    | some (.device .terminal) => pure (.error (.os 6))
    | _ => pure ((disk.content place).map fun content => content.map Bytes.toChar)

def inputText : Act (Except IoError (List Char)) := do
  match (← process).descriptors.lookup 0 with
  | none => pure (.error (.os 9))
  | some .directory => pure (.error .isDirectory)
  | some _ => do
    let text ← available 0
    leaveUnread 0 []
    pure (.ok text)

structure Showing where
  numbers : Bool
  onlyFull : Bool
  squeeze : Bool
  ends : Bool
  tabs : Bool
  unprintable : Bool

structure Shown where
  reversed : List Char := []
  line : Nat := 0
  empty : Nat := 0
  atStart : Bool := true

namespace Showing

def number (line : Nat) : List Char :=
  let digits := Nat.toDigits 10 line
  List.replicate (6 - digits.length) ' ' ++ digits ++ ['\t']

def visible (char : Char) : List Char :=
  let seven (code : Nat) : List Char :=
    if code < 32 then ['^', Char.ofNat (code + 64)]
    else if code = 127 then ['^', '?']
    else [Char.ofNat code]
  if char.toNat < 128 then seven char.toNat else 'M' :: '-' :: seven (char.toNat - 128)

def char (showing : Showing) (char : Char) (next : Option Char) : List Char :=
  if char = '\t' then if showing.tabs then ['^', 'I'] else [char]
  else if showing.unprintable then visible char
  else if char = '\r' && showing.ends && next = some '\n' then ['^', 'M']
  else [char]

def step (showing : Showing) : Shown → List Char → Shown
  | shown, [] => shown
  | shown, '\n' :: rest =>
    let isEmpty := shown.atStart
    if isEmpty && showing.squeeze && 1 ≤ shown.empty then step showing shown rest
    else
      let line := if shown.atStart && showing.numbers && !showing.onlyFull then shown.line + 1
        else shown.line
      let front := if line ≠ shown.line then number line else []
      let added := front ++ (if showing.ends then ['$', '\n'] else ['\n'])
      step showing
        { reversed := added.reverse ++ shown.reversed
          line
          empty := if isEmpty then shown.empty + 1 else 0
          atStart := true } rest
  | shown, char :: rest =>
    let line := if shown.atStart && showing.numbers then shown.line + 1 else shown.line
    let front := if line ≠ shown.line then number line else []
    let added := front ++ showing.char char rest.head?
    step showing
      { reversed := added.reverse ++ shown.reversed, line, empty := 0, atStart := false } rest

end Showing

def catForms : List OptionForm :=
  [⟨some 'b', some "number-nonblank", false⟩, ⟨some 'n', some "number", false⟩,
    ⟨some 's', some "squeeze-blank", false⟩, ⟨some 'v', some "show-nonprinting", false⟩,
    ⟨some 'E', some "show-ends", false⟩, ⟨some 'T', some "show-tabs", false⟩,
    ⟨some 'A', some "show-all", false⟩, ⟨some 'e', none, false⟩, ⟨some 't', none, false⟩,
    ⟨some 'u', none, false⟩]

def outputPlace : Act (Option Place) := do
  match (← process).descriptors.lookup 1 with
  | some (.file place) => pure (some place)
  | _ => pure none

def catFile (name : String) (showing : Showing) (shown : Shown) (word : String) :
    Act (Shown × Bool) := do
  let current ← process
  let place := ((← world).disk.resolve current.directory (toText word)).toOption
  let isOutput := place.isSome && (← outputPlace) = place
  match ← (if word = "-" then inputText else contentAt word) with
  | .error error =>
    complain name (Quoting.file word ++ ": " ++ reason error)
    pure (shown, false)
  | .ok text =>
    if isOutput && word ≠ "-" && !text.isEmpty then
      complain name (Quoting.file word ++ ": input file is output file")
      pure (shown, false)
    else
      let after := showing.step { shown with reversed := [] } text
      let _ ← write 1 (String.ofList after.reversed.reverse)
      pure (after, true)

def cat (name : String) (args : List String) : Act Nat := do
  match arguments catForms true args with
  | .error reason => refuse name reason 1
  | .ok found =>
    match (← process).descriptors.lookup 1 with
    | none =>
      complain name "standard output: Bad file descriptor"
      pure 1
    | some stream =>
      let has := found.has
      let showing : Showing :=
        { numbers := has "n" || has "b"
          onlyFull := has "b"
          squeeze := has "s"
          ends := has "E" || has "A" || has "e"
          tabs := has "T" || has "A" || has "t"
          unprintable := has "v" || has "A" || has "e" || has "t" }
      let words := if found.words.isEmpty then ["-"] else found.words
      let (shown, well) ← words.foldlM (fun (shown, well) word => do
        let (shown, fine) ← catFile name showing shown word
        pure (shown, well && fine)) (({} : Shown), true)
      if stream = .full && !shown.reversed.isEmpty then
        complain name "write error: No space left on device"
        pure 1
      else if words.contains "-" && ((← process).descriptors.lookup 0).isNone then
        complain name "closing standard input: Bad file descriptor"
        pure 1
      else pure (if well then 0 else 1)

def removeForms : List OptionForm :=
  [⟨some 'f', some "force", false⟩, ⟨some 'i', none, false⟩, ⟨some 'I', none, false⟩,
    ⟨some 'r', some "recursive", false⟩, ⟨some 'R', none, false⟩, ⟨some 'd', some "dir", false⟩,
    ⟨some 'v', some "verbose", false⟩]

def rm (name : String) (args : List String) : Act Nat := do
  match arguments removeForms true args with
  | .error reason => refuse name reason 1
  | .ok found =>
    if found.words.isEmpty && !found.has "f" then refuse name "missing operand" 1
    else
      found.words.foldlM (fun status word => do
        let quoted := Quoting.inMessage word
        let disk := (← world).disk
        match disk.resolve (← process).directory (toText word) with
        | .error error =>
          if found.has "f" && (error = .noSuchFile || error = .notDirectory) then pure status
          else
            complain name ("cannot remove " ++ quoted ++ ": " ++ reason error)
            pure 1
        | .ok place =>
          match disk.entry? place with
          | some (.file _) => do
            changeWorld fun world => { world with disk := world.disk.remove place }
            if found.has "v" then
              let _ ← write 1 ("removed " ++ quoted ++ "\n")
            pure status
          | _ => do
            complain name ("cannot remove " ++ quoted ++ ": Is a directory")
            pure 1) 0

end HostTools.Shell.Tool
