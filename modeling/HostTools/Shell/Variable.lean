import HostTools.Shell.Arithmetic
import HostTools.Shell.Lexeme
import HostTools.Shell.State
import HostTools.Text.Pieces

set_option autoImplicit false

namespace HostTools.Shell

def quoteText (text : String) : String :=
  let quote := String.singleton singleQuote
  let rec go : Nat → List Char → String
    | 0, _ => ""
    | fuel + 1, chars =>
      let front := chars.takeWhile (· ≠ singleQuote)
      let rest := chars.dropWhile (· ≠ singleQuote)
      let quotes := rest.takeWhile (· = singleQuote)
      let beyond := rest.dropWhile (· = singleQuote)
      let shown := quote ++ String.ofList front ++ quote
      if quotes.isEmpty then shown
      else
        let doubled := "\"" ++ String.ofList quotes ++ "\""
        shown ++ doubled ++ (if beyond.isEmpty then "" else go fuel beyond)
  go (text.length + 1) text.toList

def numberOf (word : String) : Act Nat := do
  match Arithmetic.ofText? true word with
  | some value =>
    if value < 0 || (Nat.pow 2 31 : Nat) ≤ value then fail ("Illegal number: " ++ word)
    else pure value.toNat
  | none => fail ("Illegal number: " ++ word)

def noticeValue (name value : String) : Act Unit := do
  match name with
  | "PATH" => change ({ · with hashed := [] })
  | "OPTIND" =>
    let index ← numberOf value
    change ({ · with optionIndex := if index = 0 then 1 else index, optionOffset := none })
  | _ => pure ()

def assign (name value : String) (exported : Bool) : Act Unit := do
  let current ← process
  let exported := exported || current.has .exportAll
  let held : Variable ← (match current.bindings.lookup name with
    | some old =>
      if old.fixed then fail (name ++ ": is read only")
      else pure ⟨some value, old.exported || exported, false⟩
    | none => pure ⟨some value, exported, false⟩)
  change fun process => { process with bindings := assoc name held process.bindings }
  noticeValue name value

def assignNamed (name value : String) : Act Unit := do
  if !Name.isName name then fail (name ++ ": bad variable name") else assign name value false

def divideAssignment (word : String) : String × Option String :=
  match Pieces.cut '=' word.toList with
  | some (name, value) => (String.ofList name, some (String.ofList value))
  | none => (word, none)

def permanent : List String := ["IFS", "MAIL", "MAILPATH", "OPTIND", "PATH", "PS1", "PS2", "PS4"]

-- A variable that is always there, or belongs to a function, keeps its marks.
def unsetVariable (name : String) : Act Unit := do
  let current ← process
  if !Name.isName name then fail (name ++ ": bad variable name")
  let held := current.bindings.lookup name
  if held.any (·.fixed) then fail (name ++ ": is read only")
  if held.isSome && name ∈ ["PATH", "OPTIND"] then noticeValue name ""
  let exports := current.has .exportAll
  let keeps := exports || (held.isSome &&
    (permanent.contains name || current.frames.any fun frame => (frame.bindings.lookup name).isSome))
  let bindings := if keeps
    then assoc name ⟨none, exports || held.any (·.exported), false⟩ current.bindings
    else current.bindings.filter (·.1 ≠ name)
  change ({ · with bindings })

def pushFrame : Act Unit := change fun process => { process with frames := {} :: process.frames }

def popFrame : Act Unit := do
  match (← process).frames with
  | [] => pure ()
  | frame :: frames =>
    change fun process =>
      { process with
        frames
        settings := frame.settings.getD process.settings
        bindings := frame.bindings.foldl
          (fun bindings (name, old) =>
            match old with
            | some held => assoc name held bindings
            | none => bindings.filter (·.1 ≠ name)) process.bindings }
    frame.bindings.forM fun (name, _) =>
      if name = "PATH" then change ({ · with hashed := [] }) else pure ()

def keepInFrame (name : String) : Act Unit :=
  change fun process =>
    match process.frames with
    | [] => process
    | frame :: frames =>
      let kept : Frame :=
        if name = "-" then { frame with settings := some (frame.settings.getD process.settings) }
        else { frame with bindings := (name, process.bindings.lookup name) :: frame.bindings }
      { process with frames := kept :: frames }

def assignInFrame (name value : String) (exported : Bool) : Act Unit := do
  if ((← process).bindings.lookup name).any (·.fixed) then fail (name ++ ": is read only")
  keepInFrame name
  assign name value exported

-- A table is listed by the sums of the codes of its keys, and otherwise in the order of its making.
def bucket (size : Nat) (name : String) : Nat :=
  let codes := name.toList.map Char.toNat
  (16 * codes.headD 0 + codes.foldl (· + ·) 0) % size

def listed {α : Type} (size : Nat) (entries : List (String × α)) : List (String × α) :=
  entries.mergeSort fun a b => bucket size a.1 ≤ bucket size b.1

def exported (process : Process) : List (String × String) :=
  listed 39 (process.bindings.filterMap fun (name, held) =>
    if held.exported then held.value.map (name, ·) else none)

def listing (front : String) (condition : Variable → Bool) (process : Process) : String :=
  let found := (process.bindings.filter fun (_, held) => condition held).mergeSort
    fun a b => !(b.1 < a.1)
  String.join (found.map fun (name, held) =>
    front ++ (if front.isEmpty then "" else " ") ++ name ++ (match held.value with
      | some value => "=" ++ quoteText value
      | none => "") ++ "\n")

def parameter? (name : String) : Act (Option String) := do
  let process ← process
  match name with
  | "?" => pure (some (Digits.decimalText process.status))
  | "#" => pure (some (Digits.decimalText process.args.length))
  | "$" => pure (some (Digits.decimalText process.number))
  | "0" => pure (some process.name)
  | "-" => pure (some (Setting.letters process.settings))
  | "!" => pure (process.background.map Digits.decimalText)
  | _ =>
    match Digits.read? 10 name.toList with
    | some 0 => pure (some process.name)
    | some position => pure (process.args[position - 1]?)
    | none => valueOf name

def separators : Act (List Char) := do
  match ← valueOf "IFS" with
  | some text => pure text.toList
  | none => pure [' ', '\t', '\n']

def joint : Act String := do
  match ← valueOf "IFS" with
  | some text => pure (String.ofList (text.toList.take 1))
  | none => pure " "

end HostTools.Shell
