import HostTools.Shell.Tool.Condition
import HostTools.Shell.Tool.File
import HostTools.Shell.Tool.Printing

set_option autoImplicit false

namespace HostTools.Shell.Tool

def isEchoOption (word : String) : Bool :=
  match word.toList with
  | '-' :: first :: rest => (first :: rest).all fun char => char = 'n' || char = 'e' || char = 'E'
  | _ => false

def echoText (args : List String) : String :=
  let options := (args.takeWhile isEchoOption).flatMap (·.toList.drop 1)
  let words := (" ".intercalate (args.dropWhile isEchoOption)).toList
  let escapes := options.foldl
    (fun on char => if char = 'e' then true else if char = 'E' then false else on) false
  let (text, ended) := if escapes then Escape.all Escape.inEcho words else (words, none)
  String.ofList text ++ (if options.contains 'n' || ended.isSome then "" else "\n")

def echo (name : String) (args : List String) : Act Nat := put name (echoText args) 1

def printf (name : String) (args : List String) : Act Nat := do
  let args := match args with
    | "--" :: rest => rest
    | _ => args
  match args with
  | [] => refuse name "missing operand" 1
  | format :: values =>
    let (halt, printing) := ToolPrinting.run format values
    let fault : Option WriteFault ← printing.said.foldlM (fun fault said => do
      match said with
      | .printed text => do
        let found ← (if text.isEmpty then pure none else write 1 text)
        pure (fault.or found)
      | .complained text => do
        complain name text
        pure fault) none
    let failed : Bool ← (match halt with
      | some (.failed reason) => do
        complain name reason
        pure true
      | _ => pure !printing.numeric)
    match fault with
    | some fault =>
      complain name ("write error: " ++ writeReason fault)
      pure 1
    | none => pure (if failed then 1 else 0)

def pwdForms : List OptionForm :=
  [⟨some 'L', some "logical", false⟩, ⟨some 'P', some "physical", false⟩]

def isLogical (disk : Disk) (place : Place) (path : String) : Bool :=
  let names := Pieces.split '/' path.toList
  path.startsWith "/" && !names.contains ['.'] && !names.contains ['.', '.'] &&
    (disk.resolve [] (toText path)).toOption = some place

def pwd (name : String) (environment : List (String × String)) (args : List String) : Act Nat := do
  match arguments pwdForms true args with
  | .error reason => refuse name reason 1
  | .ok found =>
    if !found.words.isEmpty then complain name "ignoring non-option arguments"
    let place := (← process).directory
    let physical := ofText (placeText place)
    let logical := (found.options.getLast?.map fun given => given.form.key) = some "L"
    let disk := (← world).disk
    let shown := match if logical then environment.lookup "PWD" else none with
      | some path => if isLogical disk place path then path else physical
      | none => physical
    put name (shown ++ "\n") 1

-- In billionths of a second.
def span? (word : String) : Option Nat :=
  let read := Floating.read .double word.toList
  let unit? : Option Nat := match read.rest with
    | [] => some 1
    | ['s'] => some 1
    | ['m'] => some 60
    | ['h'] => some 3600
    | ['d'] => some 86400
    | _ => none
  match read.found, unit?, read.value.magnitude with
  | true, some unit, .finite significand exponent =>
    if read.value.negative && significand ≠ 0 then none
    else
      let scaled := significand * unit * 1000000000
      some (if exponent < 0 then scaled / Nat.pow 2 exponent.natAbs else scaled * Nat.pow 2 exponent.toNat)
  | true, some _, .infinite => if read.value.negative then none else some 0
  | _, _, _ => none

def sleep (name : String) (args : List String) : Act Nat := do
  match arguments [] true args with
  | .error reason => refuse name reason 1
  | .ok found =>
    if found.words.isEmpty then refuse name "missing operand" 1
    else
      let bad := found.words.filter fun word => (span? word).isNone
      if !bad.isEmpty then
        bad.forM fun word => complain name ("invalid time interval " ++ Quoting.inMessage word)
        writeError (advice name)
        pure 1
      else
        let spans := found.words.filterMap span?
        change fun process => { process with clock := process.clock + spans.foldl (· + ·) 0 }
        pure 0

def test (name : String) (bracket : Bool) (args : List String) : Act Nat := do
  match ToolCondition.command (← fileTest) bracket args with
  | .ok holds => pure (if holds then 0 else 1)
  | .error reason =>
    complain name reason
    pure 2

end HostTools.Shell.Tool
