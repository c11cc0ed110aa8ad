import HostTools.Shell.Escape
import HostTools.Shell.Format
import HostTools.Text.Digits

set_option autoImplicit false

namespace HostTools.Shell

inductive Said where
  | printed (text : String)
  | complained (text : String)
deriving DecidableEq, Repr

namespace Said

def texts (said : List Said) : String :=
  String.join (said.filterMap fun one =>
    match one with
    | .printed text => some text
    | .complained _ => none)

def complaints (said : List Said) : List String :=
  said.filterMap fun one =>
    match one with
    | .printed _ => none
    | .complained text => some text

end Said

structure Printing where
  args : List String
  used : Bool := false
  -- The last first.
  said : List Said := []
  numeric : Bool := true

inductive Halt where
  | stopped
  | failed (reason : String)
deriving DecidableEq, Repr

abbrev Printer := ExceptT Halt (StateM Printing)

namespace Printer

def put (text : List Char) : Printer Unit :=
  modify fun printing => { printing with said := .printed (String.ofList text) :: printing.said }

def complain (text : String) : Printer Unit :=
  modify fun printing => { printing with said := .complained text :: printing.said }

def misread (text : String) : Printer Unit := do
  complain text
  modify ({ · with numeric := false })

def take : Printer (Option String) := do
  match (← get).args with
  | [] => pure none
  | arg :: rest =>
    modify ({ · with args := rest, used := true })
    pure (some arg)

def putEscaped (escaped : Escaped) : Printer (List Char) := do
  match escaped with
  | .text text rest =>
    put text
    pure rest
  | .stop => throw .stopped
  | .refused reason => throw (.failed reason)

def digitsOf (text : List Char) : Option Nat × List Char :=
  (Digits.read? 10 (text.takeWhile Char.isDigit), text.dropWhile Char.isDigit)

def again (pass : Printer Unit) : Nat → Printer Unit
  | 0 => pure ()
  | fuel + 1 => do
    pass
    let printing ← get
    if printing.used && !printing.args.isEmpty then again pass fuel

def outcome (pass : Printer Unit) (args : List String) : Option Halt × Printing :=
  match StateT.run (ExceptT.run (again pass (args.length + 1))) { args } with
  | (.ok _, printing) => (none, { printing with said := printing.said.reverse })
  | (.error halt, printing) => (some halt, { printing with said := printing.said.reverse })

end Printer

namespace ShellPrinting

open Printer

def verify {α : Type} (arg : String) (read : Reading α) : Printer α := do
  if !read.whole then
    misread (arg ++ ": " ++ if read.found then "not completely converted" else "expected numeric value")
  else if read.outOfRange then misread (arg ++ ": Numerical result out of range")
  pure read.value

def takeInteger (signed : Bool) : Printer Int := do
  match ← take with
  | none => pure 0
  | some arg =>
    match quotedCode? arg with
    | some (char, _) => pure ((char.map Char.toNat).getD 0)
    | none => verify arg (Reading.integer signed arg)

def takeFloating : Printer Floating := do
  match ← take with
  | none => pure Floating.zero
  | some arg =>
    match quotedCode? arg with
    | some (char, _) => pure ⟨false, .finite ((char.map Char.toNat).getD 0) 0⟩
    | none => verify arg (Reading.floating .double arg)

def size (text : List Char) : Printer (Option Int × List Char) := do
  match text with
  | '*' :: rest => do
    let value ← takeInteger true
    pure (some value, rest)
  | _ =>
    let (value, rest) := digitsOf text
    pure (value.map Int.ofNat, rest)

def print (directive : Directive) (shown : List Char) : Printer Unit := do
  match directive.conversion with
  | 'b' =>
    let arg := (← take).getD ""
    let (text, ended) := Escape.all Escape.inArgument arg.toList
    put (directive.text text)
    if ended.isSome then throw .stopped
  | 's' => put (directive.text ((← take).getD "").toList)
  | 'c' => put (directive.char (((← take).getD "").toList.headD (Char.ofNat 0)))
  | _ =>
    if directive.conversion = 'd' || directive.conversion = 'i' then
      put (directive.integer (← takeInteger true))
    else if ['o', 'u', 'x', 'X'].contains directive.conversion then
      put (directive.integer (← takeInteger false))
    else
      match Directive.style? directive.conversion with
      | some style => put (directive.floating .double style (← takeFloating))
      | none => throw (.failed (String.ofList shown ++ ": invalid directive"))

def directive (text : List Char) : Printer (List Char) := do
  let isFlag (char : Char) : Bool := "#-+ 0".toList.contains char
  let (width, rest) ← size (text.dropWhile isFlag)
  let (precision, rest) ← (match rest with
    | '.' :: rest => do
      let (value, rest) ← size rest
      pure (some (value.getD 0), rest)
    | _ => pure (none, rest) : Printer (Option Int × List Char))
  match rest with
  | [] => throw (.failed "missing format character")
  | conversion :: after =>
    let found : Directive :=
      { flags := text.takeWhile isFlag
        width := 0
        precision := (precision.filter (0 ≤ ·)).map Int.toNat
        conversion }
    print (found.withWidth (width.getD 0)) ('%' :: text.take (text.length - after.length))
    pure after

def pass : Nat → List Char → Printer Unit
  | 0, _ => pure ()
  | _ + 1, [] => pure ()
  | fuel + 1, '\\' :: rest => do
    let rest ← putEscaped (Escape.inFormat rest)
    pass fuel rest
  | fuel + 1, '%' :: '%' :: rest => do
    put ['%']
    pass fuel rest
  | fuel + 1, '%' :: rest => do
    let rest ← directive rest
    pass fuel rest
  | fuel + 1, char :: rest => do
    put [char]
    pass fuel rest

def run (format : String) (args : List String) : Option Halt × Printing :=
  outcome (pass (format.length + 1) format.toList) args

end ShellPrinting

end HostTools.Shell
