import HostTools.Shell.Printing
import HostTools.Shell.Tool.Quoting

set_option autoImplicit false

namespace HostTools.Shell.ToolPrinting

open Printer

def verify {α : Type} (arg : String) (read : Reading α) : Printer α := do
  let quoted := Quoting.inMessage arg
  if read.outOfRange then misread (quoted ++ ": Numerical result out of range")
  else if !read.whole then
    misread (quoted ++ ": " ++
      if read.found then "value not completely converted" else "expected a numeric value")
  pure read.value

def code? (arg : String) : Printer (Option Nat) := do
  match quotedCode? arg with
  | some (some char, rest) =>
    if !rest.isEmpty then
      complain ("warning: " ++ String.ofList rest ++
        ": character(s) following character constant have been ignored")
    pure (some char.toNat)
  | _ => pure none

def integerOf (signed : Bool) (arg : String) : Printer Int := do
  match ← code? arg with
  | some code => pure code
  | none => verify arg (Reading.integer signed arg)

def floatingOf (arg : String) : Printer Floating := do
  match ← code? arg with
  | some code => pure ⟨false, .finite code 0⟩
  | none => verify arg (Reading.floating .extended arg)

def limit : Int := Nat.pow 2 31

def width (text : List Char) : Printer (Int × List Char) := do
  match text with
  | '*' :: rest =>
    match ← take with
    | none => pure (0, rest)
    | some arg =>
      let value ← integerOf true arg
      if value < -limit || limit ≤ value then
        throw (.failed ("invalid field width: " ++ Quoting.inMessage arg))
      else pure (value, rest)
  | _ =>
    let (value, rest) := digitsOf text
    pure (value.getD 0, rest)

-- A precision below zero counts as none.
def precision (text : List Char) : Printer (Option Nat × List Char) := do
  match text with
  | '*' :: rest =>
    match ← take with
    | none => pure (some 0, rest)
    | some arg =>
      let value ← integerOf true arg
      if limit ≤ value then throw (.failed ("invalid precision: " ++ Quoting.inMessage arg))
      else pure (if value < 0 then none else some value.toNat, rest)
  | _ =>
    let (value, rest) := digitsOf text
    pure (some (value.getD 0), rest)

def conversions : List Char := "aAcdeEfFgGiosuxX".toList

def excluded (flag : Char) : List Char :=
  if flag = 'I' || flag = singleQuote then "aAceEosxX".toList
  else if flag = '#' then "cdisu".toList
  else if flag = '0' then "cs".toList
  else []

def isFlag (char : Char) : Bool := char = 'I' || char = singleQuote || "-+ #0".toList.contains char

def print (directive : Directive) (arg : String) : Printer Unit := do
  match Directive.style? directive.conversion with
  | some style => put (directive.floating .extended style (← floatingOf arg))
  | none =>
    match directive.conversion with
    | 's' => put (directive.text arg.toList)
    | 'c' => put (directive.char (arg.toList.headD (Char.ofNat 0)))
    | conversion =>
      put (directive.integer (← integerOf (conversion = 'd' || conversion = 'i') arg))

def directive (text : List Char) : Printer (List Char) := do
  let flags := text.takeWhile isFlag
  let (width, rest) ← width (text.dropWhile isFlag)
  let (precision, pointed, rest) ← (match rest with
    | '.' :: rest => do
      let (value, rest) ← precision rest
      pure (value, true, rest)
    | _ => pure (none, false, rest) : Printer (Option Nat × Bool × List Char))
  let rest := rest.dropWhile fun char => "lLhjtz".toList.contains char
  let valid := match rest.head? with
    | some conversion =>
      conversions.contains conversion && !flags.any (fun flag => (excluded flag).contains conversion) &&
        !(pointed && conversion = 'c')
    | none => false
  if !valid then
    let shown := '%' :: text.take (text.length - rest.length + 1)
    throw (.failed (String.ofList shown ++ ": invalid conversion specification"))
  let found : Directive := { flags, width := 0, precision, conversion := rest.headD 's' }
  print (found.withWidth width) ((← take).getD "")
  pure (rest.drop 1)

def putArgument : Nat → List Char → Printer Unit
  | 0, _ => pure ()
  | _ + 1, [] => pure ()
  | fuel + 1, '\\' :: rest => do
    let rest ← putEscaped (Escape.inTool true rest)
    putArgument fuel rest
  | fuel + 1, char :: rest => do
    put [char]
    putArgument fuel rest

def pass : Nat → List Char → Printer Unit
  | 0, _ => pure ()
  | _ + 1, [] => pure ()
  | fuel + 1, '\\' :: rest => do
    let rest ← putEscaped (Escape.inTool false rest)
    pass fuel rest
  | fuel + 1, '%' :: '%' :: rest => do
    put ['%']
    pass fuel rest
  | fuel + 1, '%' :: 'b' :: rest => do
    let arg := (← take).getD ""
    putArgument (arg.length + 1) arg.toList
    pass fuel rest
  | fuel + 1, '%' :: 'q' :: rest => do
    match ← take with
    | some arg => put (Quoting.forShell [] arg).toList
    | none => pure ()
    pass fuel rest
  | fuel + 1, '%' :: rest => do
    let rest ← directive rest
    pass fuel rest
  | fuel + 1, char :: rest => do
    put [char]
    pass fuel rest

def run (format : String) (args : List String) : Option Halt × Printing :=
  let (halt, printing) := outcome (pass (format.length + 1) format.toList) args
  match halt, printing.args with
  | none, arg :: _ =>
    let warning := "warning: ignoring excess arguments, starting with " ++ Quoting.inMessage arg
    (none, { printing with said := printing.said ++ [.complained warning] })
  | _, _ => (halt, printing)

end HostTools.Shell.ToolPrinting
