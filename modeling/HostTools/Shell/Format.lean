import HostTools.Shell.Arithmetic
import HostTools.Shell.Lexeme
import HostTools.Text.Floating

set_option autoImplicit false

namespace HostTools.Shell

structure Directive where
  flags : List Char
  width : Nat
  precision : Option Nat
  conversion : Char
deriving DecidableEq, Repr

namespace Directive

def has (directive : Directive) (flag : Char) : Bool := directive.flags.contains flag

-- A negative width puts the blanks at the end.
def withWidth (directive : Directive) (width : Int) : Directive :=
  if width < 0 then { directive with flags := '-' :: directive.flags, width := width.natAbs }
  else { directive with width := width.toNat }

def pad (directive : Directive) (zeros : Bool) (sign body : List Char) : List Char :=
  let missing := directive.width - (sign.length + body.length)
  if directive.has '-' then sign ++ body ++ List.replicate missing ' '
  else if zeros then sign ++ List.replicate missing '0' ++ body
  else List.replicate missing ' ' ++ sign ++ body

def text (directive : Directive) (given : List Char) : List Char :=
  let cut := match directive.precision with
    | some most => given.take most
    | none => given
  directive.pad false [] cut

def char (directive : Directive) (given : Char) : List Char := directive.pad false [] [given]

def signOf (directive : Directive) (negative : Bool) : List Char :=
  if negative then ['-']
  else if directive.has '+' then ['+']
  else if directive.has ' ' then [' ']
  else []

def digits (conversion : Char) (value : Nat) : List Char :=
  match conversion with
  | 'o' => Nat.toDigits 8 value
  | 'x' => Nat.toDigits 16 value
  | 'X' => (Nat.toDigits 16 value).map Char.toUpper
  | _ => Nat.toDigits 10 value

def integer (directive : Directive) (value : Int) : List Char :=
  let signed := directive.conversion = 'd' || directive.conversion = 'i'
  let digits := if value = 0 && directive.precision = some 0 then []
    else digits directive.conversion value.natAbs
  let digits := List.replicate (directive.precision.getD 0 - digits.length) '0' ++ digits
  let alternate := directive.has '#'
  let digits := if alternate && directive.conversion = 'o' && digits.head? ≠ some '0'
    then '0' :: digits else digits
  let sign :=
    if signed then directive.signOf (value < 0)
    else if alternate && value ≠ 0 then
      match directive.conversion with
      | 'x' => ['0', 'x']
      | 'X' => ['0', 'X']
      | _ => []
    else []
  directive.pad (directive.has '0' && directive.precision.isNone) sign digits

def style? (conversion : Char) : Option Floating.Style :=
  match conversion.toLower with
  | 'f' => some .fixed
  | 'e' => some .scientific
  | 'g' => some .general
  | 'a' => some .hexadecimal
  | _ => none

def floating (directive : Directive) (format : FloatingFormat) (style : Floating.Style)
    (value : Floating) : List Char :=
  let body := Floating.body format style directive.precision (directive.has '#') value.magnitude
  let body := if directive.conversion.isUpper then body.map Char.toUpper else body
  let isNumber := match value.magnitude with
    | .finite _ _ => true
    | _ => false
  let (front, digits) := if style = .hexadecimal && isNumber then (body.take 2, body.drop 2) else ([], body)
  directive.pad (directive.has '0' && isNumber) (directive.signOf value.negative ++ front) digits

end Directive

structure Reading (α : Type) where
  value : α
  found : Bool
  -- Whether the number was all there was.
  whole : Bool
  outOfRange : Bool

namespace Reading

-- Without a sign a number may have one bit more.
def integer (signed : Bool) (arg : String) : Reading Int :=
  let (value, rest, found) := Arithmetic.signed false arg.toList
  let limit : Int := Nat.pow 2 64
  let (kept, outOfRange) : Int × Bool :=
    if signed then (Arithmetic.clamp value, Arithmetic.clamp value ≠ value)
    else if limit ≤ value.natAbs then (limit - 1, true)
    else (value % limit, false)
  { value := kept, found, whole := rest.isEmpty, outOfRange }

def floating (format : FloatingFormat) (arg : String) : Reading Floating :=
  let read := Floating.read format arg.toList
  { value := read.value, found := read.found, whole := read.rest.isEmpty, outOfRange := read.outOfRange }

end Reading

def quotedCode? (arg : String) : Option (Option Char × List Char) :=
  match arg.toList with
  | quote :: rest =>
    if quote = '"' || quote = singleQuote then some (rest.head?, rest.drop 1) else none
  | [] => none

end HostTools.Shell
