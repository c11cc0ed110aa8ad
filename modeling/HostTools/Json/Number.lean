import HostTools.Json.Literal
import HostTools.Text.Binary64

set_option autoImplicit false

namespace HostTools.Json

inductive Number where
  | whole (value : Int)
  | real (negative : Bool) (value : Binary64)
deriving DecidableEq, Repr

def wordLimit : Nat := Nat.pow 2 64

-- The rest starts at the digit that would not fit a word.
def digitsWithin (soFar : Nat) : Bytes → Nat × Nat × Bytes
  | [] => (soFar, 0, [])
  | byte :: rest =>
    if Bytes.isDigit byte ∧ soFar * 10 + (byte.toNat - 0x30) < wordLimit then
      let (value, count, after) := digitsWithin (soFar * 10 + (byte.toNat - 0x30)) rest
      (value, count + 1, after)
    else (soFar, 0, byte :: rest)

def dropDigits (input : Bytes) : Nat × Bytes :=
  ((input.takeWhile Bytes.isDigit).length, input.dropWhile Bytes.isDigit)

def startsWithDigit (input : Bytes) : Bool := (input.head?.map Bytes.isDigit).getD false

def startsWithExponent (input : Bytes) : Bool :=
  input.head? = some 0x65 || input.head? = some 0x45

-- A power beyond the range is taken in steps.
def divided (value : Binary64) (power : Nat) : Binary64 :=
  if value.significand = 0 then value
  else if power ≤ 308 then (value.overPower? power).getD value
  else divided ((value.overPower? 308).getD value) (power - 308)
termination_by power

-- The digits and the power of ten are each rounded once.
def ofParts (negative : Bool) (digits : Nat) (power : Int) (rest : Bytes) :
    Except Fault (Number × Bytes) :=
  let value := (Binary64.ofRatio? digits 1).getD .zero
  if power < 0 then .ok (.real negative (divided value (-power).toNat), rest)
  else if power ≤ 308 then
    match value.timesPower? power.toNat with
    | some product => .ok (.real negative product, rest)
    | none => .error (.after .numberTooLarge rest)
  else if digits = 0 then .ok (.real negative value, rest)
  else .error (.after .numberTooLarge rest)

def exponentLimit : Nat := Nat.pow 2 31

-- The second part tells whether the exponent stayed within its limit.
def exponentDigits (soFar : Nat) : Bytes → Nat × Bool × Bytes
  | [] => (soFar, true, [])
  | byte :: rest =>
    if Bytes.isDigit byte then
      let value := soFar * 10 + (byte.toNat - 0x30)
      if value < exponentLimit then exponentDigits value rest else (soFar, false, rest)
    else (soFar, true, byte :: rest)

def clamp (power : Int) : Int :=
  max (-(exponentLimit : Int)) (min power (exponentLimit - 1))

def exponent (negative : Bool) (digits : Nat) (power : Int) (input : Bytes) :
    Except Fault (Number × Bytes) :=
  let down := input.head? = some 0x2d
  let input := if input.head? = some 0x2b ∨ down then input.drop 1 else input
  match input with
  | [] => .error (.after .endInValue [])
  | byte :: rest =>
    if Bytes.isDigit byte then
      match exponentDigits (byte.toNat - 0x30) rest with
      | (value, true, rest) =>
        ofParts negative digits (clamp (if down then power - value else power + value)) rest
      | (_, false, rest) =>
        if digits ≠ 0 ∧ ¬down then .error (.after .numberTooLarge rest)
        else .ok (.real negative .zero, (dropDigits rest).2)
    else .error (.after .invalidNumber rest)

def afterDigits (negative : Bool) (digits : Nat) (power : Int) (input : Bytes) :
    Except Fault (Number × Bytes) :=
  if startsWithExponent input then exponent negative digits power (input.drop 1)
  else ofParts negative digits power input

def fraction (negative : Bool) (digits : Nat) (power : Int) (input : Bytes) :
    Except Fault (Number × Bytes) :=
  let (value, count, rest) := digitsWithin digits input
  if startsWithDigit rest then
    afterDigits negative value (power - count) (dropDigits rest).2
  else if count = 0 then
    .error (.upon (if rest.isEmpty then .endInValue else .invalidNumber) rest)
  else afterDigits negative value (power - count) rest

def afterWhole (negative : Bool) (digits : Nat) (input : Bytes) : Except Fault (Number × Bytes) :=
  if input.head? = some 0x2e then fraction negative digits 0 (input.drop 1)
  else if startsWithExponent input then exponent negative digits 0 (input.drop 1)
  else if !negative then .ok (.whole digits, input)
  else if digits = 0 ∨ Nat.pow 2 63 < digits then
    .ok (.real true ((Binary64.ofRatio? digits 1).getD .zero), input)
  else .ok (.whole (-(digits : Int)), input)

def numeral (negative : Bool) : Bytes → Except Fault (Number × Bytes)
  | [] => .error (.after .endInValue [])
  | byte :: rest =>
    if byte = 0x30 then
      if startsWithDigit rest then .error (.upon .invalidNumber rest)
      else afterWhole negative 0 rest
    else if Bytes.isDigit byte then
      let (value, _, rest) := digitsWithin (byte.toNat - 0x30) rest
      if startsWithDigit rest then
        let (count, rest) := dropDigits rest
        if rest.head? = some 0x2e then fraction negative value count (rest.drop 1)
        else afterDigits negative value count rest
      else afterWhole negative value rest
    else .error (.after .invalidNumber rest)

def Number.shown : Number → String
  | .whole value => "integer `" ++ Digits.signedText value ++ "`"
  | .real negative value =>
    "floating point `" ++ String.ofList ((if negative then ['-'] else []) ++ value.render) ++ "`"

end HostTools.Json
