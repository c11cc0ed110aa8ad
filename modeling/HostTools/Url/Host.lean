import HostTools.Address.Basic
import HostTools.Domain.Basic
import HostTools.Text.Utf8
import HostTools.Url.Literal
import HostTools.Url.Percent

set_option autoImplicit false

namespace HostTools

inductive UrlError where
  | relative
  | emptyHost
  | port
  | ipv4
  | ipv6
  | domain
deriving DecidableEq, Repr

def UrlError.message : UrlError → String
  | .relative => "relative URL without a base"
  | .emptyHost => "empty host"
  | .port => "invalid port number"
  | .ipv4 => "invalid IPv4 address"
  | .ipv6 => "invalid IPv6 address"
  | .domain => "invalid international domain name"

inductive Host where
  | domain (name : List Char)
  | ipv4 (address : Ipv4)
  | ipv6 (address : Ipv6)
deriving DecidableEq, Repr

namespace Host

def render : Host → List Char
  | .domain name => name
  | .ipv4 address => address.render
  | .ipv6 address => '[' :: address.render ++ [']']

def domain? (text : List Char) : Option (List Char) :=
  match Utf8.strictFrom none (Percent.decode (Bytes.ofChars text)) with
  | some decoded => Domain.ascii? decoded
  | none => none

inductive Part where
  | none
  | large
  | value (n : Nat)
deriving DecidableEq, Repr

def partDigits (text : List Char) : Nat × List Char :=
  match text with
  | '0' :: 'x' :: rest => (16, rest)
  | '0' :: 'X' :: rest => (16, rest)
  | '0' :: c :: rest => (8, c :: rest)
  | digits => (10, digits)

def part (text : List Char) : Part :=
  if text = [] then .none
  else
    let (base, digits) := partDigits text
    match Digits.readOnto base 0 digits with
    | some n => if n < Nat.pow 2 32 then .value n else .large
    | none => .none

def labels (domain : List Char) : List (List Char) :=
  let parts := Pieces.split '.' domain
  if parts.getLast? = some [] then parts.dropLast else parts

def endsInNumber (domain : List Char) : Bool :=
  match (labels domain).getLast? with
  | none => false
  | some last =>
    (last ≠ [] && last.all fun c => '0' ≤ c && c ≤ '9') || part last ≠ .none

def values? : List Part → Option (List Nat)
  | [] => some []
  | .value n :: more => (values? more).map (n :: ·)
  | _ :: _ => none

-- The last part fills all places that the others leave.
def combine? : Nat → List Nat → Option Nat
  | _, [] => none
  | places, [last] => if last < Nat.pow 256 places then some last else none
  | places, n :: more =>
    if n ≤ 255 then (combine? (places - 1) more).map (n * Nat.pow 256 (places - 1) + ·) else none

def ipv4? (domain : List Char) : Option Ipv4 :=
  let parts := labels domain
  if 4 < parts.length then none
  else
    match values? (parts.map part) with
    | some values => (combine? 4 values).map Ipv4.ofNat
    | none => none

def bracketed? (text : List Char) : Option Ipv6 :=
  if text.getLast? = some ']' then Literal.parse? text.dropLast else none

def parse (text : List Char) : Except UrlError Host :=
  match text with
  | '[' :: inner =>
    match bracketed? inner with
    | some address => .ok (.ipv6 address)
    | none => .error .ipv6
  | _ =>
    match domain? text with
    | none => .error .domain
    | some [] => .error .emptyHost
    | some name =>
      if endsInNumber name then
        match ipv4? name with
        | some address => .ok (.ipv4 address)
        | none => .error .ipv4
      else .ok (.domain name)

end Host

end HostTools
