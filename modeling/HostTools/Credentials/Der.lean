import HostTools.Text.Bytes

set_option autoImplicit false

namespace HostTools.Der

def integer : UInt8 := 0x02
def bitString : UInt8 := 0x03
def octetString : UInt8 := 0x04
def objectId : UInt8 := 0x06
def sequence : UInt8 := 0x30

def boolean : UInt8 := 0x01

def context (number : UInt8) : UInt8 := 0xa0 + number

def plainContext (number : UInt8) : UInt8 := 0x80 + number

def number (octets : Bytes) : Nat := octets.foldl (fun value octet => value * 256 + octet.toNat) 0

-- Only the shortest form of a length counts, and lengths are below 65535.
def length? : Bytes → Option (Nat × Bytes)
  | [] => none
  | first :: rest =>
    if first < 0x80 then some (first.toNat, rest)
    else
      let count := first.toNat - 0x80
      let octets := rest.take count
      let value := number octets
      if 1 ≤ count ∧ count ≤ 2 ∧ octets.length = count ∧ octets.head? ≠ some 0 ∧ 0x80 ≤ value ∧
        value < 65535 then
        some (value, rest.drop count)
      else none

def value? (tag : UInt8) : Bytes → Option (Bytes × Bytes)
  | [] => none
  | first :: rest =>
    if first = tag then
      match length? rest with
      | some (size, rest) =>
        if size ≤ rest.length then some (rest.take size, rest.drop size) else none
      | none => none
    else none

def whole? (tag : UInt8) (input : Bytes) : Option Bytes :=
  match value? tag input with
  | some (content, []) => some content
  | _ => none

def optional? (tag : UInt8) (input : Bytes) : Option (Option Bytes × Bytes) :=
  if input.head? = some tag then (value? tag input).map fun (content, rest) => (some content, rest)
  else some (none, input)

def natural? (input : Bytes) : Option (Nat × Bytes) :=
  match value? integer input with
  | some (first :: more, rest) =>
    if first = 0 then
      match more with
      | [] => some (0, rest)
      | second :: _ => if 0x80 ≤ second then some (number more, rest) else none
    else if first < 0x80 then some (number (first :: more), rest)
    else none
  | _ => none

def wholeOctets? : Bytes → Option Bytes
  | 0 :: octets => some octets
  | _ => none

def writeLength (size : Nat) : Bytes :=
  if size < 0x80 then [UInt8.ofNat size]
  else if size < 0x100 then [0x81, UInt8.ofNat size]
  else [0x82, UInt8.ofNat (size / 256), UInt8.ofNat size]

def write (tag : UInt8) (content : Bytes) : Bytes := tag :: writeLength content.length ++ content

def octets (value : Nat) : Bytes :=
  if value < 256 then [UInt8.ofNat value] else octets (value / 256) ++ [UInt8.ofNat (value % 256)]
termination_by value
decreasing_by omega

def writeNatural (value : Nat) : Bytes :=
  let digits := octets value
  write integer (if 0x80 ≤ digits.headD 0 then 0 :: digits else digits)

end HostTools.Der
