import HostTools.Text.Digits
import HostTools.Text.Pieces

set_option autoImplicit false

namespace HostTools

inductive Family where
  | ipv4
  | ipv6
deriving DecidableEq, Repr

def Family.name : Family → String
  | .ipv4 => "ipv4"
  | .ipv6 => "ipv6"

structure Ipv4 where
  a : UInt8
  b : UInt8
  c : UInt8
  d : UInt8
deriving DecidableEq, Repr

namespace Ipv4

def octet? (digits : List Char) : Option UInt8 :=
  if digits.length ≤ 3 ∧ (digits.head? ≠ some '0' ∨ digits.length = 1) then
    match Digits.read? 10 digits with
    | some value => if value ≤ 255 then some (UInt8.ofNat value) else none
    | none => none
  else none

def parse? (text : List Char) : Option Ipv4 :=
  match (Pieces.split '.' text).mapM octet? with
  | some [a, b, c, d] => some ⟨a, b, c, d⟩
  | _ => none

def render (address : Ipv4) : List Char :=
  Digits.decimal address.a.toNat ++ '.' :: Digits.decimal address.b.toNat ++
    '.' :: Digits.decimal address.c.toNat ++ '.' :: Digits.decimal address.d.toNat

def ofNat (n : Nat) : Ipv4 :=
  ⟨UInt8.ofNat (n / Nat.pow 2 24), UInt8.ofNat (n / Nat.pow 2 16), UInt8.ofNat (n / Nat.pow 2 8),
    UInt8.ofNat n⟩

def toNat (address : Ipv4) : Nat :=
  ((address.a.toNat * 256 + address.b.toNat) * 256 + address.c.toNat) * 256 + address.d.toNat

def loopback : Ipv4 := ⟨127, 0, 0, 1⟩

def groups (address : Ipv4) : List UInt16 :=
  [address.a.toUInt16 * 256 + address.b.toUInt16, address.c.toUInt16 * 256 + address.d.toUInt16]

end Ipv4

structure Ipv6 where
  groups : List UInt16
  eight : groups.length = 8
deriving DecidableEq, Repr

namespace Ipv6

def group? (digits : List Char) : Option UInt16 :=
  if digits.length ≤ 4 then (Digits.read? 16 digits).map UInt16.ofNat else none

def withTail? : List (List Char) → Option (List UInt16)
  | [] => some []
  | [last] =>
    match group? last with
    | some group => some [group]
    | none => (Ipv4.parse? last).map Ipv4.groups
  | piece :: more =>
    match group? piece with
    | some group => (withTail? more).map (group :: ·)
    | none => none

def front? : List Char → Option (List UInt16)
  | [] => some []
  | text => (Pieces.split ':' text).mapM group?

def back? : List Char → Option (List UInt16)
  | [] => some []
  | text => withTail? (Pieces.split ':' text)

def ofGroups? (groups : List UInt16) : Option Ipv6 :=
  if eight : groups.length = 8 then some ⟨groups, eight⟩ else none

def parse? (text : List Char) : Option Ipv6 :=
  match Pieces.cutDouble ':' text with
  | none =>
    match withTail? (Pieces.split ':' text) with
    | some groups => ofGroups? groups
    | none => none
  | some (left, right) =>
    match front? left, back? right with
    | some front, some back =>
      if front.length + back.length ≤ 7 then
        ofGroups? (front ++ List.replicate (8 - (front.length + back.length)) 0 ++ back)
      else none
    | _, _ => none

def zeros : List UInt16 → Nat
  | [] => 0
  | group :: rest => if group = 0 then zeros rest + 1 else 0

def longestRun : List UInt16 → Nat × Nat
  | [] => (0, 0)
  | group :: rest =>
    let here := zeros (group :: rest)
    let (start, length) := longestRun rest
    if length ≤ here then (0, here) else (start + 1, length)

def colons (groups : List UInt16) : List Char :=
  List.intercalate [':'] (groups.map fun group => Digits.hex group.toNat)

def render (address : Ipv6) : List Char :=
  let (start, length) := longestRun address.groups
  if 2 ≤ length then
    colons (address.groups.take start) ++ ':' :: ':' :: colons (address.groups.drop (start + length))
  else colons address.groups

end Ipv6

namespace Address

def classify (text : String) : Option Family :=
  if (Ipv4.parse? text.toList).isSome then some .ipv4
  else if (Ipv6.parse? text.toList).isSome then some .ipv6
  else none

def isAddress (text : String) : Bool := (classify text).isSome

end Address

end HostTools
