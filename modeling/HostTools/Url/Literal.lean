import HostTools.Address.Basic

set_option autoImplicit false

namespace HostTools.Literal

structure Reading where
  groups : List UInt16
  -- How many groups stand before the end of the gap, which counts for one of them at least.
  gap? : Option Nat
deriving DecidableEq, Repr

def octet : Option Nat → List Char → Option (Nat × List Char)
  | soFar, [] => soFar.map fun value => (value, [])
  | soFar, c :: rest =>
    match Digits.inBase? 10 c, soFar with
    | none, _ => soFar.map fun value => (value, c :: rest)
    | some digit, none => octet (some digit) rest
    | some _, some 0 => none
    | some digit, some value =>
      if value * 10 + digit ≤ 255 then octet (some (value * 10 + digit)) rest else none

def octets : Nat → List Char → Option (List Nat)
  | 0, text =>
    match octet none text with
    | some (value, []) => some [value]
    | _ => none
  | owed + 1, text =>
    match octet none text with
    | some (value, '.' :: more) => (octets owed more).map (value :: ·)
    | _ => none

def tail? (text : List Char) : Option (List UInt16) :=
  match octets 3 text with
  | some [a, b, c, d] => some [UInt16.ofNat (a * 256 + b), UInt16.ofNat (c * 256 + d)]
  | _ => none

-- The group's text from its first digit on is kept, since a dot tells that it was the start of an
-- IPv4 address.
def read (reading : Reading) (start : List Char) (count value : Nat) : List Char → Option Reading
  | [] => if count = 0 then some reading else some { reading with groups := reading.groups ++ [UInt16.ofNat value] }
  | c :: rest =>
    if 8 ≤ reading.groups.length then none
    else if c = ':' then
      if count = 0 then
        if reading.gap?.isSome then none
        else read ⟨reading.groups ++ [0], some (reading.groups.length + 1)⟩ rest 0 0 rest
      else if rest = [] then none
      else read { reading with groups := reading.groups ++ [UInt16.ofNat value] } rest 0 0 rest
    else if c = '.' then
      if 6 < reading.groups.length then none
      else (tail? start).map fun groups => { reading with groups := reading.groups ++ groups }
    else
      match Digits.inBase? 16 c with
      | some digit => if count = 4 then none else read reading start (count + 1) (value * 16 + digit) rest
      | none => none

def finish? (reading : Reading) : Option Ipv6 :=
  match reading.gap? with
  | none => Ipv6.ofGroups? reading.groups
  | some before =>
    Ipv6.ofGroups? (reading.groups.take before ++ List.replicate (8 - reading.groups.length) 0 ++
      reading.groups.drop before)

def parse? (text : List Char) : Option Ipv6 :=
  match text with
  | ':' :: ':' :: rest => (read ⟨[0], some 1⟩ rest 0 0 rest).bind finish?
  | ':' :: _ => none
  | _ => (read ⟨[], none⟩ text 0 0 text).bind finish?

end HostTools.Literal
