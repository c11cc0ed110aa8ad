import HostTools.Credentials.Der

set_option autoImplicit false

namespace HostTools.Certificate

-- The names of the usual extensions start alike.
def usual : Bytes := [0x55, 0x1d]

def counts (last : UInt8) : Bool :=
  last = 15 || last = 17 || last = 19 || last = 30 || last = 31 || last = 37

-- All are sequences but one, which is free.
def isContent (last : UInt8) (content : Bytes) : Bool :=
  last = 15 || (Der.whole? Der.sequence content).isSome

def critical? (input : Bytes) : Option (Bool × Bytes) :=
  match Der.optional? Der.boolean input with
  | some (none, rest) => some (false, rest)
  | some (some [0xff], rest) => some (true, rest)
  | some (some [0x00], rest) => some (false, rest)
  | _ => none

-- Each extension that counts comes once, and no other one is critical.
def extensionsFrom : Nat → List UInt8 → Bytes → Option Unit
  | _, _, [] => some ()
  | 0, _, _ => none
  | fuel + 1, seen, input => do
    let (extension, rest) ← Der.value? Der.sequence input
    let (name, extension) ← Der.value? Der.objectId extension
    let (critical, extension) ← critical? extension
    let content ← Der.whole? Der.octetString extension
    match name with
    | [first, second, last] =>
      if [first, second] = usual ∧ counts last then
        if seen.contains last ∨ !isContent last content then none
        else extensionsFrom fuel (last :: seen) rest
      else if critical then none
      else extensionsFrom fuel seen rest
    | _ => if critical then none else extensionsFrom fuel seen rest

def extensions? (input : Bytes) : Option Unit :=
  if input.isEmpty then some ()
  else do
    let holder ← Der.whole? (Der.context 3) input
    let content ← Der.whole? Der.sequence holder
    extensionsFrom content.length [] content

-- Signatures and names are not looked at.
def publicKey? (certificate : Bytes) : Option Bytes := do
  let outer ← Der.whole? Der.sequence certificate
  let (inner, outer) ← Der.value? Der.sequence outer
  let (algorithm, outer) ← Der.value? Der.sequence outer
  let signature ← Der.whole? Der.bitString outer
  let _ ← Der.wholeOctets? signature
  let (version, inner) ← Der.value? (Der.context 0) inner
  let (number, rest) ← Der.natural? version
  let (_, inner) ← Der.value? Der.integer inner
  let (signed, inner) ← Der.value? Der.sequence inner
  let (_, inner) ← Der.value? Der.sequence inner
  let (_, inner) ← Der.value? Der.sequence inner
  let (_, inner) ← Der.value? Der.sequence inner
  let (key, inner) ← Der.value? Der.sequence inner
  let _ ← extensions? inner
  if number = 2 ∧ rest = [] ∧ signed = algorithm then some key else none

end HostTools.Certificate
