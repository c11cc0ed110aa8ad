import HostTools.Text.Bytes

set_option autoImplicit false

namespace HostTools.Percent

def upperDigit (value : Nat) : Char :=
  if value < 10 then Char.ofNat (0x30 + value) else Char.ofNat (0x41 + (value - 10))

def triplet (byte : UInt8) : List Char :=
  ['%', upperDigit (byte.toNat / 16), upperDigit (byte.toNat % 16)]

def isControl (c : Char) : Bool := c.toNat < 0x20 || c.toNat = 0x7f

def inFragment (c : Char) : Bool :=
  isControl c || c = ' ' || c = '"' || c = '<' || c = '>' || c.toNat = 0x60

def inQuery (c : Char) : Bool :=
  isControl c || c = ' ' || c = '"' || c = '#' || c = '<' || c = '>' || c.toNat = 0x27

def inPath (c : Char) : Bool :=
  inFragment c || c = '#' || c = '?' || c = '\x7b' || c = '\x7d'

def inUserinfo (c : Char) : Bool :=
  inPath c || c = '/' || c = ':' || c = ';' || c = '=' || c = '@' || c = '[' || c = '\\' ||
    c = ']' || c = '^' || c = '|'

-- Characters above ASCII are always replaced.
def char (replaced : Char → Bool) (c : Char) : List Char :=
  if replaced c || 0x80 ≤ c.toNat then (String.utf8EncodeChar c).flatMap triplet else [c]

def encode (replaced : Char → Bool) (text : List Char) : List Char := text.flatMap (char replaced)

def decode : Bytes → Bytes
  | [] => []
  | [a] => [a]
  | [a, b] => [a, b]
  | a :: b :: c :: rest =>
    if a = 0x25 then
      match Bytes.hexDigit? b, Bytes.hexDigit? c with
      | some high, some low => UInt8.ofNat (high * 16 + low) :: decode rest
      | _, _ => a :: decode (b :: c :: rest)
    else a :: decode (b :: c :: rest)

end HostTools.Percent
