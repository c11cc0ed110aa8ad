set_option autoImplicit false

namespace HostTools

abbrev Bytes := List UInt8

namespace Bytes

def ofChars (text : List Char) : Bytes := text.flatMap String.utf8EncodeChar

def ofText (text : String) : Bytes := ofChars text.toList

def toChar (byte : UInt8) : Char := Char.ofNat byte.toNat

-- Octets above ASCII stand for the character of their number.
def asciiText (bytes : Bytes) : String := String.ofList (bytes.map toChar)

def isDigit (byte : UInt8) : Bool := 0x30 ≤ byte && byte ≤ 0x39

def hexDigit? (byte : UInt8) : Option Nat :=
  if 0x30 ≤ byte && byte ≤ 0x39 then some (byte.toNat - 0x30)
  else if 0x41 ≤ byte && byte ≤ 0x46 then some (byte.toNat - 0x41 + 10)
  else if 0x61 ≤ byte && byte ≤ 0x66 then some (byte.toNat - 0x61 + 10)
  else none

def lower (byte : UInt8) : UInt8 :=
  if 0x41 ≤ byte && byte ≤ 0x5a then byte + 0x20 else byte

def sameLetters (a b : Bytes) : Bool := a.map lower == b.map lower

def cut (separator : UInt8) : Bytes → Bytes × Option Bytes
  | [] => ([], none)
  | byte :: rest =>
    if byte = separator then ([], some rest)
    else
      let (front, back) := cut separator rest
      (byte :: front, back)

def pieces (separator : UInt8) : Bytes → List Bytes
  | [] => [[]]
  | byte :: rest =>
    if byte = separator then [] :: pieces separator rest
    else
      match pieces separator rest with
      | [] => [[byte]]
      | piece :: more => (byte :: piece) :: more

def trim (blank : UInt8 → Bool) (bytes : Bytes) : Bytes :=
  ((bytes.dropWhile blank).reverse.dropWhile blank).reverse

end Bytes

end HostTools
