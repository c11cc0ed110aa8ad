import HostTools.Text.Bytes

set_option autoImplicit false

namespace HostTools.Digits

def value? (c : Char) : Option Nat :=
  if '0' ≤ c ∧ c ≤ '9' then some (c.toNat - 0x30)
  else if 'a' ≤ c ∧ c ≤ 'f' then some (c.toNat - 0x61 + 10)
  else if 'A' ≤ c ∧ c ≤ 'F' then some (c.toNat - 0x41 + 10)
  else none

def inBase? (base : Nat) (c : Char) : Option Nat :=
  (value? c).filter (· < base)

def decimal (n : Nat) : List Char := Nat.toDigits 10 n

def hex (n : Nat) : List Char := Nat.toDigits 16 n

def readOnto (base : Nat) : Nat → List Char → Option Nat
  | soFar, [] => some soFar
  | soFar, c :: rest =>
    match inBase? base c with
    | some digit => readOnto base (soFar * base + digit) rest
    | none => none

def read? (base : Nat) : List Char → Option Nat
  | [] => none
  | digits => readOnto base 0 digits

def signed : Int → List Char
  | .ofNat n => decimal n
  | .negSucc n => '-' :: decimal (n + 1)

def decimalText (n : Nat) : String := String.ofList (decimal n)

def signedText (n : Int) : String := String.ofList (signed n)

end HostTools.Digits
