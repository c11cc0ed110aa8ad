set_option autoImplicit false

namespace HostTools.Residue

def sub (modulus a b : Nat) : Nat := (a + (modulus - b % modulus)) % modulus

def mul (modulus a b : Nat) : Nat := a * b % modulus

def pow (modulus base exponent : Nat) : Nat :=
  if exponent = 0 then 1 % modulus
  else
    let half := pow modulus (base * base % modulus) (exponent / 2)
    if exponent % 2 = 0 then half else half * base % modulus
termination_by exponent
decreasing_by omega

def inverse (prime a : Nat) : Nat := pow prime a (prime - 2)

def bitLength (number : Nat) : Nat := if number = 0 then 0 else Nat.log2 number + 1

def bits (number : Nat) : List Bool :=
  if number = 0 then [] else (number % 2 = 1) :: bits (number / 2)
termination_by number
decreasing_by omega

def octets : Nat → Nat → List UInt8
  | 0, _ => []
  | count + 1, number => octets count (number / 256) ++ [UInt8.ofNat (number % 256)]

end HostTools.Residue
