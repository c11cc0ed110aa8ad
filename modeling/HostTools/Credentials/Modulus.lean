import HostTools.Credentials.Der
import HostTools.Credentials.Residue

set_option autoImplicit false

namespace HostTools

structure ModulusKey where
  modulus : Nat
  publicExponent : Nat
  privateExponent : Nat
  p : Nat
  q : Nat
  exponentP : Nat
  exponentQ : Nat
  -- The inverse of q for p.
  coefficient : Nat
deriving DecidableEq, Repr

namespace ModulusKey

def read? (octets : Bytes) : Option ModulusKey := do
  let inner ← Der.whole? Der.sequence octets
  let (version, inner) ← Der.value? Der.integer inner
  let (modulus, inner) ← Der.natural? inner
  let (publicExponent, inner) ← Der.natural? inner
  let (privateExponent, inner) ← Der.natural? inner
  let (p, inner) ← Der.natural? inner
  let (q, inner) ← Der.natural? inner
  let (exponentP, inner) ← Der.natural? inner
  let (exponentQ, inner) ← Der.natural? inner
  let (coefficient, inner) ← Der.natural? inner
  if version = [0] ∧ inner = [] then
    some { modulus, publicExponent, privateExponent, p, q, exponentP, exponentQ, coefficient }
  else none

def isOdd (number : Nat) : Bool := number % 2 = 1

def factorBits (key : ModulusKey) : Nat := (Residue.bitLength key.modulus + 1) / 2

-- The modulus has from 2048 to 4096 bits, up to the last octet, and the public exponent from 17 to
-- 33.
def isPublicHalfSound (key : ModulusKey) : Bool :=
  let bits := Residue.bitLength key.modulus
  2040 < bits && bits ≤ 4096 && isOdd key.modulus && 65537 ≤ key.publicExponent &&
    key.publicExponent < Nat.pow 2 33 && isOdd key.publicExponent

def fits (exponent factor : Nat) : Bool := isOdd factor && isOdd exponent && exponent < factor

def hasInverse (key : ModulusKey) : Bool :=
  key.q < key.p && key.coefficient < key.p && key.coefficient * key.q % key.p = 1

-- The parts fit together as far as that can be told without factoring.
def isSound (key : ModulusKey) : Bool :=
  let half := key.factorBits
  key.isPublicHalfSound && Residue.bitLength key.p = half && Residue.bitLength key.q = half &&
    half % 512 = 0 && key.p * key.q % key.modulus = 0 &&
    half < Residue.bitLength key.privateExponent && key.privateExponent < key.modulus &&
    isOdd key.privateExponent && fits key.exponentP key.p && fits key.exponentQ key.q &&
    key.hasInverse

def publicHalf (key : ModulusKey) : Bytes :=
  Der.write Der.sequence (Der.writeNatural key.modulus ++ Der.writeNatural key.publicExponent)

end ModulusKey

end HostTools
