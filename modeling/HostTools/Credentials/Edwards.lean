import HostTools.Credentials.Residue
import HostTools.Credentials.Sha512

set_option autoImplicit false

namespace HostTools.Edwards

def prime : Nat := Nat.pow 2 255 - 19

def d : Nat := Residue.mul prime (prime - 121665) (Residue.inverse prime 121666)

-- A point of -x² + y² = 1 + dx²y² over the prime field of 2²⁵⁵ - 19: it is (x / z, y / z), and t is
-- xy / z.
structure Point where
  x : Nat
  y : Nat
  z : Nat
  t : Nat

def neutral : Point := ⟨0, 1, 1, 0⟩

def add (twiceD : Nat) (left right : Point) : Point :=
  let p := prime
  let a := Residue.sub p left.y left.x * Residue.sub p right.y right.x % p
  let b := (left.y + left.x) * (right.y + right.x) % p
  let c := left.t * twiceD * right.t % p
  let d := 2 * left.z * right.z % p
  let e := Residue.sub p b a
  let f := Residue.sub p d c
  let g := d + c
  let h := b + a
  ⟨e * f % p, g * h % p, f * g % p, e * h % p⟩

-- Its y is 4 / 5, and its x is even.
def base (_ : Unit) : Point :=
  let y := 4 * Residue.inverse prime 5 % prime
  let yy := y * y % prime
  let xx := Residue.sub prime yy 1 * Residue.inverse prime (d * yy + 1) % prime
  let guess := Residue.pow prime xx ((prime + 3) / 8)
  let x := if guess * guess % prime = xx then guess
    else guess * Residue.pow prime 2 ((prime - 1) / 4) % prime
  let x := if x % 2 = 0 then x else prime - x
  ⟨x, y, 1, x * y % prime⟩

def multiple (bits : List Bool) : Point :=
  let base := base ()
  let twiceD := 2 * d % prime
  bits.foldl (fun point bit =>
    let doubled := add twiceD point point
    if bit then add twiceD doubled base else doubled) neutral

-- The first half of the seed's hash, with its lowest three bits and its highest bit off and the bit
-- below that on.
def secret (seed : Bytes) : Nat :=
  let hashed := (Sha512.hash seed).take 32
  let number := hashed.foldr (fun octet value => value * 256 + octet.toNat) 0
  Nat.pow 2 254 + number % Nat.pow 2 254 / 8 * 8

def publicKey (seed : Bytes) : Bytes :=
  let point := multiple (Residue.bits (secret seed)).reverse
  let inverse := Residue.inverse prime point.z
  let x := point.x * inverse % prime
  let y := point.y * inverse % prime
  (Residue.octets 32 (y + x % 2 * Nat.pow 2 255)).reverse

end HostTools.Edwards
