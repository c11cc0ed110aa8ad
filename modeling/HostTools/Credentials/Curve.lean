import HostTools.Credentials.Residue

set_option autoImplicit false

namespace HostTools

-- The curve y² = x³ - 3x + b over a prime field. Sums of points do not depend on b.
structure Curve where
  prime : Nat
  order : Nat
  baseX : Nat
  baseY : Nat
  size : Nat

namespace Curve

-- The point (x / z², y / z³), or the one at infinity where z is zero.
structure Point where
  x : Nat
  y : Nat
  z : Nat

def infinity : Point := ⟨1, 1, 0⟩

def double (curve : Curve) (point : Point) : Point :=
  let p := curve.prime
  if point.z = 0 || point.y = 0 then infinity
  else
    let zz := point.z * point.z % p
    let yy := point.y * point.y % p
    let s := 4 * point.x * yy % p
    let slope := 3 * (Residue.sub p point.x zz) * (point.x + zz) % p
    let x := Residue.sub p (slope * slope) (2 * s)
    ⟨x, Residue.sub p (slope * Residue.sub p s x) (8 * yy * yy), 2 * point.y * point.z % p⟩

def add (curve : Curve) (left right : Point) : Point :=
  let p := curve.prime
  if left.z = 0 then right
  else if right.z = 0 then left
  else
    let leftZZ := left.z * left.z % p
    let rightZZ := right.z * right.z % p
    let leftX := left.x * rightZZ % p
    let rightX := right.x * leftZZ % p
    let leftY := left.y * rightZZ * right.z % p
    let rightY := right.y * leftZZ * left.z % p
    if leftX = rightX then if leftY = rightY then curve.double left else infinity
    else
      let h := Residue.sub p rightX leftX
      let r := Residue.sub p rightY leftY
      let hh := h * h % p
      let hhh := h * hh % p
      let v := leftX * hh % p
      let x := Residue.sub p (r * r) (hhh + 2 * v)
      ⟨x, Residue.sub p (r * Residue.sub p v x) (leftY * hhh), left.z * right.z * h % p⟩

-- The bits come highest first.
def multiple (curve : Curve) (bits : List Bool) : Point :=
  let base : Point := ⟨curve.baseX, curve.baseY, 1⟩
  bits.foldl (fun point bit =>
    let doubled := curve.double point
    if bit then curve.add doubled base else doubled) infinity

def publicPoint (curve : Curve) (secret : Nat) : List UInt8 :=
  let point := curve.multiple (Residue.bits secret).reverse
  let inverse := Residue.inverse curve.prime point.z
  let square := inverse * inverse % curve.prime
  0x04 :: Residue.octets curve.size (point.x * square % curve.prime) ++
    Residue.octets curve.size (point.y * square * inverse % curve.prime)

def p256 : Curve where
  prime := 0xffffffff00000001000000000000000000000000ffffffffffffffffffffffff
  order := 0xffffffff00000000ffffffffffffffffbce6faada7179e84f3b9cac2fc632551
  baseX := 0x6b17d1f2e12c4247f8bce6e563a440f277037d812deb33a0f4a13945d898c296
  baseY := 0x4fe342e2fe1a7f9b8ee7eb4a7c0f9e162bce33576b315ececbb6406837bf51f5
  size := 32

def p384 : Curve where
  prime := 0xfffffffffffffffffffffffffffffffffffffffffffffffffffffffffffffffeffffffff0000000000000000ffffffff
  order := 0xffffffffffffffffffffffffffffffffffffffffffffffffc7634d81f4372ddf581a0db248b0a77aecec196accc52973
  baseX := 0xaa87ca22be8b05378eb1c71ef320ad746e1d3b628ba79b9859f741e082542a385502f25dbf55296c3a545e3872760ab7
  baseY := 0x3617de4a96262c6f5d9e98bf9292dc29f8f41dbd289a147ce9da3113b5f0b8c00a60b1ce1d7e819d7a431d7c90ea0e5f
  size := 48

end Curve

end HostTools
