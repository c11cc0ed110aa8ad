import HostTools.Text.Digits

set_option autoImplicit false

namespace HostTools

-- The value `significand * 2 ^ exponent`, with a significand of at most 53 bits.
structure Binary64 where
  significand : Nat
  exponent : Int
deriving DecidableEq, Repr

namespace Binary64

def zero : Binary64 := ⟨0, -1074⟩

def roundQuotient (num den : Nat) : Nat :=
  let quotient := num / den
  let twice := 2 * (num % den)
  if den < twice ∨ (twice = den ∧ quotient % 2 = 1) then quotient + 1 else quotient

-- The ratio `num / (den * 2 ^ exponent)`.
def scaled (num den : Nat) (exponent : Int) : Nat × Nat :=
  if 0 ≤ exponent then (num, den * Nat.pow 2 exponent.toNat) else (num * Nat.pow 2 (-exponent).toNat, den)

def ofRatio? (num den : Nat) : Option Binary64 :=
  if num = 0 then some zero
  else
    let low := max (-1074) ((Nat.log2 num : Int) - Nat.log2 den - 53)
    let (n, d) := scaled num den low
    let exponent := if Nat.pow 2 53 ≤ n / d then low + 1 else low
    let (n, d) := scaled num den exponent
    let rounded := roundQuotient n d
    let value : Binary64 :=
      if rounded = Nat.pow 2 53 then ⟨Nat.pow 2 52, exponent + 1⟩ else ⟨rounded, exponent⟩
    if 971 < value.exponent then none else some value

def ratio (value : Binary64) : Nat × Nat :=
  if 0 ≤ value.exponent then (value.significand * Nat.pow 2 value.exponent.toNat, 1)
  else (value.significand, Nat.pow 2 (-value.exponent).toNat)

def ofDecimal? (digits : Nat) (power : Int) : Option Binary64 :=
  if 0 ≤ power then ofRatio? (digits * Nat.pow 10 power.toNat) 1
  else ofRatio? digits (Nat.pow 10 (-power).toNat)

-- The power of ten is rounded, too.
def timesPower? (value : Binary64) (power : Nat) : Option Binary64 :=
  match ofDecimal? 1 power with
  | some factor =>
    let (a, b) := value.ratio
    let (c, d) := factor.ratio
    ofRatio? (a * c) (b * d)
  | none => none

def overPower? (value : Binary64) (power : Nat) : Option Binary64 :=
  match ofDecimal? 1 power with
  | some divisor =>
    let (a, b) := value.ratio
    let (c, d) := divisor.ratio
    ofRatio? (a * d) (b * c)
  | none => none

-- The value lies in `[10 ^ (n - 1), 10 ^ n)`.
def magnitude (num den : Nat) : Int :=
  let guess : Int := (Digits.decimal (num / den)).length
  if den ≤ num then guess
  else 1 - ((Digits.decimal ((den - 1) / num)).length : Int)

def neighbours (num den length : Nat) (point : Int) : List (Nat × Int) :=
  let power := point - length
  let (n, d) := if 0 ≤ power then (num, den * Nat.pow 10 power.toNat)
    else (num * Nat.pow 10 (-power).toNat, den)
  let below := n / d
  if 2 * (n % d) ≤ d then [(below, power), (below + 1, power)]
  else [(below + 1, power), (below, power)]

def shortestFrom (value : Binary64) (num den : Nat) (point : Int) : Nat → Nat → Nat × Int
  | 0, length => (neighbours num den length point).headD (0, 0)
  | fuel + 1, length =>
    match (neighbours num den length point).find? fun (digits, power) =>
      ofDecimal? digits power = some value with
    | some found => found
    | none => shortestFrom value num den point fuel (length + 1)

def shortest (value : Binary64) : Nat × Int :=
  let (num, den) := value.ratio
  shortestFrom value num den (magnitude num den) 17 1

def trimZeros : Nat → Nat × Int → Nat × Int
  | 0, decimal => decimal
  | fuel + 1, (digits, power) =>
    if digits % 10 = 0 ∧ digits ≠ 0 then trimZeros fuel (digits / 10, power + 1)
    else (digits, power)

-- Positional notation while the point stands from five places before the first digit to sixteen
-- after it, and a power of ten, always with its sign, otherwise.
def render (value : Binary64) : List Char :=
  if value.significand = 0 then ['0', '.', '0']
  else
    let (number, power) := trimZeros 20 value.shortest
    let digits := Digits.decimal number
    let point := (digits.length : Int) + power
    if 0 ≤ power ∧ point ≤ 16 then digits ++ List.replicate power.toNat '0' ++ ['.', '0']
    else if 0 < point ∧ point ≤ 16 then
      digits.take point.toNat ++ '.' :: digits.drop point.toNat
    else if -5 < point ∧ point ≤ 0 then
      '0' :: '.' :: List.replicate (-point).toNat '0' ++ digits
    else
      let tail := if digits.length = 1 then [] else '.' :: digits.drop 1
      let sign := if 0 < point then ['+'] else []
      digits.take 1 ++ tail ++ 'e' :: sign ++ Digits.signed (point - 1)

end Binary64

end HostTools
