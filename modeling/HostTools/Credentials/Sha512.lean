import HostTools.Text.Bytes

set_option autoImplicit false

namespace HostTools.Sha512

def root (power bound : Nat) : Nat → Nat → Nat
  | 0, found => found
  | bits + 1, found =>
    let next := found + Nat.pow 2 bits
    root power bound bits (if Nat.pow next power ≤ bound then next else found)

def isPrime (number : Nat) : Bool :=
  2 ≤ number && (List.range number).all fun divisor => divisor < 2 || number % divisor ≠ 0

def primes : List Nat := (List.range 410).filter isPrime

-- The constants of the hash are the first 64 bits of the fractions of square and cube roots of the
-- first primes.
def fraction (power prime : Nat) : UInt64 :=
  UInt64.ofNat (root power (prime * Nat.pow 2 (64 * power)) 70 0)

def roundConstants (_ : Unit) : Array UInt64 := (primes.map (fraction 3)).toArray

structure State where
  a : UInt64
  b : UInt64
  c : UInt64
  d : UInt64
  e : UInt64
  f : UInt64
  g : UInt64
  h : UInt64

def State.words (state : State) : List UInt64 :=
  [state.a, state.b, state.c, state.d, state.e, state.f, state.g, state.h]

def State.add (left right : State) : State :=
  ⟨left.a + right.a, left.b + right.b, left.c + right.c, left.d + right.d, left.e + right.e,
    left.f + right.f, left.g + right.g, left.h + right.h⟩

def start (_ : Unit) : State :=
  match primes.map (fraction 2) with
  | a :: b :: c :: d :: e :: f :: g :: h :: _ => ⟨a, b, c, d, e, f, g, h⟩
  | _ => ⟨0, 0, 0, 0, 0, 0, 0, 0⟩

def rotate (word count : UInt64) : UInt64 := (word >>> count) ||| (word <<< (64 - count))

-- The sixteen words before the next one are given latest first.
def nextWord (latest : List UInt64) : UInt64 :=
  let before (count : Nat) : UInt64 := latest.getD (count - 1) 0
  let low := before 15
  let high := before 2
  before 16 + (rotate low 1 ^^^ rotate low 8 ^^^ (low >>> 7)) + before 7 +
    (rotate high 19 ^^^ rotate high 61 ^^^ (high >>> 6))

def extend : Nat → List UInt64 → List UInt64
  | 0, latest => latest
  | count + 1, latest => extend count (nextWord latest :: latest)

def round (state : State) (word constant : UInt64) : State :=
  let choice := (state.e &&& state.f) ^^^ ((~~~state.e) &&& state.g)
  let majority := (state.a &&& state.b) ^^^ (state.a &&& state.c) ^^^ (state.b &&& state.c)
  let first := state.h + (rotate state.e 14 ^^^ rotate state.e 18 ^^^ rotate state.e 41) + choice +
    constant + word
  let second := (rotate state.a 28 ^^^ rotate state.a 34 ^^^ rotate state.a 39) + majority
  ⟨first + second, state.a, state.b, state.c, state.d + first, state.e, state.f, state.g⟩

def word (octets : Bytes) : UInt64 :=
  octets.foldl (fun value octet => value * 256 + octet.toUInt64) 0

def blockWords (block : Bytes) : List UInt64 :=
  (List.range 16).map fun index => word ((block.drop (8 * index)).take 8)

def absorb (constants : Array UInt64) (state : State) (block : Bytes) : State :=
  let schedule := (extend 64 (blockWords block).reverse).reverse
  let worked := (schedule.zip constants.toList).foldl (fun state (word, constant) =>
    round state word constant) state
  state.add worked

def padded (message : Bytes) : Bytes :=
  let size := message.length
  let zeros := (239 - size % 128) % 128
  message ++ 0x80 :: List.replicate zeros 0 ++
    (List.range 16).map fun index => UInt8.ofNat (8 * size / Nat.pow 256 (15 - index))

def absorbAll (constants : Array UInt64) : Nat → State → Bytes → State
  | 0, state, _ => state
  | count + 1, state, message =>
    absorbAll constants count (absorb constants state (message.take 128)) (message.drop 128)

def wordOctets (value : UInt64) : Bytes :=
  (List.range 8).map fun index => (value >>> (UInt64.ofNat (8 * (7 - index)))).toUInt8

def hash (message : Bytes) : Bytes :=
  let blocks := padded message
  (absorbAll (roundConstants ()) (blocks.length / 128) (start ()) blocks).words.flatMap wordOctets

end HostTools.Sha512
