set_option autoImplicit false

namespace HostTools.Punycode

def digitChar (value : Nat) : Char :=
  if value < 26 then Char.ofNat (0x61 + value) else Char.ofNat (0x30 + (value - 26))

def digitValue? (c : Char) : Option Nat :=
  if 'a' ≤ c ∧ c ≤ 'z' then some (c.toNat - 0x61)
  else if '0' ≤ c ∧ c ≤ '9' then some (c.toNat - 0x30 + 26)
  else none

def threshold (position bias : Nat) : Nat :=
  if position ≤ bias then 1 else if bias + 26 ≤ position then 26 else position - bias

theorem one_le_threshold (position bias : Nat) : 1 ≤ threshold position bias := by
  unfold threshold
  split
  · omega
  · split <;> omega

def settle (delta position : Nat) : Nat :=
  if 455 < delta then settle (delta / 35) (position + 36)
  else position + 36 * delta / (delta + 38)
termination_by delta

def adapt (delta placed : Nat) (first : Bool) : Nat :=
  let damped := if first then delta / 700 else delta / 2
  settle (damped + damped / placed) 0

def distance (bias position value : Nat) : List Char :=
  let t := threshold position bias
  if value < t then [digitChar value]
  else digitChar (t + (value - t) % (36 - t)) :: distance bias (position + 36) ((value - t) / (36 - t))
termination_by value
decreasing_by
  have := one_le_threshold position bias
  have := Nat.div_le_self (value - threshold position bias) (36 - threshold position bias)
  omega

structure Writer where
  delta : Nat
  bias : Nat
  placed : Nat
  reversed : List Char

def pass (basic number : Nat) : Writer → List Char → Writer
  | writer, [] => writer
  | writer, c :: rest =>
    if c.toNat < number then pass basic number { writer with delta := writer.delta + 1 } rest
    else if c.toNat = number then
      pass basic number
        { delta := 0
          bias := adapt writer.delta (writer.placed + 1) (writer.placed = basic)
          placed := writer.placed + 1
          reversed := (distance writer.bias 36 writer.delta).reverse ++ writer.reversed } rest
    else pass basic number writer rest

def passes (label : List Char) (basic : Nat) : Nat → Writer → List Nat → Writer
  | _, writer, [] => writer
  | next, writer, number :: more =>
    let start := { writer with delta := writer.delta + (number - next) * (writer.placed + 1) }
    let done := pass basic number start label
    passes label basic (number + 1) { done with delta := done.delta + 1 } more

def ascending (numbers : List Nat) : List Nat := (numbers.mergeSort (· ≤ ·)).eraseDups

def isBasic (c : Char) : Bool := c.toNat < 0x80

-- The ASCII characters come first. Then for each other character, in the order of their numbers,
-- the distance from the one before is written in digits of base 36 whose thresholds adapt to the
-- distances seen so far.
def encode (label : List Char) : List Char :=
  let basic := label.filter isBasic
  let numbers := ascending ((label.filter fun c => !isBasic c).map Char.toNat)
  let writer := passes label basic.length 0x80 ⟨0, 72, basic.length, []⟩ numbers
  basic ++ (if basic.isEmpty then [] else ['-']) ++ writer.reversed.reverse

structure Reader where
  number : Nat
  index : Nat
  bias : Nat
  label : List Char

structure Partial where
  value : Nat
  weight : Nat
  position : Nat

def isNumber (number : Nat) : Bool :=
  0x80 ≤ number && number < 0x110000 && !(0xd800 ≤ number && number < 0xe000)

def place? (reader : Reader) (value : Nat) : Option Reader :=
  let length := reader.label.length + 1
  let number := reader.number + value / length
  let index := value % length
  if isNumber number then
    some
      { number
        index := index + 1
        bias := adapt (value - reader.index) length (reader.index = 0)
        label := reader.label.take index ++ Char.ofNat number :: reader.label.drop index }
  else none

-- Between distances there is no partial one.
def read? : Reader → Option Partial → List Char → Option (List Char)
  | reader, none, [] => some reader.label
  | _, some _, [] => none
  | reader, state, c :: rest =>
    let now := state.getD ⟨reader.index, 1, 36⟩
    match digitValue? c with
    | none => none
    | some digit =>
      let value := now.value + digit * now.weight
      let t := threshold now.position reader.bias
      if digit < t then
        match place? reader value with
        | some next => read? next none rest
        | none => none
      else read? reader (some ⟨value, now.weight * (36 - t), now.position + 36⟩) rest

-- A hyphen in front belongs to the second part.
def cutLast (label : List Char) : List Char × List Char :=
  let tail := (label.reverse.takeWhile (· ≠ '-')).reverse
  match (label.take (label.length - tail.length)).dropLast with
  | [] => ([], label)
  | front => (front, tail)

def decode? (text : List Char) : Option (List Char) :=
  let (basic, digits) := cutLast text
  if basic.all isBasic then read? ⟨0x80, 0, 72, basic⟩ none digits else none

end HostTools.Punycode
