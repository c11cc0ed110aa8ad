import HostTools.Text.Digits

set_option autoImplicit false

namespace HostTools

-- The bits of a significand, and the least and the greatest power of two it may stand with.
structure FloatingFormat where
  bits : Nat
  least : Int
  greatest : Int
deriving DecidableEq, Repr

namespace FloatingFormat

def double : FloatingFormat := ⟨53, -1074, 971⟩

def extended : FloatingFormat := ⟨64, -16445, 16320⟩

end FloatingFormat

inductive Magnitude where
  -- The number `significand * 2 ^ exponent`.
  | finite (significand : Nat) (exponent : Int)
  | infinite
  | nan
deriving DecidableEq, Repr

structure Floating where
  negative : Bool
  magnitude : Magnitude
deriving DecidableEq, Repr

namespace Floating

def zero : Floating := ⟨false, .finite 0 0⟩

def nearest (num den : Nat) : Nat :=
  let quotient := num / den
  let twice := 2 * (num % den)
  if den < twice ∨ (twice = den ∧ quotient % 2 = 1) then quotient + 1 else quotient

-- The ratio `num / (den * base ^ exponent)`.
def scaled (base num den : Nat) (exponent : Int) : Nat × Nat :=
  if 0 ≤ exponent then (num, den * Nat.pow base exponent.toNat)
  else (num * Nat.pow base (-exponent).toNat, den)

def ofRatio (format : FloatingFormat) (num den : Nat) : Magnitude × Bool :=
  if num = 0 then (.finite 0 0, false)
  else
    let low := (Nat.log2 num : Int) - Nat.log2 den - format.bits
    let low := if low < format.least then format.least else low
    let (n, d) := scaled 2 num den low
    let exponent := if Nat.pow 2 format.bits ≤ n / d then low + 1 else low
    let (n, d) := scaled 2 num den exponent
    let rounded := nearest n d
    let (significand, exponent) :=
      if rounded = Nat.pow 2 format.bits then (Nat.pow 2 (format.bits - 1), exponent + 1)
      else (rounded, exponent)
    if format.greatest < exponent then (.infinite, true)
    else
      let tiny := significand < Nat.pow 2 (format.bits - 1) && n % d ≠ 0
      (.finite significand exponent, tiny)

def ofDecimal (format : FloatingFormat) (digits : Nat) (power : Int) : Magnitude × Bool :=
  let size := (Nat.toDigits 10 digits).length + power
  if digits = 0 then (.finite 0 0, false)
  else if 6000 < size then (.infinite, true)
  else if size < -6000 then (.finite 0 0, true)
  else
    let (n, d) := scaled 10 digits 1 (-power)
    ofRatio format n d

structure Reading where
  value : Floating := zero
  rest : List Char
  found : Bool := true
  outOfRange : Bool := false

-- With at most one point among the digits: their number, how many stand after the point, how many
-- there are, and what follows.
def pointed (base : Nat) : Nat → Nat → Nat → Bool → List Char → Nat × Nat × Nat × List Char
  | value, after, count, _, [] => (value, after, count, [])
  | value, after, count, seen, char :: rest =>
    if char = '.' && !seen then pointed base value after count true rest
    else
      match Digits.inBase? base char with
      | some digit =>
        pointed base (value * base + digit) (if seen then after + 1 else after) (count + 1) seen rest
      | none => (value, after, count, char :: rest)

def power (letter : Char) (text : List Char) : Int × List Char :=
  match text with
  | mark :: rest =>
    if mark.toLower ≠ letter then (0, text)
    else
      let (negative, digits) := match rest with
        | '-' :: more => (true, more)
        | '+' :: more => (false, more)
        | _ => (false, rest)
      match Digits.read? 10 (digits.takeWhile Char.isDigit) with
      | some value =>
        let value := if 1000000 < value then 1000000 else value
        (if negative then -(value : Int) else value, digits.dropWhile Char.isDigit)
      | none => (0, text)
  | [] => (0, [])

def after? (word : String) (text : List Char) : Option (List Char) :=
  if (text.take word.length).map Char.toLower = word.toList then some (text.drop word.length) else none

def afterNan (text : List Char) : List Char :=
  match text with
  | '(' :: rest =>
    match rest.dropWhile fun char => char.isAlphanum || char = '_' with
    | ')' :: beyond => beyond
    | _ => text
  | _ => text

def isSpace (char : Char) : Bool := char = ' ' || ('\t' ≤ char && char ≤ '\r')

def magnitude? (format : FloatingFormat) (text : List Char) : Option (Magnitude × Bool × List Char) :=
  match after? "infinity" text, after? "inf" text, after? "nan" text with
  | some rest, _, _ => some (.infinite, false, rest)
  | none, some rest, _ => some (.infinite, false, rest)
  | none, none, some rest => some (.nan, false, afterNan rest)
  | none, none, none =>
    let decimal : Option (Magnitude × Bool × List Char) :=
      let (digits, after, count, rest) := pointed 10 0 0 0 false text
      if count = 0 then none
      else
        let (exponent, rest) := power 'e' rest
        let (value, outOfRange) := ofDecimal format digits (exponent - after)
        some (value, outOfRange, rest)
    match after? "0x" text with
    | some body =>
      let (digits, after, count, rest) := pointed 16 0 0 0 false body
      if count = 0 then decimal
      else
        let (exponent, rest) := power 'p' rest
        let exponent := exponent - 4 * (after : Int)
        let size := (Nat.log2 digits : Int) + exponent
        let (value, outOfRange) : Magnitude × Bool :=
          if digits = 0 then (.finite 0 0, false)
          else if 20000 < size then (.infinite, true)
          else if size < -20000 then (.finite 0 0, true)
          else
            let (n, d) := scaled 2 digits 1 (-exponent)
            ofRatio format n d
        some (value, outOfRange, rest)
    | none => decimal

def read (format : FloatingFormat) (text : List Char) : Reading :=
  let body := text.dropWhile isSpace
  let (negative, body) := match body with
    | '-' :: rest => (true, rest)
    | '+' :: rest => (false, rest)
    | _ => (false, body)
  match magnitude? format body with
  | some (magnitude, outOfRange, rest) => { value := ⟨negative, magnitude⟩, rest, outOfRange }
  | none => { rest := text, found := false }

inductive Style where
  | fixed
  | scientific
  | general
  | hexadecimal
deriving DecidableEq, Repr

def padded (width value : Nat) : List Char :=
  let digits := Nat.toDigits 10 value
  List.replicate (width - digits.length) '0' ++ digits

def withPoint (places : Nat) (keepPoint : Bool) (digits : List Char) : List Char :=
  let front := digits.take (digits.length - places)
  let back := digits.drop (digits.length - places)
  front ++ (if places = 0 && !keepPoint then [] else '.' :: back)

def fixedDigits (places : Nat) (keepPoint : Bool) (num den : Nat) : List Char :=
  withPoint places keepPoint (padded (places + 1) (nearest (num * Nat.pow 10 places) den))

def leading (num den : Nat) : Int :=
  let guess : Int := (Nat.toDigits 10 num).length - (Nat.toDigits 10 den).length
  let (n, d) := scaled 10 num den guess
  if n < d then guess - 1 else guess

def scientificDigits (places : Nat) (num den : Nat) : Nat × Int :=
  if num = 0 then (0, 0)
  else
    let first := leading num den
    let (n, d) := scaled 10 num den (first - places)
    let rounded := nearest n d
    if rounded = Nat.pow 10 (places + 1) then (Nat.pow 10 places, first + 1) else (rounded, first)

def exponentText (letter : Char) (width : Nat) (exponent : Int) : List Char :=
  letter :: (if exponent < 0 then '-' else '+') :: padded width exponent.natAbs

def dropZeros (digits : List Char) : List Char :=
  if digits.contains '.' then
    let kept := (digits.reverse.dropWhile (· = '0')).reverse
    if kept.getLast? = some '.' then kept.dropLast else kept
  else digits

def generalDigits (precision : Nat) (alternate : Bool) (num den : Nat) : List Char :=
  let precision := if precision = 0 then 1 else precision
  let (digits, exponent) := scientificDigits (precision - 1) num den
  let tidy := fun text => if alternate then text else dropZeros text
  if exponent < -4 || (precision : Int) ≤ exponent then
    tidy (withPoint (precision - 1) alternate (padded precision digits)) ++ exponentText 'e' 2 exponent
  else tidy (fixedDigits (precision - 1 - exponent).toNat alternate num den)

-- The first digit has as many bits as the width leaves over.
def hexDigits (format : FloatingFormat) (precision : Option Nat) (alternate : Bool) (significand : Nat)
    (exponent : Int) : List Char :=
  let places := (format.bits - 1) / 4
  let shift := 4 * places
  let normal := significand ≠ 0 && format.bits ≤ Nat.log2 significand + 1
  let lift := if significand = 0 || normal then 0
    else if format.bits % 4 = 0 then format.bits - 1 - Nat.log2 significand
    else 0
  let significand := significand * Nat.pow 2 lift
  let exponent := if significand = 0 then (0 : Int) else exponent + shift - lift
  let precision' := precision.getD places
  let rounded := if precision' < places then nearest significand (Nat.pow 16 (places - precision')) else significand
  let kept := if precision' < places then precision' else places
  let digits := Nat.toDigits 16 rounded
  let digits := List.replicate (kept + 1 - digits.length) '0' ++ digits
  let digits := digits ++ List.replicate (precision' - kept) '0'
  let text := withPoint precision' alternate digits
  let text := if precision.isNone then dropZeros text else text
  '0' :: 'x' :: text ++ exponentText 'p' 1 exponent

def body (format : FloatingFormat) (style : Style) (precision : Option Nat) (alternate : Bool)
    (magnitude : Magnitude) : List Char :=
  match magnitude with
  | .infinite => "inf".toList
  | .nan => "nan".toList
  | .finite significand exponent =>
    let (num, den) := scaled 2 significand 1 (-exponent)
    let places := precision.getD 6
    match style with
    | .fixed => fixedDigits places alternate num den
    | .scientific =>
      let (digits, power) := scientificDigits places num den
      withPoint places alternate (padded (places + 1) digits) ++ exponentText 'e' 2 power
    | .general => generalDigits places alternate num den
    | .hexadecimal => hexDigits format precision alternate significand exponent

end Floating

end HostTools
