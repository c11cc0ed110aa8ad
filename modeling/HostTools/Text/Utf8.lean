import HostTools.Text.Bytes

set_option autoImplicit false

namespace HostTools.Utf8

-- The octets still owed, the bounds of the next one, the bits so far.
structure Unfinished where
  owed : Nat
  low : UInt8
  high : UInt8
  bits : Nat
deriving DecidableEq, Repr

inductive Move where
  | emit (char : Char)
  | wait (state : Unfinished)
  | refuse
deriving DecidableEq, Repr

def first (byte : UInt8) : Move :=
  if byte < 0x80 then .emit (Char.ofNat byte.toNat)
  else if byte < 0xc2 then .refuse
  else if byte < 0xe0 then .wait ⟨1, 0x80, 0xbf, byte.toNat - 0xc0⟩
  else if byte = 0xe0 then .wait ⟨2, 0xa0, 0xbf, 0⟩
  else if byte = 0xed then .wait ⟨2, 0x80, 0x9f, 0xd⟩
  else if byte < 0xf0 then .wait ⟨2, 0x80, 0xbf, byte.toNat - 0xe0⟩
  else if byte = 0xf0 then .wait ⟨3, 0x90, 0xbf, 0⟩
  else if byte < 0xf4 then .wait ⟨3, 0x80, 0xbf, byte.toNat - 0xf0⟩
  else if byte = 0xf4 then .wait ⟨3, 0x80, 0x8f, 4⟩
  else .refuse

def next (state : Unfinished) (byte : UInt8) : Move :=
  if state.low ≤ byte ∧ byte ≤ state.high then
    let bits := state.bits * 64 + (byte.toNat - 0x80)
    if state.owed ≤ 1 then .emit (Char.ofNat bits)
    else .wait ⟨state.owed - 1, 0x80, 0xbf, bits⟩
  else .refuse

def replacement : Char := Char.ofNat 0xfffd

-- An octet that no character can have there is read again as a first one, so each maximal part of
-- an ill-formed sequence becomes one U+FFFD.
def lossyFrom : Option Unfinished → Bytes → List Char
  | none, [] => []
  | some _, [] => [replacement]
  | none, byte :: rest =>
    match first byte with
    | .emit char => char :: lossyFrom none rest
    | .wait state => lossyFrom (some state) rest
    | .refuse => replacement :: lossyFrom none rest
  | some state, byte :: rest =>
    match next state byte with
    | .emit char => char :: lossyFrom none rest
    | .wait further => lossyFrom (some further) rest
    | .refuse =>
      replacement ::
        match first byte with
        | .emit char => char :: lossyFrom none rest
        | .wait again => lossyFrom (some again) rest
        | .refuse => replacement :: lossyFrom none rest

def lossy (bytes : Bytes) : String := String.ofList (lossyFrom none bytes)

def strictFrom : Option Unfinished → Bytes → Option (List Char)
  | none, [] => some []
  | some _, [] => none
  | none, byte :: rest =>
    match first byte with
    | .emit char => (strictFrom none rest).map (char :: ·)
    | .wait state => strictFrom (some state) rest
    | .refuse => none
  | some state, byte :: rest =>
    match next state byte with
    | .emit char => (strictFrom none rest).map (char :: ·)
    | .wait further => strictFrom (some further) rest
    | .refuse => none

def strict? (bytes : Bytes) : Option String := (strictFrom none bytes).map String.ofList

end HostTools.Utf8
