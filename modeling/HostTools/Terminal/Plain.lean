import HostTools.Text.Bytes

set_option autoImplicit false

namespace HostTools.Terminal

inductive Phase where
  | ground
  | escape
  | escapeIntermediate
  -- A control sequence: its start, its parameters, its intermediates, or one that is malformed.
  | controlStart
  | controlParameters
  | controlIntermediate
  | controlMalformed
  -- A device string: its start, its parameters, its intermediates, its data, or one that is
  -- malformed.
  | deviceStart
  | deviceParameters
  | deviceIntermediate
  | deviceData
  | deviceMalformed
  | system
  | ignored
  | character (missing : Nat)
deriving DecidableEq, Repr

inductive Role where
  | shown
  | control
  | silent
deriving DecidableEq, Repr

def isControl (octet : UInt8) : Bool := octet < 0x20

def within (first last octet : UInt8) : Bool := first ≤ octet && octet ≤ last

def following (octet : UInt8) : Nat :=
  if octet < 0xe0 then 1 else if octet < 0xf0 then 2 else 3

def change (phase : Phase) (octet : UInt8) : Option Phase × Role :=
  if octet = 0x18 || octet = 0x1a then (some .ground, .control)
  else if octet = 0x1b then (some .escape, .silent)
  else
    match phase with
    | .ground =>
      if within 0x20 0x7e octet then (none, .shown)
      else if within 0xc2 0xf4 octet then (some (.character (following octet)), .shown)
      else (none, .control)
    | .escape =>
      if isControl octet then (none, .control)
      else if within 0x20 0x2f octet then (some .escapeIntermediate, .silent)
      else if octet = 0x5b then (some .controlStart, .silent)
      else if octet = 0x5d then (some .system, .silent)
      else if octet = 0x50 then (some .deviceStart, .silent)
      else if octet = 0x58 || octet = 0x5e || octet = 0x5f then (some .ignored, .silent)
      else if within 0x30 0x7e octet then (some .ground, .silent)
      else (none, .silent)
    | .escapeIntermediate =>
      if isControl octet then (none, .control)
      else if within 0x30 0x7e octet then (some .ground, .silent)
      else (none, .silent)
    | .controlStart =>
      if isControl octet then (none, .control)
      else if within 0x20 0x2f octet then (some .controlIntermediate, .silent)
      else if within 0x30 0x3f octet then (some .controlParameters, .silent)
      else if within 0x40 0x7e octet then (some .ground, .silent)
      else (none, .silent)
    | .controlParameters =>
      if isControl octet then (none, .control)
      else if within 0x20 0x2f octet then (some .controlIntermediate, .silent)
      else if within 0x3c 0x3f octet then (some .controlMalformed, .silent)
      else if within 0x40 0x7e octet then (some .ground, .silent)
      else (none, .silent)
    | .controlIntermediate =>
      if isControl octet then (none, .control)
      else if within 0x30 0x3f octet then (some .controlMalformed, .silent)
      else if within 0x40 0x7e octet then (some .ground, .silent)
      else (none, .silent)
    | .controlMalformed =>
      if isControl octet then (none, .control)
      else if within 0x40 0x7e octet then (some .ground, .silent)
      else (none, .silent)
    | .deviceStart =>
      if within 0x20 0x2f octet then (some .deviceIntermediate, .silent)
      else if within 0x30 0x3f octet then (some .deviceParameters, .silent)
      else if within 0x40 0x7e octet then (some .deviceData, .silent)
      else (none, .silent)
    | .deviceParameters =>
      if within 0x20 0x2f octet then (some .deviceIntermediate, .silent)
      else if within 0x3c 0x3f octet then (some .deviceMalformed, .silent)
      else if within 0x40 0x7e octet then (some .deviceData, .silent)
      else (none, .silent)
    | .deviceIntermediate =>
      if within 0x30 0x3f octet then (some .deviceMalformed, .silent)
      else if within 0x40 0x7e octet then (some .deviceData, .silent)
      else (none, .silent)
    | .deviceData | .deviceMalformed | .ignored =>
      if octet = 0x9c then (some .ground, .silent) else (none, .silent)
    | .system => if octet = 0x07 then (some .ground, .silent) else (none, .silent)
    | .character _ => (none, .shown)

def isBlank (octet : UInt8) : Bool :=
  octet = 0x09 || octet = 0x0a || octet = 0x0c || octet = 0x0d

def isShown (role : Role) (octet : UInt8) : Bool :=
  match role with
  | .shown => true
  | .control => isBlank octet
  | .silent => false

-- A run goes on as in plain text, whatever the phase in which it began.
def shownStep (phase : Phase) (octet : UInt8) : Phase × Bool :=
  match phase with
  | .character (missing + 1) => (if missing = 0 then .ground else .character missing, true)
  | _ =>
    let (next, role) := change .ground octet
    (next.getD phase, isShown role octet)

-- A run of shown octets begins at the first one that its phase shows, and an octet that ends a run
-- is read again in the phase that it leads to.
def plainFrom : Phase → Bool → Bytes → Bytes
  | _, _, [] => []
  | phase, true, octet :: rest =>
    match shownStep phase octet with
    | (next, true) => octet :: plainFrom next true rest
    | (next, false) => plainFrom ((change next octet).1.getD next) false rest
  | phase, false, octet :: rest =>
    let (next, role) := change phase octet
    if isShown role octet then octet :: plainFrom (next.getD phase) true rest
    else plainFrom (next.getD phase) false rest

def plain (text : Bytes) : Bytes := plainFrom .ground false text

end HostTools.Terminal
