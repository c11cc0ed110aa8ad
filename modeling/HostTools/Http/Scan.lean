import HostTools.Text.Bytes

set_option autoImplicit false

namespace HostTools

-- A reader is done, or it needs more octets to decide, or it has seen octets that no further ones
-- can make right.
inductive Scan (α : Type) where
  | done (value : α) (rest : Bytes)
  | short
  | bad
deriving DecidableEq, Repr

namespace Scan

def andThen {α β : Type} (scan : Scan α) (next : α → Bytes → Scan β) : Scan β :=
  match scan with
  | .done value rest => next value rest
  | .short => .short
  | .bad => .bad

def carriageReturn : UInt8 := 0x0d

def lineFeed : UInt8 := 0x0a

def one (wanted : UInt8 → Bool) : Bytes → Scan UInt8
  | [] => .short
  | byte :: rest => if wanted byte then .done byte rest else .bad

def lineEnd : Bytes → Scan Unit
  | [] => .short
  | byte :: rest =>
    if byte = lineFeed then .done () rest
    else if byte = carriageReturn then (one (· = lineFeed) rest).andThen fun _ rest => .done () rest
    else .bad

end Scan

end HostTools
