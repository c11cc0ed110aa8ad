import HostTools.IoError

set_option autoImplicit false

namespace HostTools

structure Sink where
  room : Option Nat
  -- The latest first.
  chunks : List Bytes
deriving DecidableEq, Repr

namespace Sink

def unlimited : Sink := ⟨none, []⟩

def limited (room : Nat) : Sink := ⟨some room, []⟩

def content (sink : Sink) : Bytes := sink.chunks.reverse.flatten

-- A write that does not fit fills the room that is left and fails.
def write (sink : Sink) (bytes : Bytes) : Sink × Bool :=
  match sink.room with
  | none => (⟨none, bytes :: sink.chunks⟩, true)
  | some room =>
    if bytes.length ≤ room then (⟨some (room - bytes.length), bytes :: sink.chunks⟩, true)
    else (⟨some 0, bytes.take room :: sink.chunks⟩, false)

def writeAll : Sink → List Bytes → Sink × Option IoError
  | sink, [] => (sink, none)
  | sink, bytes :: more =>
    match sink.write bytes with
    | (next, true) => writeAll next more
    | (next, false) => (next, some .noRoom)

end Sink

inductive Channel where
  | out
  | err
deriving DecidableEq, Repr

structure Outputs where
  out : Sink
  err : Sink
deriving DecidableEq, Repr

namespace Outputs

def unlimited : Outputs := ⟨.unlimited, .unlimited⟩

def write (outputs : Outputs) : Channel → Bytes → Outputs × Bool
  | .out, bytes =>
    let (sink, whole) := outputs.out.write bytes
    ({ outputs with out := sink }, whole)
  | .err, bytes =>
    let (sink, whole) := outputs.err.write bytes
    ({ outputs with err := sink }, whole)

def writeAll : Outputs → List (Channel × Bytes) → Outputs × Option IoError
  | outputs, [] => (outputs, none)
  | outputs, (channel, bytes) :: more =>
    match outputs.write channel bytes with
    | (next, true) => writeAll next more
    | (next, false) => (next, some .noRoom)

end Outputs

end HostTools
