import HostTools.Command
import HostTools.Run.Failure

set_option autoImplicit false

namespace HostTools

-- The low seven bits are zero after an exit, whose code stands in the second octet, and else hold
-- the signal that ended the child.
structure WaitStatus where
  raw : Int32
deriving DecidableEq, Repr

namespace WaitStatus

def bits (status : WaitStatus) : Nat := status.raw.toUInt32.toNat

def success (status : WaitStatus) : Bool := status.bits = 0

def exited? (status : WaitStatus) : Option Nat :=
  if status.bits % 128 = 0 then some (status.bits / 256 % 256) else none

def signal? (status : WaitStatus) : Option Nat :=
  let signal := status.bits % 128
  if signal = 0 ∨ signal = 127 then none else some signal

def exitCode (status : WaitStatus) : Int :=
  match status.exited?, status.signal? with
  | some code, _ => code
  | none, some signal => -(signal : Int)
  | none, none => -1

def ofExit (code : Nat) : WaitStatus := ⟨Int32.ofNat (code % 256 * 256)⟩

def ofSignal (signal : Nat) : WaitStatus := ⟨Int32.ofNat (signal % 128)⟩

end WaitStatus

structure Finished where
  status : WaitStatus
  stdout : Bytes
  stderr : Bytes
deriving DecidableEq, Repr

def Finished.result (finished : Finished) (command : Command) : Except RunFailure Bytes :=
  if finished.status.success then .ok finished.stdout
  else
    .error (.failed command.argv finished.status.exitCode (finished.stdout ++ finished.stderr))

theorem Finished.result_failed (child : Finished) (command : Command) (failed : child.status.success = false) :
    child.result command = .error (.failed command.argv child.status.exitCode (child.stdout ++ child.stderr)) := by
  rw [Finished.result, if_neg (by simp [failed])]

end HostTools
