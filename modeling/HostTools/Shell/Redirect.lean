import HostTools.Shell.Expansion
import HostTools.Shell.Opening

set_option autoImplicit false

namespace HostTools.Shell

inductive Prepared where
  | file (descriptor : Nat) (opening : Opening) (path : String)
  | copy (descriptor source : Nat)
  | close (descriptor : Nat)
  | document (descriptor : Nat) (literal : Bool) (text : Word)

namespace Prepared

def ofRedirection (capture : Script → Act String) (fuel : Nat) : Redirection → Act Prepared
  | .file descriptor opening path => do
    pure (.file descriptor opening (← Expansion.text capture fuel {} path))
  | .copy descriptor word => do
    match (← Expansion.text capture fuel {} word).toList with
    | ['-'] => pure (.close descriptor)
    | [char] =>
      if char.isDigit then pure (.copy descriptor (char.toNat - 48))
      else fail "Syntax error: Bad fd number"
    | _ => fail "Syntax error: Bad fd number"
  | .document descriptor literal text => pure (.document descriptor literal text)

def apply (capture : Script → Act String) (fuel : Nat) : Prepared → Act Bool
  | .file descriptor opening path => do
    match ← Opening.run opening path with
    | .ok stream =>
      setDescriptor descriptor stream
      pure true
    | .error reason =>
      complain reason
      pure false
  | .copy descriptor source => do
    if descriptor = source then pure true
    else
      match (← process).descriptors.lookup source with
      | some stream =>
        setDescriptor descriptor stream
        pure true
      | none =>
        complain (Digits.decimalText source ++ ": Bad file descriptor")
        pure false
  | .close descriptor => do
    closeDescriptor descriptor
    pure true
  | .document descriptor literal text => do
    let left ← observe do
      let content ← (if literal then pure (literalText text)
        else Expansion.text capture fuel { quoted := true } text)
      setDescriptor descriptor (.pipe (← newPipe content.toList))
    match left with
    | none => pure true
    | some .failure => pure false
    | some leave => throw leave

end Prepared

-- All words are expanded before the first redirection is brought about.
def prepareAll (capture : Script → Act String) (fuel : Nat) (redirections : List Redirection) :
    Act (List Prepared) :=
  redirections.mapM (Prepared.ofRedirection capture fuel)

def applyAll (capture : Script → Act String) (fuel : Nat) : List Prepared → Act Bool
  | [] => pure true
  | prepared :: rest => do
    if ← prepared.apply capture fuel then applyAll capture fuel rest else pure false

end HostTools.Shell
