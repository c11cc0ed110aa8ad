import HostTools.IoError
import HostTools.Text.Quoted
import HostTools.Text.Utf8

set_option autoImplicit false

namespace HostTools

inductive RunFailure where
  | spawn (program : String) (cause : IoError)
  | wait (cause : IoError)
  -- The output is both streams in turn.
  | failed (argv : List String) (code : Int) (output : Bytes)
deriving DecidableEq, Repr

namespace RunFailure

def message : RunFailure → String
  | .spawn program cause => "Failed to spawn " ++ program ++ ": " ++ cause.message
  | .wait cause => "IO error while waiting for child: " ++ cause.message
  | .failed argv code _ =>
    "Command " ++ Quoted.list argv ++ " returned non-zero exit status " ++ Digits.signedText code

def exitCode? : RunFailure → Option Int
  | .failed _ code _ => some code
  | _ => none

def output? : RunFailure → Option Bytes
  | .failed _ _ output => some output
  | _ => none

def outputText? (failure : RunFailure) : Option String := failure.output?.map Utf8.lossy

def cause? : RunFailure → Option IoError
  | .spawn _ cause => some cause
  | .wait cause => some cause
  | .failed _ _ _ => none

end RunFailure

end HostTools
