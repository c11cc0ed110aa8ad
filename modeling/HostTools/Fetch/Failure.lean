import HostTools.Text.Digits

set_option autoImplicit false

namespace HostTools

inductive FetchFailure where
  | invalidRequest (detail : String)
  | credentials (detail : String)
  | transport (detail : Option String)
  | timeout
  | status (code : Nat)
deriving DecidableEq, Repr

namespace FetchFailure

def message : FetchFailure → String
  | .invalidRequest detail => "Invalid request: " ++ detail
  | .credentials detail => "Client credentials unusable: " ++ detail
  | .transport (some detail) => "Transport error: " ++ detail
  | .transport none => "Transport error"
  | .timeout => "Request timed out"
  | .status code => "Unexpected HTTP status " ++ Digits.decimalText code

end FetchFailure

end HostTools
