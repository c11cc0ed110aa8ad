import HostTools.Arguments.Option

set_option autoImplicit false

namespace HostTools

inductive Refusal where
  | unexpected (arg : String)
  | unknownCommand (word : String)
  | missingCommand
  | missingRequired
  | missingValue (key : OptionKey)
  | repeated (key : OptionKey)
  | notChoice (key : OptionKey) (value : String)
  | notNumber (key : OptionKey) (value reason : String)
  | valueOfFlag (flag value : String)
deriving DecidableEq, Repr

namespace Refusal

def wrong (word : String) : Styled := .plain "'" ++ .of .wrong word ++ .plain "'"

def named (word : String) : Styled := .plain "'" ++ .literal word ++ .plain "'"

def message : Refusal → Styled
  | .unexpected arg => .plain "unexpected argument " ++ wrong arg ++ .plain " found"
  | .unknownCommand word => .plain "unrecognized subcommand " ++ wrong word
  | .missingCommand =>
    wrong "hostkit" ++ .plain " requires a subcommand but one was not provided"
  | .missingRequired => .plain "the following required arguments were not provided:"
  | .missingValue key =>
    .plain "a value is required for " ++ wrong key.shown ++ .plain " but none was supplied"
  | .repeated key =>
    .plain "the argument " ++ wrong key.shown ++ .plain " cannot be used multiple times"
  | .notChoice key value =>
    .plain "invalid value " ++ wrong value ++ .plain " for " ++ named key.shown
  | .notNumber key value reason =>
    .plain "invalid value " ++ wrong value ++ .plain " for " ++ named key.shown ++
      .plain (": " ++ reason)
  | .valueOfFlag flag value =>
    .plain "unexpected value " ++ wrong value ++ .plain " for " ++ named flag ++
      .plain " found; no more were expected"

def report (refusal : Refusal) : Styled :=
  .of .failure "error:" ++ .plain " " ++ refusal.message ++ .plain "\n"

end Refusal

inductive NumberFault where
  | empty
  | invalidDigit
  | tooLarge
  | tooSmall
  | outside (value : Int)
deriving DecidableEq, Repr

namespace NumberFault

def message : NumberFault → String
  | .empty => "cannot parse integer from empty string"
  | .invalidDigit => "invalid digit found in string"
  | .tooLarge => "number too large to fit in target type"
  | .tooSmall => "number too small to fit in target type"
  | .outside value => Digits.signedText value ++ " is not in 0..=65535"

end NumberFault

def readUnsigned (text : List Char) (bound : Nat) : Except NumberFault Nat :=
  match text with
  | [] => .error .empty
  | '+' :: [] => .error .invalidDigit
  | '+' :: digits => magnitude digits
  | digits => magnitude digits
where
  magnitude (digits : List Char) : Except NumberFault Nat :=
    match Digits.read? 10 digits with
    | none => .error .invalidDigit
    | some value => if value < bound then .ok value else .error .tooLarge

-- A number of 64 bits with an optional sign first, which then has to fit 16 bits.
def readPort (text : String) : Except NumberFault UInt16 :=
  let value : Except NumberFault Int :=
    match text.toList with
    | '-' :: digits =>
      match Digits.read? 10 digits with
      | none => .error .invalidDigit
      | some value => if value ≤ Nat.pow 2 63 then .ok (-(value : Int)) else .error .tooSmall
    | chars => (readUnsigned chars (Nat.pow 2 63)).map fun value => (value : Int)
  match value with
  | .error fault => .error fault
  | .ok value =>
    if 0 ≤ value ∧ value ≤ 65535 then .ok (UInt16.ofNat value.toNat) else .error (.outside value)

def readSeconds (text : String) : Except NumberFault UInt64 :=
  (readUnsigned text.toList (Nat.pow 2 64)).map UInt64.ofNat

def OptionKey.refuses (key : OptionKey) (value : String) : Option Refusal :=
  match key with
  | .format =>
    if value.isEmpty then some (.missingValue key)
    else if key.choices.contains value then none
    else some (.notChoice key value)
  | .port =>
    match readPort value with
    | .ok _ => none
    | .error fault => some (.notNumber key value fault.message)
  | .timeout =>
    match readSeconds value with
    | .ok _ => none
    | .error fault => some (.notNumber key value fault.message)
  | _ => none

end HostTools
