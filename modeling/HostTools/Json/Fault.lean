import HostTools.Text.Quoted

set_option autoImplicit false

namespace HostTools.Json

inductive Problem where
  | endInValue
  | endInString
  | endInObject
  | expectedValue
  | expectedColon
  | expectedKey
  | expectedWord
  | invalidEscape
  | loneSurrogate
  | unfinishedEscape
  | controlCharacter
  | invalidNumber
  | numberTooLarge
  | trailing
  | meaning (text : String)
deriving DecidableEq, Repr

namespace Problem

def message : Problem → String
  | .endInValue => "EOF while parsing a value"
  | .endInString => "EOF while parsing a string"
  | .endInObject => "EOF while parsing an object"
  | .expectedValue => "expected value"
  | .expectedColon => "expected `:`"
  | .expectedKey => "key must be a string"
  | .expectedWord => "expected ident"
  | .invalidEscape => "invalid escape"
  | .loneSurrogate => "lone leading surrogate in hex escape"
  | .unfinishedEscape => "unexpected end of hex escape"
  | .controlCharacter => "control character (\\u0000-\\u001F) found while parsing a string"
  | .invalidNumber => "invalid number"
  | .numberTooLarge => "number out of range"
  | .trailing => "trailing characters"
  | .meaning said => said

end Problem

inductive ProblemKind where
  | ending
  | form
  | meaning
deriving DecidableEq, Repr

def Problem.kind : Problem → ProblemKind
  | .endInValue | .endInString | .endInObject => .ending
  | .meaning _ => .meaning
  | _ => .form

structure Fault where
  problem : Problem
  unread : Nat
deriving DecidableEq, Repr

namespace Fault

-- A problem with what has been read.
def after (problem : Problem) (rest : Bytes) : Fault := ⟨problem, rest.length⟩

-- A problem with the next octet, if there is one.
def upon (problem : Problem) (rest : Bytes) : Fault := ⟨problem, rest.length - 1⟩

def read (fault : Fault) (text : Bytes) : Bytes := text.take (text.length - fault.unread)

def line (fault : Fault) (text : Bytes) : Nat := 1 + (fault.read text).count 0x0a

-- In octets, not in characters.
def column (fault : Fault) (text : Bytes) : Nat :=
  ((fault.read text).reverse.takeWhile (· ≠ 0x0a)).length

def message (fault : Fault) (text : Bytes) : String :=
  fault.problem.message ++ " at line " ++ Digits.decimalText (fault.line text) ++
    " column " ++ Digits.decimalText (fault.column text)

end Fault

end HostTools.Json
