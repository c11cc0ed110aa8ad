import HostTools.Json.Basic

set_option autoImplicit false

namespace HostTools.Json

def indent (depth : Nat) : List Char := List.replicate (2 * depth) ' '

def line (depth : Nat) : List Char := '\n' :: indent depth

mutual

-- Each piece is a write of its own.
def wide (depth : Nat) : Json → List (List Char)
  | .null => [nullText]
  | .bool value => [boolText value]
  | .number value => [Digits.signed value]
  | .text value => [string value]
  | .list [] => [['[', ']']]
  | .list (item :: more) =>
    ['['] :: line (depth + 1) :: wide (depth + 1) item ++ wideItems (depth + 1) more ++
      [line depth, [']']]
  | .object [] => [['\x7b', '\x7d']]
  | .object ((key, value) :: more) =>
    ['\x7b'] :: line (depth + 1) :: string key :: [':', ' '] :: wide (depth + 1) value ++
      wideMembers (depth + 1) more ++ [line depth, ['\x7d']]

def wideItems (depth : Nat) : List Json → List (List Char)
  | [] => []
  | item :: more => (',' :: line depth) :: wide depth item ++ wideItems depth more

def wideMembers (depth : Nat) : List (String × Json) → List (List Char)
  | [] => []
  | (key, value) :: more =>
    (',' :: line depth) :: string key :: [':', ' '] :: wide depth value ++ wideMembers depth more

end

mutual

def compact : Json → List Char
  | .null => nullText
  | .bool value => boolText value
  | .number value => Digits.signed value
  | .text value => string value
  | .list [] => ['[', ']']
  | .list (item :: more) => '[' :: compact item ++ compactItems more ++ [']']
  | .object [] => ['\x7b', '\x7d']
  | .object ((key, value) :: more) =>
    '\x7b' :: string key ++ ':' :: compact value ++ compactMembers more ++ ['\x7d']

def compactItems : List Json → List Char
  | [] => []
  | item :: more => ',' :: compact item ++ compactItems more

def compactMembers : List (String × Json) → List Char
  | [] => []
  | (key, value) :: more => ',' :: string key ++ ':' :: compact value ++ compactMembers more

end

end HostTools.Json
