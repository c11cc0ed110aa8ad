import HostTools.Text.Bytes

set_option autoImplicit false

namespace HostTools.Pieces

def split (separator : Char) : List Char → List (List Char)
  | [] => [[]]
  | c :: rest =>
    if c = separator then [] :: split separator rest
    else
      match split separator rest with
      | [] => [[c]]
      | piece :: more => (c :: piece) :: more

def cut (separator : Char) : List Char → Option (List Char × List Char)
  | [] => none
  | c :: rest =>
    if c = separator then some ([], rest)
    else (cut separator rest).map fun (front, back) => (c :: front, back)

def cutDouble (separator : Char) : List Char → Option (List Char × List Char)
  | c :: d :: rest =>
    if c = separator ∧ d = separator then some ([], rest)
    else (cutDouble separator (d :: rest)).map fun (front, back) => (c :: front, back)
  | _ => none

def occurs (pattern : List Char) : List Char → Bool
  | [] => pattern.isEmpty
  | c :: rest => pattern.isPrefixOf (c :: rest) || occurs pattern rest

def join (separator : String) (texts : List String) : String := separator.intercalate texts

end HostTools.Pieces
