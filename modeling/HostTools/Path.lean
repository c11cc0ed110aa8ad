import HostTools.Text.Pieces

set_option autoImplicit false

namespace HostTools.Path

inductive Component where
  | root
  | here
  | name (text : List Char)
deriving DecidableEq, Repr

def names (parts : List (List Char)) : List Component :=
  (parts.filter fun part => part ≠ [] ∧ part ≠ ['.']).map Component.name

-- Repeated and trailing slashes and inner dots do not count; a leading slash and a leading dot do.
def components (path : String) : List Component :=
  let parts := Pieces.split '/' path.toList
  match path.toList with
  | '/' :: _ => .root :: names parts
  | _ => if parts.head? = some ['.'] then .here :: names parts else names parts

def same (a b : String) : Bool := components a = components b

def same? : Option String → Option String → Bool
  | none, none => true
  | some a, some b => same a b
  | _, _ => false

def expand (home path : String) : String :=
  match path.toList with
  | ['~'] => home
  | '~' :: '/' :: rest => home ++ String.ofList ('/' :: rest)
  | _ => path

end HostTools.Path
