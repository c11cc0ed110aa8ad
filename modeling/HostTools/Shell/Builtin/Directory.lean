import HostTools.Shell.Builtin.Basic
import HostTools.Shell.FileTest
import HostTools.Shell.Variable

set_option autoImplicit false

namespace HostTools.Shell.Builtin

-- Two slashes in front are kept.
def tidy (shown path : String) : String :=
  let chars := path.toList
  let isAbsolute := chars.head? = some '/'
  let base := if isAbsolute then chars else shown.toList
  let doubled := match base with
    | '/' :: '/' :: '/' :: _ => false
    | '/' :: '/' :: _ => true
    | _ => false
  let whole := if isAbsolute then chars else shown.toList ++ '/' :: chars
  let names := (Pieces.split '/' whole).foldl (fun front name =>
    if name = [] || name = ['.'] then front
    else if name = ['.', '.'] then front.dropLast
    else front ++ [name]) []
  let front := if doubled then ['/', '/'] else ['/']
  String.ofList (front ++ (names.flatMap ('/' :: ·)).drop 1)

def startsWithStep (path : String) : Bool :=
  match (Pieces.split '/' path.toList).head? with
  | some name => name = ['.'] || name = ['.', '.']
  | none => false

def isPhysical (given : List (Char × String)) : Bool :=
  (given.getLast?.map (·.1)) = some 'P'

def enter (path : String) (physical : Bool) : Act Bool := do
  let current ← process
  let wanted := if physical then path else tidy current.shown path
  match ← resolve wanted with
  | .error _ => pure false
  | .ok place =>
    if !(← world).disk.isDirectory place then pure false
    else
      let shown := if physical then ofText (placeText place) else wanted
      assign "OLDPWD" current.shown true
      change fun process =>
        { process with
          directory := place
          shown
          hashed := process.hashed.map fun (name, hashed) => (name, { hashed with stale := true }) }
      assign "PWD" shown true
      pure true

def fromNamed (path : String) : List (List Char) → Act (Option (String × Bool))
  | [] => pure none
  | directory :: rest => do
    let found := if directory.isEmpty then path else String.ofList directory ++ "/" ++ path
    let isThere ← (match ← resolve found with
      | .ok place => do pure ((← world).disk.isDirectory place)
      | .error _ => pure false : Act Bool)
    if isThere then pure (some (found, !directory.isEmpty)) else fromNamed path rest

def cd (args : List String) : Act Nat := do
  let (given, rest) ← options "LP" args
  let physical := isPhysical given
  let back := rest.head? = some "-"
  let wanted : Option String ← (match rest with
    | [] => valueOf "HOME"
    | word :: _ => if back then valueOf "OLDPWD" else pure (some word))
  let wanted := wanted.getD ""
  let direct := wanted.startsWith "/" || startsWithStep wanted
  let path := if wanted.isEmpty then "." else wanted
  let named : Option (String × Bool) ← (match ← valueOf "CDPATH" with
    | some directories =>
      if direct then pure none else fromNamed path (Pieces.split ':' directories.toList)
    | none => pure none)
  let (target, shows) := named.getD (path, false)
  if ← enter target physical then
    let shown := (← process).shown
    put (if back || shows then shown ++ "\n" else "") 0
  else fail ("can't cd to " ++ path)

def pwd (args : List String) : Act Nat := do
  let (given, _) ← options "LP" args
  let current ← process
  put ((if isPhysical given then ofText (placeText current.directory) else current.shown) ++ "\n") 0

end HostTools.Shell.Builtin
