import HostTools.Shell.Builtin.Basic
import HostTools.Shell.Variable

set_option autoImplicit false

namespace HostTools.Shell

def standardPath : String := "/usr/local/sbin:/usr/local/bin:/usr/sbin:/usr/bin:/sbin:/bin"

inductive Meaning where
  | function (body : Script)
  | builtin
  | program (path : Option String)
  | missing (error : IoError)

def missingReason (error : IoError) : String :=
  if error = .noSuchFile || error = .notDirectory then "not found" else reason error

-- Something that cannot be run is only a reason to fail.
def searchProgram (disk : Disk) (start : Place) (name : String) :
    IoError → List (List Char) → Except IoError String
  | error, [] => .error error
  | error, directory :: rest =>
    let path := if directory.isEmpty then name else String.ofList directory ++ "/" ++ name
    match disk.resolve start (toText path) with
    | .error failure =>
      let passes := failure = .noSuchFile || failure = .notDirectory
      searchProgram disk start name (if passes then error else failure) rest
    | .ok place =>
      match disk.entry? place with
      | some (.tool _) => .ok path
      | _ => searchProgram disk start name .accessDenied rest

-- A program that is found on the usual path is remembered.
def findProgram (name : String) (searchPath : Option String) : Act Meaning := do
  let current ← process
  match searchPath, current.hashed.lookup name with
  | none, some hashed =>
    if hashed.stale then
      change fun process => { process with hashed := assoc name { hashed with stale := false } process.hashed }
    pure (.program (some hashed.path))
  | _, _ =>
    let path := searchPath.getD (((current.bindings.lookup "PATH").bind (·.value)).getD "")
    match searchProgram (← world).disk current.directory name .noSuchFile
        (Pieces.split ':' path.toList) with
    | .error error => pure (.missing error)
    | .ok found =>
      if searchPath.isNone then
        change fun process => { process with hashed := assoc name { path := found } process.hashed }
      pure (.program (some found))

def meaning (name : String) (functions : Bool) (searchPath : Option String) : Act Meaning := do
  if name.toList.contains '/' then pure (.program none)
  else
    let found := (← process).functions.lookup name
    match if functions then found else none with
    | some body => pure (.function body)
    | none => if Name.isBuiltin name then pure .builtin else findProgram name searchPath

namespace Builtin

def aliasText (name value : String) : String := name ++ "=" ++ quoteText value ++ "\n"

def describe (name : String) (sentence : Bool) (searchPath : Option String) : Act (String × Nat) := do
  let current ← process
  let said (text : String) : String := (if sentence then name ++ text else name) ++ "\n"
  if Name.reserved.contains name then return (said " is a shell keyword", 0)
  match current.aliases.lookup name with
  | some value =>
    return (if sentence then said (" is an alias for " ++ value) else "alias " ++ aliasText name value, 0)
  | none => pure ()
  let tracked := searchPath.isNone && (current.hashed.lookup name).isSome
  match ← meaning name true searchPath with
  | .function _ => pure (said " is a shell function", 0)
  | .builtin =>
    let special := if Name.specialBuiltins.contains name then "special " else ""
    pure (said (" is a " ++ special ++ "shell builtin"), 0)
  | .program path =>
    let exists? ← (match path with
      | some _ => pure true
      | none => do pure (← resolve name).toOption.isSome : Act Bool)
    if !exists? then pure (if sentence then name ++ ": not found\n" else "", 127)
    else
      let shown := path.getD name
      let front := if tracked then " is a tracked alias for " else " is "
      pure (if sentence then said (front ++ shown) else shown ++ "\n", 0)
  | .missing _ => pure (if sentence then name ++ ": not found\n" else "", 127)

def type (args : List String) : Act Nat := do
  let (text, status) ← args.foldlM (fun (text, status) name => do
    let (more, failed) ← describe name true none
    pure (text ++ more, status ||| failed)) ("", 0)
  put text status

def command (args : List String) : Act Nat := do
  let (given, rest) ← options "pvV" args
  let letters := given.map (·.1)
  match rest with
  | name :: _ =>
    if letters.contains 'v' || letters.contains 'V' then
      let (text, status) ← describe name (letters.contains 'V')
        (if letters.contains 'p' then some standardPath else none)
      put text status
    else pure 0
  | [] => pure 0

def hash (args : List String) : Act Nat := do
  let found := optionsFrom ['r'] [] args
  if !found.given.isEmpty then
    change ({ · with hashed := [] })
    pure 0
  else
    match found.rest with
    | .error reason => fail reason
    | .ok [] =>
      let entries := listed 31 (← process).hashed
      put (String.join (entries.map fun (_, hashed) =>
        hashed.path ++ (if hashed.stale then "*\n" else "\n"))) 0
    | .ok names =>
      names.foldlM (fun status name => do
        change fun process => { process with hashed := process.hashed.filter (·.1 ≠ name) }
        match ← meaning name true none with
        | .missing error =>
          complain (name ++ ": " ++ missingReason error)
          pure 1
        | _ => pure status) 0

def defineAlias (args : List String) : Act Nat := do
  match args with
  | [] =>
    let entries := listed 39 (← process).aliases
    put (String.join (entries.map fun (name, value) => aliasText name value)) 0
  | _ =>
    let (text, status) ← args.foldlM (fun (text, status) word => do
      let definition := match word.toList with
        | first :: rest => (Pieces.cut '=' rest).map fun (name, value) =>
          (String.ofList (first :: name), String.ofList value)
        | [] => none
      match definition with
      | some (name, value) => do
        change fun process => { process with aliases := assoc name value process.aliases }
        pure (text, status)
      | none =>
        match (← process).aliases.lookup word with
        | some value => pure (text ++ aliasText word value, status)
        | none => do
          writeError ("alias: " ++ word ++ " not found\n")
          pure (text, 1)) ("", 0)
    put text status

def unalias (args : List String) : Act Nat := do
  let found := optionsFrom ['a'] [] args
  if !found.given.isEmpty then
    change ({ · with aliases := [] })
    pure 0
  else
    match found.rest with
    | .error reason => fail reason
    | .ok names =>
      names.foldlM (fun status name => do
        if ((← process).aliases.lookup name).isSome then
          change fun process => { process with aliases := process.aliases.filter (·.1 ≠ name) }
          pure status
        else
          writeError ("unalias: " ++ name ++ " not found\n")
          pure 1) 0

end Builtin

end HostTools.Shell
