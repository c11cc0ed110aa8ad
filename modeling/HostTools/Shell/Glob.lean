import HostTools.Shell.Field
import HostTools.Shell.Pattern
import HostTools.Shell.State

set_option autoImplicit false

namespace HostTools.Shell.Glob

def closes : List Char → Bool
  | [] => false
  | '\\' :: char :: rest => if char = '/' then false else closesNext rest
  | char :: rest => if char = '/' then false else closesNext rest
where
  closesNext : List Char → Bool
    | [] => false
    | ']' :: _ => true
    | '\\' :: char :: rest => if char = '/' then false else closesNext rest
    | char :: rest => if char = '/' then false else closesNext rest

def isPattern : List Char → Bool
  | [] => false
  | '*' :: _ => true
  | '?' :: _ => true
  | '[' :: rest =>
    closes (match rest with
      | '!' :: more => more
      | _ => rest) || isPattern rest
  | '\\' :: _ :: rest => isPattern rest
  | _ :: rest => isPattern rest

def names : List Char → List (List Char)
  | [] => [[]]
  | '/' :: rest => [] :: names rest
  | '\\' :: '/' :: rest => [] :: names rest
  | '\\' :: char :: rest =>
    match names rest with
    | [] => [['\\', char]]
    | name :: more => ('\\' :: char :: name) :: more
  | char :: rest =>
    match names rest with
    | [] => [[char]]
    | name :: more => (char :: name) :: more

def plain : List Char → List Char
  | [] => []
  | '\\' :: char :: rest => char :: plain rest
  | char :: rest => char :: plain rest

-- Names with a point in front have to be asked for.
def fitting (disk : Disk) (start : Place) (directory : String) (pattern : List Char) : List String :=
  match disk.resolve start (toText (if directory.isEmpty then "." else directory)) with
  | .error _ => []
  | .ok place =>
    if !disk.isDirectory place then []
    else
      let found := "." :: ".." :: (disk.names place).map ofText
      let hidden := match pattern with
        | '.' :: _ => true
        | '\\' :: '.' :: _ => true
        | _ => false
      let compiled := Pattern.ofText pattern
      found.filter fun name =>
        (hidden || !name.startsWith ".") && Pattern.matchesText compiled name.toList

def extend (disk : Disk) (start : Place) (front : String) : List (List Char) → List String
  | [] => []
  | [name] =>
    if isPattern name then (fitting disk start front name).map (front ++ ·)
    else
      let path := front ++ String.ofList (plain name)
      match disk.resolve start (toText path) with
      | .ok _ => [path]
      | .error _ => []
  | name :: rest =>
    if isPattern name then
      (fitting disk start front name).flatMap fun found => extend disk start (front ++ found ++ "/") rest
    else extend disk start (front ++ String.ofList (plain name) ++ "/") rest

-- A field that fits no file stands for itself.
def words (disk : Disk) (start : Place) (field : Field) : List String :=
  let path := names (Pattern.guarded field)
  let found := if path.any isPattern then extend disk start "" path else []
  if found.isEmpty then [Field.text field] else found.mergeSort fun a b => !(b < a)

end HostTools.Shell.Glob
