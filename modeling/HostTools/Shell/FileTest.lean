import HostTools.Shell.State

set_option autoImplicit false

namespace HostTools.Shell

structure FileTest where
  holds : Char → String → Bool
  same : String → String → Bool

namespace FileTest

def divide (path : String) : String × String :=
  let reversed := path.toList.reverse
  let name := reversed.takeWhile (· ≠ '/')
  let front := reversed.drop name.length
  (if front.isEmpty then "." else String.ofList front.reverse, String.ofList name.reverse)

def isLink (disk : Disk) (start : Place) (path : String) : Bool :=
  let (front, name) := divide path
  match disk.resolve start (toText front) with
  | .ok place => (Disk.links.lookup (place ++ [toText name])).isSome
  | .error _ => false

-- Where everyone may make files, but not remove those of others.
def shared : List Place := [["tmp"], ["var", "tmp"], ["dev", "shm"]]

def ofKind (place : Place) (kind : Char) (entry : Entry) : Bool :=
  match kind with
  | 'd' => entry = .directory
  | 'f' =>
    match entry with
    | .file _ => true
    | .tool _ => true
    | _ => false
  | 'c' =>
    match entry with
    | .device _ => true
    | _ => false
  | 's' =>
    match entry with
    | .file content => !content.isEmpty || Disk.systemFiles.contains place
    | .device _ => false
    | _ => true
  | 'x' =>
    match entry with
    | .directory => true
    | .tool _ => true
    | _ => false
  | 'k' => shared.contains place
  | _ => ['e', 'r', 'w', 'O', 'G'].contains kind

def ofDisk (disk : Disk) (start : Place) : FileTest where
  holds kind path :=
    if kind = 'h' || kind = 'L' then isLink disk start path
    else
      match disk.resolve start (toText path) with
      | .error _ => false
      | .ok place => (disk.entry? place).any (ofKind place kind)
  same left right :=
    match disk.resolve start (toText left), disk.resolve start (toText right) with
    | .ok first, .ok second => first = second
    | _, _ => false

end FileTest

def fileTest : Act FileTest := do
  pure (FileTest.ofDisk (← world).disk (← process).directory)

end HostTools.Shell
