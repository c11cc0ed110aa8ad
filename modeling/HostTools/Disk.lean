import HostTools.IoError
import HostTools.Text.Pieces

set_option autoImplicit false

namespace HostTools

-- The names on the way from the root.
abbrev Place := List String

inductive Device where
  | null
  | full
  | terminal
  | descriptor (number : Nat)
deriving DecidableEq, Repr

inductive Entry where
  | directory
  | file (content : Bytes)
  | tool (name : String)
  | device (device : Device)
deriving DecidableEq, Repr

structure Disk where
  work : Place
  -- Files and directories beside those that every system has.
  files : List (Place × Bytes)
  made : List Place := []
deriving DecidableEq, Repr

namespace Disk

def directories : List Place :=
  [[], ["usr"], ["usr", "bin"], ["usr", "games"], ["usr", "include"], ["usr", "lib"], ["usr", "lib64"],
    ["usr", "libexec"], ["usr", "local"], ["usr", "local", "bin"], ["usr", "local", "etc"],
    ["usr", "local", "games"], ["usr", "local", "include"], ["usr", "local", "lib"],
    ["usr", "local", "sbin"], ["usr", "local", "share"], ["usr", "local", "src"], ["usr", "sbin"],
    ["usr", "share"], ["usr", "src"], ["etc"], ["tmp"], ["home"], ["root"], ["var"],
    ["var", "backups"], ["var", "cache"], ["var", "lib"], ["var", "local"], ["var", "log"],
    ["var", "mail"], ["var", "opt"], ["var", "spool"], ["var", "tmp"], ["opt"], ["proc"], ["sys"],
    ["dev"], ["dev", "pts"], ["dev", "shm"], ["mnt"], ["media"], ["run"], ["srv"], ["boot"]]

def systemFiles : List Place :=
  [["etc", "passwd"], ["etc", "group"], ["etc", "hosts"], ["etc", "hostname"],
    ["etc", "resolv.conf"], ["etc", "shadow"], ["etc", "fstab"], ["etc", "profile"],
    ["etc", "os-release"]]

def devices : List (Place × Device) :=
  [(["dev", "null"], .null), (["dev", "full"], .full), (["dev", "tty"], .terminal),
    (["dev", "stdin"], .descriptor 0), (["dev", "stdout"], .descriptor 1),
    (["dev", "stderr"], .descriptor 2), (["dev", "fd", "0"], .descriptor 0),
    (["dev", "fd", "1"], .descriptor 1), (["dev", "fd", "2"], .descriptor 2)]

def tools : List String :=
  ["sh", "dash", "echo", "printf", "cat", "env", "pwd", "true", "false", "test", "[", "sleep", "rm"]

def toolDirectory : Place := ["usr", "bin"]

def links : List (Place × Place) :=
  [(["bin"], ["usr", "bin"]), (["sbin"], ["usr", "sbin"]), (["lib"], ["usr", "lib"]),
    (["lib64"], ["usr", "lib64"])]

def follow (place : Place) : Place := (links.lookup place).getD place

def entry? (disk : Disk) (place : Place) : Option Entry :=
  if directories.contains place ∨ place = disk.work ∨ disk.made.contains place ∨
      place = ["dev", "fd"] then some .directory
  else
    match disk.files.lookup place, devices.lookup place with
    | some content, _ => some (.file content)
    | none, some device => some (.device device)
    | none, none =>
      if systemFiles.contains place then some (.file [])
      else
        match place.getLast? with
        | none => none
        | some name =>
          if place.dropLast = toolDirectory ∧ tools.contains name then some (.tool name) else none

def isDirectory (disk : Disk) (place : Place) : Bool := disk.entry? place = some .directory

def names (disk : Disk) (place : Place) : List String :=
  let places := directories ++ systemFiles ++ devices.map (·.1) ++ links.map (·.1) ++
    disk.made ++ disk.files.map (·.1) ++ [disk.work] ++ tools.map (toolDirectory ++ [·])
  let found := places.filterMap fun other =>
    if place.isPrefixOf other then (other.drop place.length).head? else none
  (found.mergeSort fun a b => a.toUTF8.toList ≤ b.toUTF8.toList).eraseDups

def step (disk : Disk) (place : Place) (name : String) : Except IoError Place :=
  if !disk.isDirectory place then .error .notDirectory
  else if name = "." then .ok place
  else if name = ".." then .ok place.dropLast
  else if 255 < name.utf8ByteSize then .error .nameTooLong
  else
    let next := follow (place ++ [name])
    if (disk.entry? next).isSome then .ok next else .error .noSuchFile

def resolve (disk : Disk) (start : Place) (path : String) : Except IoError Place :=
  if path.isEmpty then .error .noSuchFile
  else if 4096 ≤ path.utf8ByteSize then .error .nameTooLong
  else
    let names := ((Pieces.split '/' path.toList).filter (· ≠ [])).map String.ofList
    let start := if path.toList.head? = some '/' then [] else start
    match names.foldlM disk.step start with
    | .error error => .error error
    | .ok place =>
      if path.toList.getLast? = some '/' ∧ !disk.isDirectory place then .error .notDirectory
      else .ok place

def content (disk : Disk) (place : Place) : Except IoError Bytes :=
  match disk.entry? place with
  | some .directory => .error .isDirectory
  | some (.file content) => .ok content
  | some (.tool _) => .ok []
  | some (.device _) => .ok []
  | none => .error .noSuchFile

def remove (disk : Disk) (place : Place) : Disk :=
  { disk with files := disk.files.filter (·.1 ≠ place) }

def write (disk : Disk) (place : Place) (content : Bytes) : Disk :=
  { disk with files := (place, content) :: disk.files.filter (·.1 ≠ place) }

def tool (disk : Disk) (start : Place) (path : String) : Except IoError String :=
  match disk.resolve start path with
  | .error error => .error error
  | .ok place =>
    match disk.entry? place with
    | some (.tool name) => .ok name
    | some _ => .error .accessDenied
    | none => .error .noSuchFile

-- A directory that has something else under the name, or is none, is passed over. If no directory
-- has the tool, a place without permission counts before the last failure.
def search (disk : Disk) (start : Place) (name : String) (denied : Bool) :
    IoError → List String → Except IoError String
  | failure, [] => .error (if denied then .accessDenied else failure)
  | _, directory :: rest =>
    let path := if directory.isEmpty then name else directory ++ "/" ++ name
    match disk.tool start path with
    | .ok tool => .ok tool
    | .error error =>
      if error = .accessDenied then disk.search start name true error rest
      else if error = .noSuchFile ∨ error = .notDirectory then disk.search start name denied error rest
      else .error error

def program (disk : Disk) (start : Place) (searchPath name : String) : Except IoError String :=
  if name.isEmpty then .error .noSuchFile
  else if name.toList.contains '/' then disk.tool start name
  else
    disk.search start name false .noSuchFile
      ((Pieces.split ':' searchPath.toList).map String.ofList)

def read (disk : Disk) (path : String) : Except IoError Bytes :=
  if path.toList.contains (Char.ofNat 0) then .error .nulInName
  else
    match disk.resolve disk.work path with
    | .error error => .error error
    | .ok place => disk.content place

end Disk

end HostTools
