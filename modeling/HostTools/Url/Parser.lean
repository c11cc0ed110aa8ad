import HostTools.Url.Basic
import HostTools.Url.Path

set_option autoImplicit false

namespace HostTools.Url

def isEdge (c : Char) : Bool := c.toNat ≤ 0x20

def isDropped (c : Char) : Bool := c = '\t' || c = '\n' || c = '\r'

def dropEdges (text : List Char) : List Char :=
  ((text.dropWhile isEdge).reverse.dropWhile isEdge).reverse

def clean (text : List Char) : List Char := (dropEdges text).filter fun c => !isDropped c

def scheme? (text : List Char) : Option (Scheme × List Char) :=
  match Pieces.cut ':' text with
  | some (name, rest) =>
    let name := name.map Char.toLower
    if name = Scheme.http.name.toList then some (.http, rest)
    else if name = Scheme.https.name.toList then some (.https, rest)
    else none
  | none => none

def endsAuthority (c : Char) : Bool := c = '/' || c = '\\' || c = '?' || c = '#'

def cutUserinfo (authority : List Char) : Option (List Char) × List Char :=
  if '@' ∈ authority then
    let back := (authority.reverse.takeWhile (· ≠ '@')).reverse
    (some (authority.take (authority.length - back.length - 1)), back)
  else (none, authority)

-- An empty password does not count.
def credentials (userinfo : List Char) : List Char × Option (List Char) :=
  match Pieces.cut ':' userinfo with
  | some (username, []) => (Percent.encode Percent.inUserinfo username, none)
  | some (username, password) =>
    (Percent.encode Percent.inUserinfo username, some (Percent.encode Percent.inUserinfo password))
  | none => (Percent.encode Percent.inUserinfo userinfo, none)

-- A colon between brackets is part of the host.
def cutHost (inside : Bool) : List Char → List Char × List Char
  | [] => ([], [])
  | c :: rest =>
    if c = ':' ∧ !inside then ([], c :: rest)
    else
      let inside := if c = '[' then true else if c = ']' then false else inside
      let (host, after) := cutHost inside rest
      (c :: host, after)

def portValue? : Nat → List Char → Option Nat
  | soFar, [] => some soFar
  | soFar, c :: rest =>
    match Digits.inBase? 10 c with
    | some digit =>
      let value := soFar * 10 + digit
      if value ≤ 65535 then portValue? value rest else none
    | none => none

-- None where there are no digits or they name the default.
def explicitPort (scheme : Scheme) : List Char → Except UrlError (Option Nat)
  | [] => .ok none
  | [_] => .ok none
  | _ :: digits =>
    match portValue? 0 digits with
    | some value => .ok (if value = scheme.defaultPort then none else some value)
    | none => .error .port

def cutTail (tail : List Char) : List Char × Option (List Char) × Option (List Char) :=
  let (front, fragment) :=
    match Pieces.cut '#' tail with
    | some (front, fragment) => (front, some fragment)
    | none => (tail, none)
  match Pieces.cut '?' front with
  | some (path, query) => (path, some query, fragment)
  | none => (front, none, fragment)

def hostAndPort (scheme : Scheme) (text : List Char) : Except UrlError (Host × Option Nat) :=
  let (host, after) := cutHost false text
  if host = [] then .error .emptyHost
  else
    match Host.parse host with
    | .error error => .error error
    | .ok host => (explicitPort scheme after).map fun number => (host, number)

def ofAuthority (scheme : Scheme) (text : List Char) : Except UrlError Url :=
  let authority := text.takeWhile fun c => !endsAuthority c
  let (userinfo, server) := cutUserinfo authority
  match hostAndPort scheme server with
  | .error error => .error error
  | .ok (host, port) =>
    let (path, query, fragment) := cutTail (text.drop authority.length)
    let (username, password) := credentials (userinfo.getD [])
    .ok
      { scheme, username, password, host, port
        path := UrlPath.normal path
        query := query.map (Percent.encode Percent.inQuery)
        fragment := fragment.map (Percent.encode Percent.inFragment) }

def parse (text : List Char) : Except UrlError Url :=
  match scheme? (clean text) with
  | some (scheme, rest) => ofAuthority scheme (rest.dropWhile UrlPath.isSlash)
  | none => .error .relative

end HostTools.Url
