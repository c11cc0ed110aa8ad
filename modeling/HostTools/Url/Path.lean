import HostTools.Text.Pieces
import HostTools.Url.Percent

set_option autoImplicit false

namespace HostTools.UrlPath

def isSlash (c : Char) : Bool := c = '/' || c = '\\'

def pieces : List Char → List (List Char)
  | [] => [[]]
  | c :: rest =>
    if isSlash c then [] :: pieces rest
    else
      match pieces rest with
      | [] => [[c]]
      | piece :: more => (c :: piece) :: more

-- Each dot may be written as its triplet.
def dots? : List Char → Option Nat
  | [] => some 0
  | '.' :: rest => (dots? rest).map (· + 1)
  | '%' :: '2' :: e :: rest => if e = 'e' ∨ e = 'E' then (dots? rest).map (· + 1) else none
  | _ => none

def isDrive : List Char → Bool
  | [letter, mark] => letter.isAlpha && (mark = ':' || mark = '|')
  | _ => false

-- The last segment comes first. One that looks like the name of a drive is not taken away.
def shorten : List (List Char) → List (List Char)
  | [] => []
  | last :: rest => if isDrive last then last :: rest else rest

def resolve : List (List Char) → List (List Char) → List (List Char)
  | soFar, [] => soFar
  | soFar, piece :: more =>
    let segment := Percent.encode Percent.inPath piece
    let final := more.isEmpty
    if dots? segment = some 1 then resolve (if final then [] :: soFar else soFar) more
    else if dots? segment = some 2 then
      resolve (if final then [] :: shorten soFar else shorten soFar) more
    else resolve (segment :: soFar) more

def segments (path : List Char) : List (List Char) := (resolve [] (pieces path)).reverse

def render (segments : List (List Char)) : List Char := segments.flatMap fun segment => '/' :: segment

def normal (path : List Char) : List Char :=
  match path with
  | c :: rest => if isSlash c then render (segments rest) else render (segments (c :: rest))
  | [] => render (segments [])

end HostTools.UrlPath
