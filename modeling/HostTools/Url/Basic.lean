import HostTools.Request
import HostTools.Url.Host

set_option autoImplicit false

namespace HostTools

-- A port is kept only where it is not the scheme's default.
structure Url where
  scheme : Scheme
  username : List Char
  password : Option (List Char)
  host : Host
  port : Option Nat
  path : List Char
  query : Option (List Char)
  fragment : Option (List Char)
deriving DecidableEq, Repr

namespace Url

def effectivePort (url : Url) : Nat := url.port.getD url.scheme.defaultPort

def marked (mark : Char) : Option (List Char) → List Char
  | some part => mark :: part
  | none => []

def userinfo (url : Url) : List Char :=
  match url.username, url.password with
  | [], none => []
  | username, password => username ++ marked ':' password ++ ['@']

def authority (url : Url) : List Char :=
  url.host.render ++ marked ':' (url.port.map Digits.decimal)

def target (url : Url) : List Char := url.path ++ marked '?' url.query

def render (url : Url) : List Char :=
  url.scheme.name.toList ++ ':' :: '/' :: '/' :: url.userinfo ++ url.authority ++ url.target ++
    marked '#' url.fragment

def text (url : Url) : String := String.ofList url.render

end Url

end HostTools
