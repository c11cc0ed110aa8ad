import HostTools.Fetch.Basic
import HostTools.Http.Body
import HostTools.Text.Base64

set_option autoImplicit false

namespace HostTools.Http

def login? (url : Url) : Option (Bytes × Option Bytes) :=
  let username := Percent.decode (Bytes.ofChars url.username)
  let password :=
    match url.password with
    | some password =>
      let decoded := Percent.decode (Bytes.ofChars password)
      if (Utf8.strict? decoded).isSome then some decoded else none
    | none => none
  if (Utf8.strict? username).isSome ∧ (username ≠ [] ∨ password.isSome) then
    some (username, password)
  else none

def authorization (url : Url) : List Char :=
  match login? url with
  | some (username, password) =>
    "authorization: Basic ".toList ++ Base64.encode (username ++ 0x3a :: password.getD []) ++
      ['\r', '\n']
  | none => []

def requestTarget (target : Target) : List Char :=
  if target.method = "CONNECT" then
    (if (login? target.url).isSome then [] else target.url.userinfo) ++ target.url.authority
  else target.url.target

def requestHead (target : Target) : Bytes :=
  Bytes.ofChars
    (target.method.toList ++ ' ' :: requestTarget target ++ " HTTP/1.1\r\n".toList ++
      authorization target.url ++ "accept: */*\r\nhost: ".toList ++ target.url.authority ++
      ['\r', '\n', '\r', '\n'])

-- What arrives too late is a timeout if the server keeps its side open, and a broken exchange if it
-- has closed.
def cutOff (closed : Bool) : Break := if closed then .other none else .timeout

def answer (method : String) (reply : Bytes) (closed : Bool) : Answer :=
  match finalHead reply with
  | .short => .unsent (cutOff closed)
  | .bad => .unsent (.other none)
  | .done head rest =>
    match framing? method head with
    | none => .unsent (.other none)
    | some framing =>
      .response head.status
        (match body framing closed rest with
          | .done bytes _ => .ok bytes
          | .short => .error (cutOff closed)
          | .bad => .error (.other none))

end HostTools.Http
