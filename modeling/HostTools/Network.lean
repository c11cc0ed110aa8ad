import HostTools.Credentials.Identity
import HostTools.Disk
import HostTools.Http.Exchange

set_option autoImplicit false

namespace HostTools

-- A server that holds keeps its side open after the reply.
structure Reply where
  bytes : Bytes
  hold : Bool
deriving DecidableEq, Repr

inductive Sent where
  | head (bytes : Bytes)
  | handshake
deriving DecidableEq, Repr

-- One server at one port of the loopback address. It answers each connection with the next of its
-- replies and the last reply again and again; it drops connections that start TLS.
structure Network where
  port : Nat
  server : Option (List Reply)
deriving DecidableEq, Repr

structure Session where
  sent : List Sent
  events : List Event

abbrev SessionM := StateM Session

namespace Session

def empty : Session := ⟨[], []⟩

def log : Logger SessionM := fun event =>
  modify fun session => { session with events := session.events ++ [event] }

def send (sent : Sent) : SessionM Unit :=
  modify fun session => { session with sent := session.sent ++ [sent] }

end Session

namespace Network

def reply (replies : List Reply) (connection : Nat) : Reply :=
  (replies[connection]?.or replies.getLast?).getD ⟨[], false⟩

def serverAt? (network : Network) (url : Url) : Option (List Reply) :=
  if url.host = .ipv4 Ipv4.loopback ∧ url.effectivePort = network.port then network.server else none

def maxUrl : Nat := 65534

def send (network : Network) (request : Request) (target : Target) : SessionM Answer := do
  if maxUrl < target.url.render.length then pure (.unsent (.other none))
  else
    match network.serverAt? target.url with
    | none => pure (.unsent (.other none))
    | some replies =>
      let connection := (← get).sent.length
      if request.usesTls then
        Session.send .handshake
        pure (.unsent (.other none))
      else
        Session.send (.head (Http.requestHead target))
        let reply := reply replies connection
        pure (Http.answer target.method reply.bytes (!reply.hold))

def readCredentials (disk : Disk) (path : String) : Except FetchFailure Bytes :=
  match disk.read path with
  | .ok bytes => .ok bytes
  | .error error => .error (.credentials (path ++ ": " ++ error.message))

def checkIdentity (disk : Disk) (request : Request) : Except FetchFailure Unit :=
  match request.identity? with
  | none => .ok ()
  | some (keyFile, certFile) => do
    let key ← readCredentials disk keyFile
    let cert ← readCredentials disk certFile
    match Identity.read (key ++ 0x0a :: cert) with
    | .error error => .error (.credentials error.message)
    | .ok identity => if identity.isUsable then .ok () else .error (.transport none)

def client (network : Network) (disk : Disk) : Client SessionM where
  prepare request := pure (checkIdentity disk request)
  send := network.send

end Network

end HostTools
