import HostTools.Address.Basic
import HostTools.Path

set_option autoImplicit false

namespace HostTools

structure Duration where
  secs : UInt64
  nanos : UInt32
deriving DecidableEq, Repr

namespace Duration

def ofSecs (secs : UInt64) : Duration := ⟨secs, 0⟩

def ofParts (secs nanos : Nat) : Duration :=
  ⟨UInt64.ofNat (secs + nanos / 1000000000), UInt32.ofNat (nanos % 1000000000)⟩

def millis (duration : Duration) : UInt64 :=
  UInt64.ofNat (duration.secs.toNat * 1000 + duration.nanos.toNat / 1000000)

end Duration

inductive Scheme where
  | http
  | https
deriving DecidableEq, Repr

namespace Scheme

def name : Scheme → String
  | .http => "http"
  | .https => "https"

def defaultPort : Scheme → Nat
  | .http => 80
  | .https => 443

end Scheme

structure Request where
  host : String
  port : UInt16
  method : String := "GET"
  path : String := "/"
  keyFile : Option String := none
  certFile : Option String := none
  timeout : Duration := .ofSecs 1
deriving DecidableEq, Repr

namespace Request

def ofHost (host : String) (port : UInt16) : Request := { host, port }

def withMethod (request : Request) (method : String) : Request := { request with method }

def withPath (request : Request) (path : String) : Request := { request with path }

def withClientCert (request : Request) (keyFile certFile : String) : Request :=
  { request with keyFile := some keyFile, certFile := some certFile }

def withTimeout (request : Request) (timeout : Duration) : Request := { request with timeout }

-- A request uses TLS exactly when both files are named.
def identity? (request : Request) : Option (String × String) :=
  match request.keyFile, request.certFile with
  | some key, some cert => some (key, cert)
  | _, _ => none

def usesTls (request : Request) : Bool := request.identity?.isSome

def scheme (request : Request) : Scheme := if request.usesTls then .https else .http

def hasOriginForm (request : Request) : Bool :=
  request.path.toList.head? = some '/' ||
    !Pieces.occurs [':', '/', '/'] request.path.toList

def urlHost (request : Request) : List Char :=
  match Address.classify request.host with
  | some .ipv6 => '[' :: request.host.toList ++ [']']
  | _ => request.host.toList

def urlPath (request : Request) : List Char :=
  match request.path.toList with
  | '/' :: rest => '/' :: rest
  | path => '/' :: path

def url (request : Request) : String :=
  String.ofList (request.scheme.name.toList ++ ':' :: '/' :: '/' :: request.urlHost ++
    ':' :: Digits.decimal request.port.toNat ++ request.urlPath)

def same (a b : Request) : Bool :=
  a.host = b.host && a.port = b.port && a.method = b.method && a.path = b.path &&
    Path.same? a.keyFile b.keyFile && Path.same? a.certFile b.certFile &&
    decide (a.timeout = b.timeout)

end Request

end HostTools
