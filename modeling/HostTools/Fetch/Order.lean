import HostTools.Caller
import HostTools.Fetch.Basic
import HostTools.Report.Basic

set_option autoImplicit false

namespace HostTools

structure FetchOrder where
  host : String
  port : UInt16
  method : String
  path : String
  keyFile : Option String
  certFile : Option String
  timeout : Duration
deriving DecidableEq, Repr

namespace FetchOrder

def request (order : FetchOrder) (caller : Caller) : Request :=
  let request := (((Request.ofHost order.host order.port).withMethod order.method).withPath order.path).withTimeout
    order.timeout
  { request with
    keyFile := order.keyFile.map caller.expand
    certFile := order.certFile.map caller.expand }

def fetch {m : Type → Type} [Monad m] (order : FetchOrder) (caller : Caller)
    (attempt : Request → m (Except FetchFailure Bytes)) (log : Logger m) : m Report := do
  let request := order.request caller
  let body ← Fetch.fetch attempt log request
  pure (.fetch request.url body)

end FetchOrder

end HostTools
