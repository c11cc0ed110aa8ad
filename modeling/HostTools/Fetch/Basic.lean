import HostTools.Fetch.Failure
import HostTools.Log.Event
import HostTools.Target

set_option autoImplicit false

namespace HostTools

inductive Break where
  | timeout
  | other (detail : Option String)
deriving DecidableEq, Repr

def Break.failure : Break → FetchFailure
  | .timeout => .timeout
  | .other detail => .transport detail

inductive Answer where
  | unsent (reason : Break)
  | response (status : Nat) (body : Except Break Bytes)

structure Client (m : Type → Type) where
  prepare : Request → m (Except FetchFailure Unit)
  send : Request → Target → m Answer

namespace Fetch

def sending (request : Request) (target : Target) : Event :=
  { level := .debug
    speaker := "hostkit_infra_http::reqwest_fetcher"
    message := "Sending HTTP request"
    fields :=
      [("method", .text target.method), ("url", .text target.url.text),
        ("tls", .bool request.usesTls), ("timeout_ms", .number request.timeout.millis.toNat)] }

def received (status : Nat) : Event :=
  { level := .debug
    speaker := "hostkit_infra_http::reqwest_fetcher"
    message := "HTTP response received"
    fields := [("status", .number status)] }

def absent (request : Request) (failure : FetchFailure) : Event :=
  { level := .warn
    speaker := "hostkit_core::port::http_fetcher"
    message := "HTTP fetch returned no body"
    fields :=
      [("url", .text request.url), ("method", .text request.method),
        ("reason", .text failure.message)] }

def outcome : Answer → Except FetchFailure Bytes
  | .unsent reason => .error reason.failure
  | .response status body =>
    if status = 200 then
      match body with
      | .ok bytes => .ok bytes
      | .error reason => .error reason.failure
    else .error (.status status)

def logStatus {m : Type → Type} [Monad m] (log : Logger m) : Answer → m Unit
  | .unsent _ => pure ()
  | .response status _ => log (received status)

def tryFetch {m : Type → Type} [Monad m] (client : Client m) (log : Logger m) (request : Request) :
    m (Except FetchFailure Bytes) :=
  match Target.ofRequest request with
  | .error error => pure (.error (.invalidRequest error.message))
  | .ok target => do
    match ← client.prepare request with
    | .error failure => pure (.error failure)
    | .ok () =>
      log (sending request target)
      let answer ← client.send request target
      logStatus log answer
      pure (outcome answer)

-- A failure is logged and then forgotten.
def fetch {m : Type → Type} [Monad m] (attempt : Request → m (Except FetchFailure Bytes))
    (log : Logger m) (request : Request) : m (Option Bytes) := do
  match ← attempt request with
  | .ok body => pure (some body)
  | .error failure =>
    log (absent request failure)
    pure none

end Fetch

end HostTools
