import HostTools.Program

set_option autoImplicit false

namespace HostTools.CommandLine

def names : List String :=
  ["HOME", "PATH", "RUST_LOG", "HOSTKIT_LOG_FORMAT", "HOSTKIT_KEY_FILE", "HOSTKIT_CERT_FILE",
    "CLICOLOR_FORCE"]

def environment : IO Environment := do
  let found ← names.mapM fun name => do
    let value ← IO.getEnv name
    pure (value.map (name, ·))
  pure (Environment.ofList (found.filterMap id))

def put (stream : IO.FS.Stream) (bytes : Bytes) : IO Unit := do
  stream.write ⟨bytes.toArray⟩
  stream.flush

end HostTools.CommandLine

open HostTools in
-- The machine has a working directory without files, and no server listens.
def main (args : List String) : IO UInt32 := do
  let environment ← CommandLine.environment
  let (ending, _) := Program.run { work := ["tmp", "work"], files := [] } ⟨0, none⟩ ⟨environment, none⟩ args
  CommandLine.put (← IO.getStdout) ending.out
  CommandLine.put (← IO.getStderr) ending.err
  pure (UInt32.ofNat ending.code)
