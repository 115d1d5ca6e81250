import FlashStore.CommandLine.SmokeTest

/-!
The command line of the smoke test. Everything it decides is decided by `CommandLine`; here are
only the environment, the configuration file and the two outputs.
-/

namespace FlashStore

def contentOf (path : String) : IO (Option Bytes) := do
  try
    let content ← IO.FS.readBinFile path
    return some content.data.toList
  catch _ => return none

end FlashStore

open FlashStore in
def main (arguments : List String) : IO UInt32 := do
  let settings ← ["KVSSD_BACKEND", "KVSSD_SHARD_AMOUNT", "RUST_LOG"].mapM fun name =>
    return (name, ← IO.getEnv name)
  let environment (name : String) : Option String := (settings.lookup name).join
  let request := CommandLine.parse environment arguments
  let file ← match CommandLine.Request.file? request with
    | none => pure none
    | some path => contentOf path
  let outcome := CommandLine.carryOut environment request file
  IO.print outcome.output
  IO.eprint outcome.errors
  return UInt32.ofNat outcome.exitCode
