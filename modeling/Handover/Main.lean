import Handover.CommandLine.Exchange

/-! The command line program. This host offers no transport security with shared keys, so a session
cannot be opened here; arguments and bundles are checked all the same. -/

set_option autoImplicit false

namespace Handover.CommandLine

/-- A host without shared keys has no events to give. -/
def bareHost : Host where
  setupError := some Transport.SetupError.noSharedKeys.message
  events := []
  directory := ⟨.nothing, [], []⟩

def put (deed : Deed) : IO Unit :=
  match deed with
  | .printed line => IO.println line
  | .reported line => IO.eprintln line
  | _ => pure ()

def exitCode : Ending → UInt32
  | .status code => UInt32.ofNat code
  | .failed _ => 1

end Handover.CommandLine

open Handover.CommandLine in
def main (arguments : List String) : IO UInt32 := do
  match Arguments.parse arguments with
  | .error .help =>
      IO.println "usage: keytransfer [-h] [--log-level LEVEL] listen|connect ..."
      return 0
  | .error (.failed program message) =>
      IO.eprintln (program ++ ": error: " ++ message)
      return 2
  | .ok a =>
      let (deeds, ending, _) := perform a bareHost
      deeds.forM put
      return exitCode ending
