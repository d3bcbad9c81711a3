import ClusterKv.CommandLine.Program

/-! The command line. The program has no sockets: clusters are out of its reach. -/

open ClusterKv ClusterKv.CommandLine

/-- The content of the file that the command line names, if there is such a file. -/
def readConfig (invocation : Invocation) : IO (Option Bytes) := do
  match invocation.connect?.bind (·.configPath) with
  | none => return none
  | some path =>
    try
      return some (← IO.FS.readBinFile path).toList
    catch _ => return none

def main (args : List String) : IO UInt32 := do
  match Invocation.parse args with
  | .error fault =>
    IO.eprintln fault.kind
    return fault.exitCode.toUInt32
  | .ok invocation =>
    let content ← readConfig invocation
    let net := (Network.isolated · "Network is unreachable (os error 101)")
    let report := Program.run net () (fun _ => content) invocation
    IO.print report.output
    IO.eprint report.errors
    return report.code.toUInt32
