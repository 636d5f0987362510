import ShootMachines.Command.Outcome
import ShootMachines.Yaml.Writer

/-!
# The program

The program reads the files that its command names, runs the command on them, and prints the output
on standard output and the log and the report of a failure on standard error. It has no connection
to a cluster.
-/

namespace ShootMachines

/-- Why a file cannot be read. -/
def readFault : IO.Error → String
  | .noFileOrDirectory _ _ _ => "No such file or directory (os error 2)"
  | .permissionDenied _ _ _ => "Permission denied (os error 13)"
  | .inappropriateType _ code details => details ++ " (os error " ++ toString code ++ ")"
  | other => toString other

/-- The content of a file, or why it cannot be read. -/
def readContent (path : String) : IO (String × Except String Bytes) := do
  try
    let content ← IO.FS.readBinFile path
    return (path, .ok content.toList)
  catch fault => return (path, .error (readFault fault))

/-- The surroundings in which the files of an invocation have been read. -/
def readSurroundings : Except Command.UsageFault Invocation → IO Surroundings
  | .ok (.run command) => do
      let contents ← command.files.mapM readContent
      return ⟨fun path => (contents.lookup path).getD (.error "not read"), noCluster⟩
  | _ => return ⟨fun _ => .error "not read", noCluster⟩
where
  noCluster : Except String Api := .error "this program has no connection to a cluster"

/-- The level that the log is kept down to. Without a setting it is the course of the run. -/
def logLevel : IO (Option LogLevel) := do
  match ← IO.getEnv "KUBEVIRT_WORKER_LOG" with
  | some "off" => return none
  | some "debug" => return some .debug
  | _ => return some .info

/-- Print what an outcome has to say. -/
def printOutcome (outcome : Outcome) : IO Unit := do
  if let some level ← logLevel then
    for (level, message) in Event.messages level outcome.events do
      IO.eprintln (level.name ++ " " ++ message)
  match outcome with
  | .refused fault => IO.eprintln ("error: " ++ fault.message)
  | .answered lines => lines.forM fun line => IO.println line
  | .done _ (some output) => IO.print output.write
  | .done _ none => return
  | .failed _ failure => failure.report.forM fun line => IO.eprintln line

end ShootMachines

open ShootMachines in
/-- Run the program. -/
def main (arguments : List String) : IO UInt32 := do
  let invocation := Invocation.read arguments
  let around ← readSurroundings invocation
  let outcome := Outcome.ofInvocation around invocation
  printOutcome outcome
  return outcome.code.toUInt32
