import ShootMachines.Failure
import ShootMachines.Text.Lines

/-!
# Failing commands

A command fails on an input that cannot be read, or in its work on what was read. The report states
the failure and then its causes, outermost first.
-/

namespace ShootMachines

/-- Why a command fails. -/
inductive CommandFailure where
  /-- An input cannot be used. -/
  | input (failure : Failure)
  | generation (worker : String) (failure : Failure)
  | payload (file : String) (fault : PayloadFault)
  | shoot (file : String) (failure : Failure)
  | cloudProfile (file : String) (failure : Failure)
  | secret (file : String) (failure : Failure)
  deriving Repr

namespace CommandFailure

/-- The messages of the failure and of the causes below it, outermost first. -/
def chain : CommandFailure → List String
  | .input failure => failure.chain
  | .generation worker failure => ("generation for worker " ++ worker ++ " failed") :: failure.chain
  | .payload file fault => ["could not decode " ++ file, fault.message]
  | .shoot file failure => ("shoot " ++ file ++ " is invalid") :: failure.chain
  | .cloudProfile file failure => ("cloud profile " ++ file ++ " is invalid") :: failure.chain
  | .secret file failure => ("secret " ++ file ++ " is invalid") :: failure.chain

/-- A message behind a mark. Its further lines start in the same column. -/
def behind (mark message : String) : List String :=
  match linesOf message with
  | [] => []
  | first :: rest =>
      (mark ++ first) :: rest.map fun line => String.ofList (List.replicate mark.length ' ') ++ line

/-- The mark of one of several causes: its number, in five columns. -/
def numberMark (number : Nat) : String :=
  let digits := toString number
  String.ofList (List.replicate (5 - digits.length) ' ') ++ digits ++ ": "

/-- The causes in lines. A single cause has no number. -/
def causeLines : List String → List String
  | [] => []
  | [cause] => behind "    " cause
  | causes => causes.zipIdx.flatMap fun (cause, number) => behind (numberMark number) cause

/-- The report in lines. -/
def report (failure : CommandFailure) : List String :=
  match failure.chain with
  | [] => []
  | message :: [] => linesOf ("Error: " ++ message)
  | message :: causes =>
      linesOf ("Error: " ++ message) ++ ["", "Caused by:"] ++ causeLines causes

end CommandFailure

end ShootMachines
