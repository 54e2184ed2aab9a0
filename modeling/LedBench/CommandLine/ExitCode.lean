import LedBench.Run.Simulation
import LedBench.Run.Verdict

namespace LedBench.CommandLine

open Bench Run

inductive ExitCode where
  | pass
  /-- An assertion does not hold. -/
  | failedAssertion
  /-- There is nothing to run: the arguments, the files or the set-up are wrong. -/
  | badSetup
  /-- The run went wrong, or what it yields could not be written. -/
  | badRun
  deriving DecidableEq, Repr

namespace ExitCode

def toNat : ExitCode → Nat
  | pass => 0
  | failedAssertion => 1
  | badSetup => 2
  | badRun => 3

/-- A fault of the initializer is one of the run; all else that prevents a run is a matter of its
set-up. -/
def ofRunError : RunError → ExitCode
  | .simulation (.memoryViolation _) => badRun
  | _ => badSetup

def ofVerdict : Verdict → ExitCode
  | .pass => pass
  | .fail => failedAssertion
  | .error => badRun

end ExitCode

end LedBench.CommandLine
