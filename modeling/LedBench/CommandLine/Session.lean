import LedBench.CommandLine.Console
import LedBench.CommandLine.ExitCode
import LedBench.Load

namespace LedBench.CommandLine

open Bench Chip Files Firmware Run

inductive Ending where
  | exit (code : ExitCode)
  | trap
  deriving DecidableEq, Repr

/-- A command under way: it can end at any point. -/
abbrev Session (m : Type → Type) := ExceptT Ending m

namespace Session

variable {m : Type → Type} {α ε : Type} [Monad m] [Console m]

def logAll (lines : List LogLine) : Session m Unit := ExceptT.lift (lines.forM Console.log)

def log (severity : Severity) (text : String) : Session m Unit :=
  ExceptT.lift (Console.log ⟨severity, text⟩)

def printAll (lines : List String) : Session m Unit := ExceptT.lift (lines.forM Console.print)

def fail (code : ExitCode) (reason : String) : Session m α := do
  log .error reason
  throw (.exit code)

/-- Goes on with a value. If there is none the command ends, with the exit code for the cause. -/
def orFail (code : ε → ExitCode) (message : ε → String) : Except (Halt ε) α → Session m α
  | .ok a => return a
  | .error (.refused e) => fail (code e) (message e)
  | .error .trap => throw .trap

/-- Goes on with what has been loaded. What cannot be loaded is a bad set-up. -/
def loaded (action : Loading m α) : Session m α := do
  orFail (fun _ => .badSetup) LoadError.message (← ExceptT.lift action.run)

def writeJson (path : String) (v : Json) : Session m Unit := do
  match ← ExceptT.lift (FileStore.write path v.pretty) with
  | .ok () => return
  | .error e => fail .badRun ("Failed to create " ++ Text.quoted path ++ ": " ++ e.message)

/-- The chip and the LED: those of a system, or the built-in chip and no LED. -/
def setup (target : Target) (system : Option String) : Session m Setup := do
  match system with
  | none =>
    log .info ("Using built-in " ++ target.name ++ " descriptor")
    return { chip := .ofTarget target, led := none }
  | some path =>
    log .info ("Loading system manifest: " ++ Text.quoted path)
    loaded do
      let manifest ← Manifest.load path
      let chip ← manifest.loadChip (Path.directory path)
      let led ← liftExcept manifest.loadLed
      return { chip, led }

/-- Runs a set-up; the log of the run is shown up to `limit`. -/
def simulate (limit : Severity) (target : Target) (s : Setup) (maxPasses : UInt64)
    (maxCycles : Option UInt64) : Session m Report := do
  let run := Run.simulate target s maxPasses maxCycles
  logAll (LogLine.upTo limit (Journal.lines none run.journal.toList))
  orFail .ofRunError RunError.message run.result

/-- The ending of a session that always ends. -/
def ending (s : Session m ExitCode) : m Ending := do
  match ← s.run with
  | .ok code => return .exit code
  | .error e => return e

end Session

end LedBench.CommandLine
