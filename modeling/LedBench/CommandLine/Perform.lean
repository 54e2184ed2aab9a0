import LedBench.Bench.Wire
import LedBench.CommandLine.Arguments
import LedBench.CommandLine.Session
import LedBench.CommandLine.Summary
import LedBench.HexFile
import LedBench.Run.TestResult

namespace LedBench.CommandLine

open Bench Chip Files Firmware Run Session

variable {m : Type → Type} [Monad m] [Console m]

/-- The changes of the LED as they are written to a file. -/
def changesJson (r : Report) : Json := Json.list PinEvent.toJson r.events

/-- Runs the firmware, logs every change of the LED, prints a summary and writes the files that are
asked for. -/
def RunArguments.perform (limit : Severity) (a : RunArguments) : Session m ExitCode := do
  let target := a.target.getD .selected
  let s ← setup target a.system
  let r ← simulate limit target s a.passes a.maxCycles
  logAll (r.events.map changeLine)
  let some mean := meanInterval? r.intervals | throw .trap
  printAll (summary target s.chip r mean)
  if let some path := a.snapshot then
    writeJson path r.snapshot.toJson
    log .info ("Snapshot written to " ++ Text.quoted path)
  if let some path := a.traceJson then writeJson path (changesJson r)
  if let some fault := r.fault then fail .badRun fault.message
  return .pass

/-- Prints the configuration word, and writes it to a file if one is asked for. -/
def ConfigWordArguments.perform (a : ConfigWordArguments) : Session m ExitCode := do
  let target := a.target.getD .selected
  printAll [configWordText target]
  if let some path := a.hex then
    let text := HexFile.render (HexFile.ofConfigWord target.config)
    match ← ExceptT.lift (FileStore.write path text) with
    | .ok () => log .info ("Intel HEX written to " ++ Text.quoted path)
    | .error e => fail .badRun ("Failed to write " ++ Text.quoted path ++ ": " ++ e.message)
  return .pass

/-- The script with the limit that the arguments set, checked again. -/
def TestArguments.limited (a : TestArguments) (s : Script) : Except (Halt LoadError) Script :=
  match a.maxPasses with
  | none => .ok s
  | some n =>
    let s := { s with limits := { s.limits with maxPasses := n } }
    (s.check.mapError fun e => .refused (.script e)).map fun _ => s

/-- Writes what a test run yields into a directory. -/
def writeResult (directory : String) (result : TestResult) (r : Report) : Session m Unit := do
  match ← ExceptT.lift (FileStore.ensureDirectories directory) with
  | .ok () =>
    writeJson (Path.join directory "result.json") result.toJson
    writeJson (Path.join directory "trace.json") (changesJson r)
  | .error e => fail .badRun ("Failed to create " ++ Text.quoted directory ++ ": " ++ e.message)

/-- Runs a test script, logs what became of each assertion, prints the verdict and writes the record
if a directory is given for it. -/
def TestArguments.perform (limit : Severity) (a : TestArguments) : Session m ExitCode := do
  let script ← loaded do liftExcept (a.limited (← Script.load a.script))
  let some target := Target.namedIgnoringCase? script.inputs.target
    | fail .badSetup ("Unknown target '" ++ script.inputs.target ++ "'")
  let system := script.inputs.system.map (Path.besides a.script)
  let s ← setup target system
  let r ← simulate limit target s script.limits.maxPasses script.limits.maxCycles
  let js := judge r.observed script.assertions
  let verdict := Verdict.ofJudgements r.stopReason js
  logAll (js.map judgementLine)
  printAll [a.script ++ ": " ++ verdict.name]
  if let some directory := a.outputDir then
    let files : TestFiles := { script := a.script, system }
    writeResult directory (.ofReport r s.chip target script.limits js files) r
  return .ofVerdict verdict

def Arguments.perform (a : Arguments) : m Ending :=
  let limit : Severity := if a.trace then .debug else .info
  match a.command with
  | .run arguments => ending (arguments.perform limit)
  | .configWord arguments => ending arguments.perform
  | .test arguments => ending (arguments.perform limit)

end LedBench.CommandLine
