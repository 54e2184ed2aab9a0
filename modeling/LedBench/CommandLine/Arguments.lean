import LedBench.CommandLine.Switch

namespace LedBench.CommandLine

open Firmware

/-- Runs the firmware and reports on it. -/
structure RunArguments where
  target : Option Target := none
  system : Option String := none
  passes : UInt64 := 10
  maxCycles : Option UInt64 := none
  /-- The path for a snapshot at the end. -/
  snapshot : Option String := none
  /-- The path for the changes of the LED. -/
  traceJson : Option String := none
  deriving DecidableEq, Repr

/-- Prints the configuration word. -/
structure ConfigWordArguments where
  target : Option Target := none
  /-- The path for an Intel HEX file. -/
  hex : Option String := none
  deriving DecidableEq, Repr

structure TestArguments where
  script : String
  /-- Stands for the limit of the script. -/
  maxPasses : Option UInt64 := none
  /-- The directory for what the run yields. -/
  outputDir : Option String := none
  deriving DecidableEq, Repr

inductive Command where
  | run (arguments : RunArguments)
  | configWord (arguments : ConfigWordArguments)
  | test (arguments : TestArguments)
  deriving DecidableEq, Repr

/-- A command line that can be run. -/
structure Arguments where
  /-- Register writes are logged. -/
  trace : Bool := false
  command : Command
  deriving DecidableEq, Repr

/-- The switches that stand before a command as well as after it. -/
def commonSwitches : List Switch :=
  [⟨"trace", some 't', .flag⟩, ⟨"help", some 'h', .ends .help⟩]

def topSwitches : List Switch := commonSwitches ++ [⟨"version", some 'V', .ends .version⟩]

def runSwitches : List Switch :=
  commonSwitches ++ [
    ⟨"target", none, .value .target⟩, ⟨"system", some 's', .value .path⟩,
    ⟨"passes", none, .value .count⟩, ⟨"max-cycles", none, .value .count⟩,
    ⟨"snapshot", none, .value .path⟩, ⟨"trace-json", none, .value .path⟩]

def configWordSwitches : List Switch :=
  commonSwitches ++ [⟨"target", none, .value .target⟩, ⟨"hex", none, .value .path⟩]

def testSwitches : List Switch :=
  commonSwitches ++ [
    ⟨"script", some 'c', .value .path⟩, ⟨"max-passes", none, .value .count⟩,
    ⟨"output-dir", none, .value .path⟩]

/-- Reads the words after a command, which takes nothing but switches. -/
def readCommand (switches : List Switch) (words : List String) : Except UsageError Given := do
  match ← readSwitches switches {} words with
  | (_, some _) => .error .unknownArgument
  | (g, none) => g.settle

namespace Given

def target? (g : Given) : Option Target := (g.values.lookup "target").bind Target.named?

def count? (g : Given) (name : String) : Option UInt64 := (g.values.lookup name).bind Text.word64?

def path? (g : Given) (name : String) : Option String := g.values.lookup name

def runArguments (g : Given) : RunArguments where
  target := g.target?
  system := g.path? "system"
  passes := (g.count? "passes").getD 10
  maxCycles := g.count? "max-cycles"
  snapshot := g.path? "snapshot"
  traceJson := g.path? "trace-json"

def configWordArguments (g : Given) : ConfigWordArguments where
  target := g.target?
  hex := g.path? "hex"

/-- The script must be given. -/
def testArguments (g : Given) : Except UsageError TestArguments :=
  match g.path? "script" with
  | none => .error .missingArgument
  | some script => .ok { script, maxPasses := g.count? "max-passes", outputDir := g.path? "output-dir" }

end Given

/-- The words that name what can be done. -/
def commandNames : List String := ["run", "config-word", "test", "help"]

/-- Help on a command, or on all. -/
def readHelp : List String → UsageError
  | [] => .help
  | [name] => if name ∈ commandNames then .help else .unknownCommand
  | _ => .unknownCommand

/-- The command of that name with the words after it, and whether they ask for a trace. -/
def readNamed (name : String) (words : List String) : Except UsageError (Bool × Command) := do
  match name with
  | "run" =>
    let g ← readCommand runSwitches words
    return (g.has "trace", .run g.runArguments)
  | "config-word" =>
    let g ← readCommand configWordSwitches words
    return (g.has "trace", .configWord g.configWordArguments)
  | "test" =>
    let g ← readCommand testSwitches words
    return (g.has "trace", .test (← g.testArguments))
  | "help" => .error (readHelp words)
  | _ => .error .unknownCommand

/-- Reads the words of a command line, without the name of the program. -/
def Arguments.parse (words : List String) : Except UsageError Arguments := do
  match ← readSwitches topSwitches {} words with
  | (g, none) => .error (if g.values.isEmpty then .nothingGiven else .missingCommand)
  | (g, some stray) =>
    if stray.afterDashes then
      .error (if stray.word ∈ commandNames then .unknownArgument else .unknownCommand)
    else
      let (trace, command) ← readNamed stray.word stray.rest
      return { trace := g.has "trace" || trace, command }

end LedBench.CommandLine
