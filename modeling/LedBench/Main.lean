import LedBench.CommandLine.Perform

namespace LedBench.Program

open CommandLine Files

def fileError : IO.Error → FileError
  | .noFileOrDirectory .. => .notFound
  | .alreadyExists .. => .alreadyExists
  | .inappropriateType _ 20 _ => .notDirectory
  | .inappropriateType _ 21 _ => .isDirectory
  | .invalidArgument _ 36 _ => .nameTooLong
  | e => .other (toString e)

/-- An action, its failure being a value. -/
def attempt {α : Type} (action : IO α) : IO (Except FileError α) := do
  match ← action.toBaseIO with
  | .ok a => return .ok a
  | .error e => return .error (fileError e)

instance : Console IO where
  read path := do
    match ← attempt (IO.FS.readBinFile path) with
    | .ok bytes => return .ok (String.fromUTF8? bytes)
    | .error .isDirectory => return .ok none
    | .error e => return .error e
  write path text := attempt (IO.FS.writeFile path text)
  ensureDirectories path := attempt (IO.FS.createDirAll path)
  print line := IO.println line
  log line := IO.eprintln line.render

def helpText : String :=
  "Simulator of a firmware that blinks an LED\n\n" ++
    "Commands:\n" ++
    "  run          Run the firmware on a simulated chip\n" ++
    "  config-word  Print the configuration word of a chip\n" ++
    "  test         Run a test script\n\n" ++
    "Options:\n" ++
    "  -t, --trace  Log every register write"

def usageText : UsageError → String
  | .help | .nothingGiven => helpText
  | .version => "1.0"
  | .missingCommand => "a command is missing"
  | .unknownCommand => "there is no such command"
  | .unknownArgument => "there is no such argument"
  | .invalidValue => "a value is missing or is none that can be given"
  | .notANumber => "a number is wanted"
  | .missingArgument => "an argument is missing"
  | .repeatedArgument => "an argument is given twice"
  | .needlessValue => "an argument takes no value"

/-- The exit code of a program that arithmetic has stopped. -/
def trapCode : UInt32 := 134

def run (words : List String) : IO UInt32 := do
  match Arguments.parse words with
  | .error e =>
    if e.exitCode = 0 then IO.println (usageText e) else IO.eprintln (usageText e)
    return UInt32.ofNat e.exitCode
  | .ok a =>
    match ← (a.perform : IO Ending) with
    | .exit code => return UInt32.ofNat code.toNat
    | .trap => return trapCode

end LedBench.Program

def main (words : List String) : IO UInt32 := LedBench.Program.run words
