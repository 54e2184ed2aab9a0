import LedBench.Firmware.Target
import LedBench.Text.Digits

namespace LedBench.CommandLine

open Firmware

/-- Why the words of a command line are not run. -/
inductive UsageError where
  | help
  | version
  /-- There is nothing at all to do. -/
  | nothingGiven
  | missingCommand
  | unknownCommand
  | unknownArgument
  /-- A value is missing, empty, or none of those that there are. -/
  | invalidValue
  | notANumber
  | missingArgument
  | repeatedArgument
  | needlessValue
  deriving DecidableEq, Repr

/-- Asking for help or the version is no mistake. -/
def UsageError.exitCode : UsageError → Nat
  | help | version => 0
  | _ => 2

inductive ValueKind where
  | target
  | count
  | path
  deriving DecidableEq, Repr

/-- Refuses a text that is no such value. -/
def ValueKind.check (text : String) : ValueKind → Except UsageError Unit
  | target => if (Target.named? text).isSome then .ok () else .error .invalidValue
  | count => if (Text.word64? text).isSome then .ok () else .error .notANumber
  | path => if text.isEmpty then .error .invalidValue else .ok ()

inductive SwitchRole where
  | flag
  | value (kind : ValueKind)
  /-- It ends the reading at once. -/
  | ends (answer : UsageError)
  deriving DecidableEq, Repr

/-- It is written `--name` or, where it has a letter, `-x`; its value follows as the next word,
after an equals sign, or right after the letter. -/
structure Switch where
  name : String
  letter : Option Char := none
  role : SwitchRole
  deriving DecidableEq, Repr

/-- A switch whose value is not settled: it may come with the next word. -/
structure Waiting where
  name : String
  kind : ValueKind
  value : Option String
  deriving DecidableEq, Repr

/-- What has been read of the words of a command. -/
structure Given where
  /-- Switches and their values, that of a flag being empty. -/
  values : List (String × String) := []
  waiting : Option Waiting := none
  deriving DecidableEq, Repr

namespace Given

def has (g : Given) (name : String) : Bool := (g.values.lookup name).isSome

/-- Adds a switch, which may not be there already. -/
def add (g : Given) (name value : String) : Except UsageError Given :=
  if g.has name then .error .repeatedArgument
  else .ok { g with values := (name, value) :: g.values }

/-- Adds a switch with a value, which must be one. -/
def addValue (g : Given) (name : String) (kind : ValueKind) (value : String) :
    Except UsageError Given := do
  let g ← g.add name value
  kind.check value
  return g

/-- Settles the switch that waits, if one does. It is settled late: a word that is no argument at
all is refused before the value of the switch in front of it is looked at. -/
def settle (g : Given) : Except UsageError Given :=
  match g.waiting with
  | none => .ok g
  | some ⟨_, _, none⟩ => .error .invalidValue
  | some ⟨name, kind, some value⟩ => { g with waiting := none }.addValue name kind value

/-- The next word is the value of a switch. -/
def wantsValue (g : Given) : Bool := g.waiting.any (·.value.isNone)

/-- Takes a word as the value of the switch that waits for it. -/
def giveValue (g : Given) (value : String) : Given :=
  { g with waiting := g.waiting.map fun w => { w with value := some value } }

/-- Takes a switch that stands alone or has its value attached. -/
def takeSwitch (g : Given) (s : Switch) (attached : Option String) : Except UsageError Given := do
  match s.role, attached with
  | .flag, _ => (← g.settle).add s.name ""
  | .ends answer, _ => do
    let _ ← g.settle
    .error answer
  | .value kind, some value => (← g.settle).addValue s.name kind value
  | .value kind, none => return { ← g.settle with waiting := some ⟨s.name, kind, none⟩ }

/-- A word `--name` or `--name=value`, without its dashes. -/
def takeLong (switches : List Switch) (g : Given) (cs : List Char) : Except UsageError Given :=
  let name := String.ofList (cs.takeWhile (· ≠ '='))
  let attached := match cs.dropWhile (· ≠ '=') with
    | [] => none
    | _ :: value => some (String.ofList value)
  match switches.find? (·.name = name) with
  | none => .error .unknownArgument
  | some s =>
    match s.role, attached with
    | .value _, _ | _, none => g.takeSwitch s attached
    | _, some _ => .error .needlessValue

/-- The letters of a word behind its dash. The value of a switch ends the letters. -/
def takeLetters (switches : List Switch) (g : Given) : List Char → Except UsageError Given
  | [] => .ok g
  | c :: rest =>
    match switches.find? (·.letter = some c) with
    | none => .error .unknownArgument
    | some s =>
      match s.role with
      | .value _ =>
        match rest with
        | [] => g.takeSwitch s none
        | '=' :: value => g.takeSwitch s (some (String.ofList value))
        | value => g.takeSwitch s (some (String.ofList value))
      | _ => do takeLetters switches (← g.takeSwitch s none) rest

end Given

structure Stray where
  given : Given
  word : String
  /-- It stands after two dashes. -/
  afterDashes : Bool
  rest : List String

/-- Reads words as switches and their values, up to the first word that is neither. After two dashes
no word is one. -/
def readSwitches (switches : List Switch) :
    Given → List String → Except UsageError (Given × Option Stray)
  | g, [] => .ok (g, none)
  | g, word :: rest =>
    match word.toList with
    | ['-', '-'] =>
      match rest with
      | [] => .ok (g, none)
      | word :: rest => .ok (g, some ⟨g, word, true, rest⟩)
    | '-' :: '-' :: cs => do readSwitches switches (← g.takeLong switches cs) rest
    | '-' :: c :: cs => do readSwitches switches (← g.takeLetters switches (c :: cs)) rest
    | _ =>
      if g.wantsValue then readSwitches switches (g.giveValue word) rest
      else .ok (g, some ⟨g, word, false, rest⟩)

end LedBench.CommandLine
