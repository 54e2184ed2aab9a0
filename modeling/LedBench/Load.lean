import LedBench.Chip.Builtin
import LedBench.Chip.Wire
import LedBench.Files.Store
import LedBench.Manifest
import LedBench.Script.Wire
import LedBench.Text.Quoted
import LedBench.Yaml.Source

namespace LedBench

open Chip Files Firmware

inductive FileKind where
  | chip
  | manifest
  | script
  deriving DecidableEq, Repr

namespace FileKind

/-- What a file that cannot be opened is called. -/
def noun : FileKind → String
  | chip => "chip descriptor"
  | manifest => "system manifest"
  | script => "test script"

/-- What a text that cannot be read is called. -/
def title : FileKind → String
  | chip => "Chip Descriptor"
  | manifest => "System Manifest"
  | script => "Test Script YAML"

end FileKind

/-- Why a file does not yield what it is read as. -/
inductive LoadError where
  | unopened (kind : FileKind) (path : String) (cause : FileError)
  /-- It is no text of the wanted form, or no text at all. -/
  | unreadable (kind : FileKind)
  | chip (cause : Defect)
  | script (cause : ScriptDefect)
  | device (cause : DeviceError)
  deriving DecidableEq, Repr

def LoadError.message : LoadError → String
  | unopened kind path cause =>
    "Failed to open " ++ kind.noun ++ " at " ++ Text.quoted path ++ ": " ++ cause.message
  | unreadable kind => "Failed to parse " ++ kind.title
  | chip cause => cause.message
  | script cause => cause.message
  | device cause => cause.message

def Chip.Descriptor.ofYaml (text : String) : Except (Halt LoadError) Descriptor :=
  match (Yaml.Place.parse? text).bind Descriptor.read? with
  | none => .error (.refused (.unreadable .chip))
  | some d => (d.check.mapError (·.map .chip)).map fun _ => d

def Manifest.ofYaml (text : String) : Except (Halt LoadError) Manifest :=
  match (Yaml.Place.parse? text).bind Manifest.read? with
  | none => .error (.refused (.unreadable .manifest))
  | some m => .ok m

/-- A script from its text, checked. What an assertion is shows only in the types of its values. -/
def Script.ofYaml (text : String) : Except (Halt LoadError) Script :=
  let assertion? := fun (p : Yaml.Place) => Assertion.read? (Yaml.Typed.mk p)
  match (Yaml.Place.parse? text).bind (Script.read? assertion?) with
  | none => .error (.refused (.unreadable .script))
  | some s => (s.check.mapError fun e => .refused (.script e)).map fun _ => s

variable {m : Type → Type} [Monad m] [FileStore m]

/-- An action in `m` that yields what a file is read as. -/
abbrev Loading (m : Type → Type) := ExceptT (Halt LoadError) m

def FileKind.load (kind : FileKind) (path : String) : Loading m String := do
  match ← ExceptT.lift (FileStore.read path) with
  | .ok (some text) => return text
  | .ok none => throw (.refused (.unreadable kind))
  | .error e => throw (.refused (.unopened kind path e))

def Chip.Descriptor.load (path : String) : Loading m Descriptor := do
  liftExcept (Descriptor.ofYaml (← FileKind.chip.load path))

def Manifest.load (path : String) : Loading m Manifest := do
  liftExcept (Manifest.ofYaml (← FileKind.manifest.load path))

def Script.load (path : String) : Loading m Script := do
  liftExcept (Script.ofYaml (← FileKind.script.load path))

/-- The chip of a manifest in the directory `base`. The name of a built-in chip, whatever its case,
is never taken as a path. -/
def Manifest.loadChip (base : String) (system : Manifest) : Loading m Descriptor :=
  match Target.namedIgnoringCase? system.chip with
  | some t => return .ofTarget t
  | none => Descriptor.load (Path.join base system.chip)

/-- The pin of a manifest's LED, its failure being one of loading. -/
def Manifest.loadLed (system : Manifest) : Except (Halt LoadError) (Option PinRef) :=
  system.led.mapError fun e => .refused (.device e)

end LedBench
