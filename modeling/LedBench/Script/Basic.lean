import LedBench.Text.Blank

namespace LedBench

inductive StopReason where
  | maxPasses
  | maxCycles
  | memoryViolation
  deriving DecidableEq, Repr

structure CycleRange where
  min : UInt64
  max : UInt64
  deriving DecidableEq, Repr

def CycleRange.contains (r : CycleRange) (cycles : UInt64) : Bool :=
  r.min ≤ cycles && cycles ≤ r.max

/-- What a script claims of a run. -/
inductive Assertion where
  /-- The LED toggles at least so many times. -/
  | ledToggles (least : UInt64)
  | ledAlternates (expected : Bool)
  | noWatchdogReset (expected : Bool)
  /-- There are intervals between toggles and all are in range. -/
  | blinkInterval (range : CycleRange)
  | stopReason (expected : StopReason)
  deriving DecidableEq, Repr

/-- What assertions are judged by. -/
structure Observed where
  stopReason : StopReason
  watchdogResets : UInt64
  toggles : UInt64
  alternates : Bool
  intervals : List UInt64
  deriving DecidableEq, Repr

def Assertion.holds (o : Observed) : Assertion → Bool
  | .ledToggles least => least ≤ o.toggles
  | .ledAlternates expected => o.alternates = expected
  | .noWatchdogReset expected => (o.watchdogResets = 0) = expected
  | .blinkInterval range => !o.intervals.isEmpty && o.intervals.all range.contains
  | .stopReason expected => o.stopReason = expected

structure ScriptInputs where
  target : String
  /-- The path of a system manifest, seen from the script. -/
  system : Option String
  deriving DecidableEq, Repr

structure ScriptLimits where
  maxPasses : UInt64
  maxCycles : Option UInt64
  deriving DecidableEq, Repr

structure Script where
  schemaVersion : String
  inputs : ScriptInputs
  limits : ScriptLimits
  assertions : List Assertion
  deriving DecidableEq, Repr

inductive ScriptDefect where
  | version (found : String)
  | noTarget
  | noPasses
  | noCycles
  | emptyInterval (range : CycleRange)
  deriving DecidableEq, Repr

def ScriptDefect.message : ScriptDefect → String
  | .version v => "Unsupported schema_version '" ++ v ++ "'. Supported versions: '1.0'"
  | .noTarget => "Input 'target' cannot be empty"
  | .noPasses => "Limit 'max_passes' must be greater than zero"
  | .noCycles => "Limit 'max_cycles' must be greater than zero"
  | .emptyInterval r =>
    "Assertion 'blink_interval_cycles' has min " ++ toString r.min.toNat ++ " above max " ++
      toString r.max.toNat

/-- The range of an assertion on intervals that no interval can be in. -/
def Assertion.emptyInterval? : Assertion → Option CycleRange
  | .blinkInterval r => if r.max < r.min then some r else none
  | _ => none

/-- Checks a script. The first rule that is broken is the one reported. -/
def Script.check (s : Script) : Except ScriptDefect Unit :=
  if s.schemaVersion ≠ "1.0" then .error (.version s.schemaVersion)
  else if (Text.trimmed s.inputs.target.toList).isEmpty then .error .noTarget
  else if s.limits.maxPasses = 0 then .error .noPasses
  else if s.limits.maxCycles = some 0 then .error .noCycles
  else match s.assertions.findSome? Assertion.emptyInterval? with
    | some r => .error (.emptyInterval r)
    | none => .ok ()

end LedBench
