import LedBench.Json.Source
import LedBench.Script.Basic

namespace LedBench

open Wire

variable {ν : Type} [Source ν]

def StopReason.names : List (String × StopReason) :=
  [("max_passes", .maxPasses), ("max_cycles", .maxCycles), ("memory_violation", .memoryViolation)]

def StopReason.name : StopReason → String
  | .maxPasses => "max_passes"
  | .maxCycles => "max_cycles"
  | .memoryViolation => "memory_violation"

def StopReason.ofKey? : Key → Option StopReason
  | .name s => StopReason.names.lookup s
  | .index n => (StopReason.names[n]?).map (·.2)
  | .other => none

def StopReason.read? (v : ν) : Option StopReason := (Source.choice? v).bind StopReason.ofKey?

def StopReason.toJson (r : StopReason) : Json := .str r.name

def CycleRange.form : RecordForm where
  fields := [⟨"min", false⟩, ⟨"max", false⟩]
  closed := true

def CycleRange.read? (v : ν) : Option CycleRange :=
  match Source.members? CycleRange.form v with
  | some [min, max] => do return { min := ← required min word64?, max := ← required max word64? }
  | _ => none

def CycleRange.toJson (r : CycleRange) : Json :=
  .obj [("min", Json.word64 r.min), ("max", Json.word64 r.max)]

namespace Assertion

/-- A record that holds one field and nothing else. -/
def single? {α : Type} (name : String) (read : ν → Option α) (v : ν) : Option α :=
  match Source.members? { fields := [⟨name, false⟩], closed := true } v with
  | some [slot] => required slot read
  | _ => none

def ledToggles? (v : ν) : Option Assertion := (single? "led_toggles" word64? v).map .ledToggles

def ledAlternates? (v : ν) : Option Assertion :=
  (single? "led_alternates" Source.bool? v).map .ledAlternates

def noWatchdogReset? (v : ν) : Option Assertion :=
  (single? "no_watchdog_reset" Source.bool? v).map .noWatchdogReset

def blinkInterval? (v : ν) : Option Assertion :=
  (single? "blink_interval_cycles" CycleRange.read? v).map .blinkInterval

def stopReason? (v : ν) : Option Assertion :=
  (single? "expected_stop_reason" StopReason.read? v).map .stopReason

/-- Reads an assertion as the first kind that fits. -/
def read? (v : ν) : Option Assertion :=
  [ledToggles?, ledAlternates?, noWatchdogReset?, blinkInterval?, stopReason?].findSome? (· v)

def toJson : Assertion → Json
  | .ledToggles n => .obj [("led_toggles", Json.word64 n)]
  | .ledAlternates b => .obj [("led_alternates", .bool b)]
  | .noWatchdogReset b => .obj [("no_watchdog_reset", .bool b)]
  | .blinkInterval r => .obj [("blink_interval_cycles", r.toJson)]
  | .stopReason r => .obj [("expected_stop_reason", r.toJson)]

end Assertion

def ScriptInputs.form : RecordForm where
  fields := [⟨"target", false⟩, ⟨"system", false⟩]
  closed := true

def ScriptInputs.read? (v : ν) : Option ScriptInputs :=
  match Source.members? ScriptInputs.form v with
  | some [target, system] => do
    return { target := ← required target Source.text?, system := ← optional system Source.text? }
  | _ => none

def ScriptInputs.toJson (i : ScriptInputs) : Json :=
  .obj [("target", .str i.target), ("system", Json.orNull .str i.system)]

def ScriptLimits.form : RecordForm where
  fields := [⟨"max_passes", false⟩, ⟨"max_cycles", true⟩]
  closed := true

def ScriptLimits.read? (v : ν) : Option ScriptLimits :=
  match Source.members? ScriptLimits.form v with
  | some [maxPasses, maxCycles] => do
    return { maxPasses := ← required maxPasses word64?, maxCycles := ← optional maxCycles word64? }
  | _ => none

def ScriptLimits.toJson (l : ScriptLimits) : Json :=
  .obj [("max_passes", Json.word64 l.maxPasses),
    ("max_cycles", Json.orNull Json.word64 l.maxCycles)]

def Script.form : RecordForm where
  fields := [⟨"schema_version", false⟩, ⟨"inputs", false⟩, ⟨"limits", false⟩,
    ⟨"assertions", true⟩]
  closed := true

/-- Reads a script, its assertions by `assertion?`; it is not checked. -/
def Script.read? (assertion? : ν → Option Assertion) (v : ν) : Option Script :=
  match Source.members? Script.form v with
  | some [version, inputs, limits, assertions] => do
    return {
      schemaVersion := ← required version Source.text?
      inputs := ← required inputs ScriptInputs.read?
      limits := ← required limits ScriptLimits.read?
      assertions := ← defaulting [] assertions (list? assertion?) }
  | _ => none

def Script.toJson (s : Script) : Json :=
  .obj [("schema_version", .str s.schemaVersion), ("inputs", s.inputs.toJson),
    ("limits", s.limits.toJson), ("assertions", Json.list Assertion.toJson s.assertions)]

end LedBench
