import LedBench.Bench.Snapshot
import LedBench.Bench.Trace
import LedBench.Json.Source

namespace LedBench.Bench

open Wire

variable {ν : Type} [Source ν]

def ResetCause.names : List (String × ResetCause) :=
  [("power_on", .powerOn), ("watchdog", .watchdog)]

def ResetCause.name : ResetCause → String
  | .powerOn => "power_on"
  | .watchdog => "watchdog"

def ResetCause.ofKey? : Key → Option ResetCause
  | .name s => ResetCause.names.lookup s
  | .index n => (ResetCause.names[n]?).map (·.2)
  | .other => none

def ResetCause.read? (v : ν) : Option ResetCause := (Source.choice? v).bind ResetCause.ofKey?

def ResetCause.toJson (c : ResetCause) : Json := .str c.name

def PinEvent.form : RecordForm where
  fields := [⟨"cycle", false⟩, ⟨"level", false⟩, ⟨"reset", true⟩]

def PinEvent.read? (v : ν) : Option PinEvent :=
  match Source.members? PinEvent.form v with
  | some [cycle, level, reset] => do
    return {
      cycle := ← required cycle word64?
      level := ← required level Source.bool?
      reset := ← defaulting false reset Source.bool? }
  | _ => none

def PinEvent.toJson (e : PinEvent) : Json :=
  .obj [("cycle", Json.word64 e.cycle), ("level", .bool e.level), ("reset", .bool e.reset)]

def ConfigWordState.form : RecordForm where
  fields := [⟨"address", false⟩, ⟨"value", false⟩, ⟨"watchdog_enabled", false⟩]

def ConfigWordState.read? (v : ν) : Option ConfigWordState :=
  match Source.members? ConfigWordState.form v with
  | some [address, value, enabled] => do
    return {
      address := ← required address word16?
      value := ← required value word16?
      watchdogEnabled := ← required enabled Source.bool? }
  | _ => none

def ConfigWordState.toJson (c : ConfigWordState) : Json :=
  .obj [("address", Json.word16 c.address), ("value", Json.word16 c.value),
    ("watchdog_enabled", .bool c.watchdogEnabled)]

def RegisterMap.read? (v : Json) : Option RegisterMap := do
  let entries ← v.entries?
  return .ofList (← entries.mapM fun (name, v) => (byte? v).map (name, ·))

def RegisterMap.toJson (m : RegisterMap) : Json := .obj (m.map fun (n, v) => (n, Json.byte v))

def Snapshot.form : RecordForm where
  fields := [⟨"target", false⟩, ⟨"config_word", false⟩, ⟨"cycles", false⟩, ⟨"nops", false⟩,
    ⟨"passes", false⟩, ⟨"watchdog_resets", false⟩, ⟨"led", false⟩, ⟨"led_level", false⟩,
    ⟨"registers", false⟩]

def Snapshot.read? (v : Json) : Option Snapshot :=
  match Source.members? Snapshot.form v with
  | some [target, configWord, cycles, nops, passes, resets, led, ledLevel, registers] => do
    return {
      target := ← required target Source.text?
      configWord := ← required configWord ConfigWordState.read?
      cycles := ← required cycles word64?
      nops := ← required nops word64?
      passes := ← required passes word64?
      watchdogResets := ← required resets word64?
      led := ← required led Source.text?
      ledLevel := ← required ledLevel Source.bool?
      registers := ← required registers RegisterMap.read? }
  | _ => none

def Snapshot.toJson (s : Snapshot) : Json :=
  .obj [("target", .str s.target), ("config_word", s.configWord.toJson),
    ("cycles", Json.word64 s.cycles), ("nops", Json.word64 s.nops),
    ("passes", Json.word64 s.passes), ("watchdog_resets", Json.word64 s.watchdogResets),
    ("led", .str s.led), ("led_level", .bool s.ledLevel), ("registers", s.registers.toJson)]

end LedBench.Bench
