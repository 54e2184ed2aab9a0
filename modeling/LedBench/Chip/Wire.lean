import LedBench.Chip.Descriptor
import LedBench.Json.Source

namespace LedBench.Chip

open Wire

variable {ν : Type} [Source ν]

def ConfigLayout.form : RecordForm where
  fields := [⟨"address", false⟩, ⟨"erased", true⟩]

def ConfigLayout.read? (v : ν) : Option ConfigLayout :=
  match Source.members? ConfigLayout.form v with
  | some [address, erased] => do
    return { address := ← required address word16?, erased := ← defaulting 0x3FFF erased word16? }
  | _ => none

def ConfigLayout.toJson (c : ConfigLayout) : Json :=
  .obj [("address", Json.word16 c.address), ("erased", Json.word16 c.erased)]

def WatchdogLayout.form : RecordForm where
  fields := [⟨"mask", false⟩, ⟨"enabled_when", false⟩, ⟨"period_us", false⟩]

def WatchdogLayout.read? (v : ν) : Option WatchdogLayout :=
  match Source.members? WatchdogLayout.form v with
  | some [mask, enabledWhen, periodUs] => do
    return {
      mask := ← required mask word16?
      enabledWhen := ← required enabledWhen (list? word16?)
      periodUs := ← required periodUs word64? }
  | _ => none

def WatchdogLayout.toJson (w : WatchdogLayout) : Json :=
  .obj [("mask", Json.word16 w.mask), ("enabled_when", Json.list Json.word16 w.enabledWhen),
    ("period_us", Json.word64 w.periodUs)]

def PortReset.form : RecordForm where
  fields := [⟨"tris", true⟩, ⟨"ansel", true⟩]

def PortReset.read? (v : ν) : Option PortReset :=
  match Source.members? PortReset.form v with
  | some [tris, ansel] => do
    return { tris := ← defaulting 0xFF tris byte?, ansel := ← defaulting 0 ansel byte? }
  | _ => none

def PortReset.toJson (r : PortReset) : Json :=
  .obj [("tris", Json.byte r.tris), ("ansel", Json.byte r.ansel)]

def PortLayout.form : RecordForm where
  fields := [⟨"id", false⟩, ⟨"width", false⟩, ⟨"port", false⟩, ⟨"tris", false⟩, ⟨"lat", true⟩,
    ⟨"ansel", true⟩, ⟨"reset", true⟩]

def PortLayout.read? (v : ν) : Option PortLayout :=
  match Source.members? PortLayout.form v with
  | some [id, width, port, tris, lat, ansel, reset] => do
    return {
      id := ← required id Source.text?
      width := ← required width byte?
      port := ← required port word16?
      tris := ← required tris word16?
      lat := ← optional lat word16?
      ansel := ← optional ansel word16?
      reset := ← defaulting {} reset PortReset.read? }
  | _ => none

def PortLayout.toJson (p : PortLayout) : Json :=
  .obj [("id", .str p.id), ("width", Json.byte p.width), ("port", Json.word16 p.port),
    ("tris", Json.word16 p.tris), ("lat", Json.orNull Json.word16 p.lat),
    ("ansel", Json.orNull Json.word16 p.ansel), ("reset", p.reset.toJson)]

def Descriptor.form : RecordForm where
  fields := [⟨"name", false⟩, ⟨"data_memory", false⟩, ⟨"instruction_clock_hz", false⟩,
    ⟨"cycles_per_delay_iteration", true⟩, ⟨"config_word", false⟩, ⟨"watchdog", false⟩,
    ⟨"ports", false⟩]

/-- Reads a descriptor; it is not checked. -/
def Descriptor.read? (v : ν) : Option Descriptor :=
  match Source.members? Descriptor.form v with
  | some [name, dataMemory, clock, cycles, configWord, watchdog, ports] => do
    return {
      name := ← required name Source.text?
      dataMemory := ← required dataMemory Source.text?
      instructionClockHz := ← required clock word64?
      cyclesPerDelayIteration := ← defaulting 1 cycles word64?
      configWord := ← required configWord ConfigLayout.read?
      watchdog := ← required watchdog WatchdogLayout.read?
      ports := ← required ports (list? PortLayout.read?) }
  | _ => none

def Descriptor.toJson (d : Descriptor) : Json :=
  .obj [("name", .str d.name), ("data_memory", .str d.dataMemory),
    ("instruction_clock_hz", Json.word64 d.instructionClockHz),
    ("cycles_per_delay_iteration", Json.word64 d.cyclesPerDelayIteration),
    ("config_word", d.configWord.toJson), ("watchdog", d.watchdog.toJson),
    ("ports", Json.list PortLayout.toJson d.ports)]

end LedBench.Chip
