import LedBench.Bench.Machine

namespace LedBench.Bench

open Chip Firmware

structure ConfigWordState where
  address : UInt16
  value : UInt16
  watchdogEnabled : Bool
  deriving DecidableEq, Repr

/-- Byte registers by name: one value per name, in ascending order of the names. -/
abbrev RegisterMap := List (String × UInt8)

/-- Gives a name a value, in the place of the one it had. -/
def RegisterMap.insert (name : String) (value : UInt8) : RegisterMap → RegisterMap
  | [] => [(name, value)]
  | (n, v) :: rest =>
    if name = n then (name, value) :: rest
    else if name < n then (name, value) :: (n, v) :: rest
    else (n, v) :: RegisterMap.insert name value rest

/-- The map of a list of values, of which the last one for a name counts. -/
def RegisterMap.ofList (xs : List (String × UInt8)) : RegisterMap :=
  xs.foldl (fun m (n, v) => m.insert n v) []

structure Snapshot where
  target : String
  configWord : ConfigWordState
  cycles : UInt64
  nops : UInt64
  passes : UInt64
  watchdogResets : UInt64
  led : String
  ledLevel : Bool
  registers : RegisterMap
  deriving DecidableEq, Repr

/-- The state of a machine. For every port it shows the registers of the first port of that
name. -/
def Snapshot.capture (m : Machine) : Except (Halt SimulationError) Snapshot := do
  let chip := m.bus.chip
  let registers := chip.ports.flatMap fun p => ((chip.port? p.layout.id).map Port.named).getD []
  let ledLevel ← m.ledLevel
  return {
    target := m.target.name
    configWord :=
      { address := m.target.config.address
        value := chip.configWord
        watchdogEnabled := chip.watchdog.enabled }
    cycles := m.bus.cycles
    nops := m.bus.nops
    passes := m.passes
    watchdogResets := m.watchdogResets
    led := m.led.text
    ledLevel
    registers := .ofList registers }

end LedBench.Bench
