import LedBench.Bench.Metrics
import LedBench.Bench.Snapshot
import LedBench.Bench.Trace
import LedBench.Script.Basic

namespace LedBench.Run

open Bench Chip Firmware

structure Setup where
  chip : Descriptor
  /-- Where the LED is wired, if anything says so. -/
  led : Option PinRef
  deriving DecidableEq, Repr

inductive RunError where
  | simulation (cause : SimulationError)
  /-- No LED is declared, and no port lies where the firmware drives one. -/
  | noLedPort (chip : String) (target : Target)
  deriving DecidableEq, Repr

def RunError.message : RunError → String
  | .simulation e => e.message
  | .noLedPort chip target =>
    "Chip '" ++ chip ++ "' has no port at " ++ Text.hex 3 target.led.port.toNat ++ " for the LED"

structure Report where
  stopReason : StopReason
  fault : Option SimulationError
  passes : UInt64
  cycles : UInt64
  watchdogResets : UInt64
  toggles : UInt64
  alternates : Bool
  intervals : List UInt64
  events : List PinEvent
  snapshot : Snapshot
  deriving DecidableEq, Repr

/-- The part of a report that assertions are judged by. -/
def Report.observed (r : Report) : Observed where
  stopReason := r.stopReason
  watchdogResets := r.watchdogResets
  toggles := r.toggles
  alternates := r.alternates
  intervals := r.intervals

/-- A run: its journal, and the report or what prevented it. -/
structure Outcome where
  journal : Journal
  result : Except (Halt RunError) Report

/-- The pin that the firmware drives, by the descriptor's name of its port. -/
def firmwareLed? (target : Target) (d : Descriptor) : Option PinRef :=
  (d.ports.find? (·.port = target.led.port)).map fun p => ⟨p.id, target.led.bit⟩

structure Ending where
  machine : Machine
  reason : StopReason
  fault : Option SimulationError := none

def spent (maxCycles : Option UInt64) (m : Machine) : Bool :=
  match maxCycles with
  | some limit => limit ≤ m.bus.cycles
  | none => false

/-- Makes so many passes, or fewer if the cycle limit is met at the start of one. -/
def runPasses (maxCycles : Option UInt64) : Nat → Machine → Except Machine Ending
  | 0, m => .ok ⟨m, .maxPasses, none⟩
  | passes + 1, m =>
    if spent maxCycles m then .ok ⟨m, .maxCycles, none⟩
    else match m.step with
      | .ok m => runPasses maxCycles passes m
      | .error ⟨.trap, m⟩ => .error m
      | .error ⟨.refused e, m⟩ =>
        .ok ⟨m.withBus (m.bus.note (.stepFailed m.passes e)), .memoryViolation, some e⟩

def Ending.report (e : Ending) : Except (Halt RunError) Report := do
  let m := e.machine
  let trace := Trace.ofEvents m.led m.bus.journal.events
  let some intervals := trace.intervals? | .error .trap
  let snapshot ← (Snapshot.capture m).mapError (·.map .simulation)
  return {
    stopReason := e.reason
    fault := e.fault
    passes := m.passes
    cycles := m.bus.cycles
    watchdogResets := m.watchdogResets
    toggles := UInt64.ofNat trace.toggles
    alternates := trace.alternates
    intervals
    events := trace.events.toList
    snapshot }

/-- Runs a booted machine to its limits and tells the watchers that it is over. -/
def fromBoot (m : Machine) (maxPasses : UInt64) (maxCycles : Option UInt64) : Outcome :=
  let m := m.withBus (m.bus.note (.running m.target maxPasses))
  match runPasses maxCycles maxPasses.toNat m with
  | .error m => ⟨m.bus.journal, .error .trap⟩
  | .ok ending =>
    let m := ending.machine.stop
    let metrics := Metrics.ofEvents m.bus.journal.events
    let m := m.withBus
      (m.bus.note (.finished metrics.passes m.bus.cycles metrics.registerWrites
        metrics.watchdogResets))
    ⟨m.bus.journal, { ending with machine := m }.report⟩

/-- Builds the machine of a setup and runs it. Without a declared LED the run watches the pin that
the firmware drives. -/
def simulate (target : Target) (setup : Setup) (maxPasses : UInt64) (maxCycles : Option UInt64) :
    Outcome :=
  match setup.led <|> firmwareLed? target setup.chip with
  | none => ⟨#[], .error (.refused (.noLedPort setup.chip.name target))⟩
  | some led =>
    match Bus.ofDescriptor setup.chip with
    | .error h => ⟨#[], .error (h.map .simulation)⟩
    | .ok bus =>
      match Machine.boot target setup.chip led bus with
      | .error ⟨h, bus⟩ => ⟨bus.journal, .error (h.map .simulation)⟩
      | .ok m => fromBoot m maxPasses maxCycles

end LedBench.Run
