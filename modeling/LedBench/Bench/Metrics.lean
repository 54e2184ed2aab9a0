import LedBench.Bench.Event

namespace LedBench.Bench

/-- Counts over a run. They start again at 0 past the largest 64-bit number. -/
structure Metrics where
  passes : UInt64 := 0
  /-- The cycles spent in passes, initializers left out. -/
  cycles : UInt64 := 0
  registerWrites : UInt64 := 0
  pinChanges : UInt64 := 0
  watchdogResets : UInt64 := 0
  deriving DecidableEq, Repr

namespace Metrics

def observe (m : Metrics) : Event → Metrics
  | .passEnd cycles => { m with passes := m.passes + 1, cycles := m.cycles + cycles }
  | .write _ _ => { m with registerWrites := m.registerWrites + 1 }
  | .pin _ _ _ _ => { m with pinChanges := m.pinChanges + 1 }
  | .reset .watchdog => { m with watchdogResets := m.watchdogResets + 1 }
  | _ => m

def ofEvents (events : List Event) : Metrics := events.foldl observe {}

end Metrics

end LedBench.Bench
