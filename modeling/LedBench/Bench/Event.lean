import LedBench.Bench.SimulationError
import LedBench.PinRef

namespace LedBench.Bench

open Firmware

/-- Why a chip starts over. -/
inductive ResetCause where
  | powerOn
  | watchdog
  deriving DecidableEq, Repr

/-- What a watcher of a run is told. -/
inductive Event where
  | start
  | stop
  | passStart (pass : UInt64)
  /-- `cycles` is what the pass took. -/
  | passEnd (cycles : UInt64)
  | write (addr : UInt16) (value : UInt8)
  | pin (port : String) (bit : UInt8) (level : Bool) (cycle : UInt64)
  /-- Sent before any register returns to its reset value. -/
  | reset (cause : ResetCause)
  deriving DecidableEq, Repr

/-- How much a line of the log matters, the gravest first. -/
inductive Severity where
  | error
  | warning
  | info
  | debug
  | trace
  deriving DecidableEq, Repr

namespace Severity

def rank : Severity → Nat
  | error => 0
  | warning => 1
  | info => 2
  | debug => 3
  | trace => 4

/-- The word in front of a line of the log. -/
def label : Severity → String
  | error => "ERROR"
  | warning => "WARN"
  | info => "INFO"
  | debug => "DEBUG"
  | trace => "TRACE"

end Severity

/-- What a chip and those who run it note in the log. -/
inductive Note where
  | registerWrite (port : String) (addr : UInt16) (value : UInt8) (cycle : UInt64)
  | fault (cycle : UInt64) (addr : UInt16)
  | misplacedLed (led : PinRef) (target : Target)
  | burned (target : Target) (watchdog : Bool)
  | watchdogReset (count cycle : UInt64)
  | running (target : Target) (passes : UInt64)
  | stepFailed (pass : UInt64) (cause : SimulationError)
  | finished (passes cycles registerWrites watchdogResets : UInt64)
  deriving DecidableEq, Repr

/-- An entry of the journal. -/
inductive Entry where
  | event (event : Event)
  | note (note : Note)
  deriving DecidableEq, Repr

/-- Entries in the order in which they were made. -/
abbrev Journal := Array Entry

def Journal.events (j : Journal) : List Event :=
  j.toList.filterMap fun
    | .event e => some e
    | .note _ => none

end LedBench.Bench
