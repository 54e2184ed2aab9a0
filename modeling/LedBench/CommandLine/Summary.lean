import LedBench.Bench.Log
import LedBench.Number.Fixed
import LedBench.Run.Simulation
import LedBench.Run.Verdict
import LedBench.Script.Describe

namespace LedBench.CommandLine

open Bench Chip Firmware Run

/-- The mean of intervals, 0 if there are none; no mean if their sum is no 64-bit number. -/
def meanInterval? (intervals : List UInt64) : Option Float :=
  if intervals.isEmpty then some 0
  else (Counter.sum? intervals).map fun sum => sum.toFloat / Float.ofNat intervals.length

/-- The mean interval in cycles and in milliseconds. -/
def intervalText (mean : Float) (clockHz : UInt64) : String :=
  let cycleUs := 1000000 / clockHz.toFloat
  Number.fixed 0 mean ++ " cycles (~" ++ Number.fixed 1 (mean * cycleUs / 1000) ++ " ms at " ++
    toString clockHz.toNat ++ " Hz)"

def summary (target : Target) (chip : Descriptor) (r : Report) (mean : Float) : List String := [
  "target:          " ++ target.name,
  "passes:          " ++ toString r.passes.toNat,
  "cycles:          " ++ toString r.cycles.toNat,
  "toggles:         " ++ toString r.toggles.toNat,
  "blink interval:  " ++ intervalText mean chip.instructionClockHz,
  "watchdog resets: " ++ toString r.watchdogResets.toNat,
  "stop reason:     " ++ r.stopReason.describe]

def changeLine (e : PinEvent) : LogLine :=
  ⟨.info, "LED " ++ (if e.level then "on " else "off") ++ " at cycle " ++ toString e.cycle.toNat⟩

def judgementLine (j : Judgement) : LogLine :=
  ⟨.info, (if j.passed then "PASS " else "FAIL ") ++ j.assertion.describe⟩

def configWordText (t : Target) : String :=
  t.name ++ ": config word " ++ Text.hex 4 t.config.value.toNat ++ " at " ++
    Text.hex 4 t.config.address.toNat ++ " (watchdog " ++
    (if t.watchdogEnabled t.config.value then "on" else "off") ++ ")"

end LedBench.CommandLine
