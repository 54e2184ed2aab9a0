import LedBench.Bench.Trace

namespace LedBench

open Bench Firmware

structure LogLine where
  severity : Severity
  text : String
  deriving DecidableEq, Repr

namespace LogLine

/-- The line with its severity in front. -/
def render (l : LogLine) : String := l.severity.label ++ " " ++ l.text

/-- The lines at least as grave as `limit`. -/
def upTo (limit : Severity) (lines : List LogLine) : List LogLine :=
  lines.filter fun l => l.severity.rank ≤ limit.rank

end LogLine

namespace Bench

def Note.line : Note → LogLine
  | .registerWrite port addr value cycle =>
    ⟨.debug, port ++ " " ++ Text.hex 3 addr.toNat ++ " <- " ++ Text.hex 2 value.toNat ++
      " (cycle " ++ toString cycle.toNat ++ ")"⟩
  | .fault cycle addr =>
    ⟨.error, "Bus fault at cycle " ++ toString cycle.toNat ++ ": Memory access violation at " ++
      Text.hex 3 addr.toNat⟩
  | .misplacedLed led target =>
    ⟨.warning, "LED is wired to " ++ led.text ++ " but " ++ target.name ++ " drives bit " ++
      toString target.led.bit.toNat ++ " of " ++ Text.hex 3 target.led.port.toNat⟩
  | .burned target watchdog =>
    ⟨.info, "Configuration word " ++ Text.hex 4 target.config.value.toNat ++ " at " ++
      Text.hex 4 target.config.address.toNat ++
      " (watchdog " ++ (if watchdog then "on" else "off") ++ ")"⟩
  | .watchdogReset count cycle =>
    ⟨.info, "Watchdog reset #" ++ toString count.toNat ++ " at cycle " ++ toString cycle.toNat⟩
  | .running target passes =>
    ⟨.info, "Running " ++ target.name ++ " for " ++ toString passes.toNat ++ " passes..."⟩
  | .stepFailed pass cause =>
    ⟨.error, "Simulation error at pass " ++ toString pass.toNat ++ ": " ++ cause.message⟩
  | .finished passes cycles writes resets =>
    ⟨.info, toString passes.toNat ++ " passes, " ++ toString cycles.toNat ++ " cycles, " ++
      toString writes.toNat ++ " register writes, " ++ toString resets.toNat ++
      " watchdog resets"⟩

/-- The line by which the trace of a pin follows its changes. -/
def Trace.line? (pin : PinRef) : Event → Option LogLine
  | .pin port bit level cycle =>
    if port = pin.port ∧ bit = pin.bit then
      some ⟨.trace, pin.text ++ " -> " ++ (if level then "1" else "0") ++ " at cycle " ++
        toString cycle.toNat⟩
    else none
  | _ => none

/-- The lines for a list of entries, with those of the trace of `pin` if one is kept. -/
def Journal.lines (pin : Option PinRef) (entries : List Entry) : List LogLine :=
  entries.filterMap fun
    | .note n => some n.line
    | .event e => pin.bind (Trace.line? · e)

end Bench

end LedBench
