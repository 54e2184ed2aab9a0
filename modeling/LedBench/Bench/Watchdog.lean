import LedBench.Chip.Descriptor
import LedBench.Counter

namespace LedBench.Bench

/-- A watchdog: its layout and period, whether it runs, and the cycles since its last expiry. -/
structure Watchdog where
  layout : Chip.WatchdogLayout
  periodCycles : UInt64
  enabled : Bool := false
  count : UInt64 := 0
  deriving DecidableEq, Repr

namespace Watchdog

/-- Takes over a configuration word. A period of no cycles never runs. -/
def configure (w : Watchdog) (word : UInt16) : Watchdog :=
  { w with enabled := w.layout.isEnabled word && 0 < w.periodCycles, count := 0 }

def clear (w : Watchdog) : Watchdog := { w with count := 0 }

/-- Lets cycles go by; answers whether the timer expires. At most one expiry is told at a time, and
cycles past it count towards the next. None if the count is no longer a 64-bit number. -/
def tick? (w : Watchdog) (cycles : UInt64) : Option (Bool × Watchdog) :=
  if w.enabled then
    (Counter.add? w.count cycles).map fun count =>
      if w.periodCycles ≤ count then (true, { w with count := count - w.periodCycles })
      else (false, { w with count := count })
  else some (false, w)

end Watchdog

end LedBench.Bench
