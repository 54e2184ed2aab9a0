import LedBench.Script.Basic
import LedBench.Text.Listing

namespace LedBench

open Text

def StopReason.describe : StopReason → String
  | .maxPasses => "MaxPasses"
  | .maxCycles => "MaxCycles"
  | .memoryViolation => "MemoryViolation"

def CycleRange.describe (r : CycleRange) : String :=
  listing "CycleRange" [("min", toString r.min.toNat), ("max", toString r.max.toNat)]

/-- The kind of an assertion around the record that holds its one field. -/
def Assertion.describe : Assertion → String
  | .ledToggles least =>
    entry "LedToggles" "LedTogglesAssertion" "led_toggles" (toString least.toNat)
  | .ledAlternates expected =>
    entry "LedAlternates" "LedAlternatesAssertion" "led_alternates" (boolText expected)
  | .noWatchdogReset expected =>
    entry "NoWatchdogReset" "NoWatchdogResetAssertion" "no_watchdog_reset" (boolText expected)
  | .blinkInterval range =>
    entry "BlinkInterval" "BlinkIntervalAssertion" "blink_interval_cycles" range.describe
  | .stopReason expected =>
    entry "ExpectedStopReason" "StopReasonAssertion" "expected_stop_reason" expected.describe
where
  entry (kind record field value : String) : String :=
    kind ++ "(" ++ listing record [(field, value)] ++ ")"

end LedBench
