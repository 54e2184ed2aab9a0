import LedBench.Chip.Size
import LedBench.Firmware.ConfigBits

namespace LedBench.Bench

open Chip Firmware

/-- What makes a simulation impossible or ends it. -/
inductive SimulationError where
  /-- Nothing answers at the address. -/
  | memoryViolation (addr : UInt16)
  /-- The descriptor gives no memory size. -/
  | config (cause : SizeError)
  | chipMismatch (target : Target) (chip : String)
  | configAddress (firmware chip : UInt16)
  | unknownPort (id : String)
  deriving DecidableEq, Repr

def SimulationError.message : SimulationError → String
  | .memoryViolation a => "Memory access violation at " ++ Text.hex 3 a.toNat
  | .config e => "Invalid chip descriptor: " ++ e.message
  | .chipMismatch t c => "Firmware built for " ++ t.name ++ " cannot run on " ++ c
  | .configAddress f c =>
    "Firmware configuration word at " ++ Text.hex 4 f.toNat ++ ", chip expects " ++
      Text.hex 4 c.toNat
  | .unknownPort p => "Unknown port '" ++ p ++ "'"

end LedBench.Bench
