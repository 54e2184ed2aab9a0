import LedBench.Chip.Descriptor
import LedBench.Chip.Size

namespace LedBench.Chip

/-- Data memory is addressed with 16 bits. -/
def addressSpace : Nat := 0x10000

inductive Defect where
  | stoppedClock (chip : String)
  | freeDelay (chip : String)
  | noPorts (chip : String)
  | periodOverflow (chip : String) (periodUs clockHz : UInt64)
  | size (cause : SizeError)
  | tooLarge (chip : String) (size : UInt64)
  | width (port : String) (width : UInt8)
  | outside (port : String) (addr : UInt16) (size : UInt64)
  | mappedTwice (addr : UInt16)
  deriving DecidableEq, Repr

def Defect.message : Defect → String
  | .stoppedClock c => "Chip '" ++ c ++ "': instruction_clock_hz must be non-zero"
  | .freeDelay c => "Chip '" ++ c ++ "': cycles_per_delay_iteration must be non-zero"
  | .noPorts c => "Chip '" ++ c ++ "' declares no ports"
  | .periodOverflow c p hz =>
    "Chip '" ++ c ++ "': watchdog period of " ++ toString p.toNat ++ " us overflows at " ++
      toString hz.toNat ++ " Hz"
  | .size e => e.message
  | .tooLarge c n =>
    "Chip '" ++ c ++ "': data memory of " ++ toString n.toNat ++
      " bytes exceeds the 16-bit address space"
  | .width p w => "Port '" ++ p ++ "' has invalid width " ++ toString w.toNat
  | .outside p a n =>
    "Port '" ++ p ++ "' register " ++ Text.hex 3 a.toNat ++ " lies outside data memory (" ++
      toString n.toNat ++ " bytes)"
  | .mappedTwice a => "Register " ++ Text.hex 3 a.toNat ++ " is mapped twice"

/-- Checks the registers of one port in order, each for its range and then against the addresses
seen before it; answers the addresses seen afterwards. -/
def checkRegisters (port : String) (size : UInt64) :
    List UInt16 → List UInt16 → Except Defect (List UInt16)
  | [], seen => .ok seen
  | a :: rest, seen =>
    if size.toNat ≤ a.toNat then .error (.outside port a size)
    else if a ∈ seen then .error (.mappedTwice a)
    else checkRegisters port size rest (a :: seen)

/-- Checks ports in order, each for its width and then its registers. -/
def checkPorts (size : UInt64) : List PortLayout → List UInt16 → Except Defect Unit
  | [], _ => .ok ()
  | p :: rest, seen =>
    if p.width = 0 ∨ 8 < p.width then .error (.width p.id p.width)
    else match checkRegisters p.id size p.registers seen with
      | .ok seen => checkPorts size rest seen
      | .error e => .error e

/-- Checks a descriptor before a bus is built from it. The first rule broken is the one reported. -/
def Descriptor.check (d : Descriptor) : Except (Halt Defect) Unit :=
  if d.instructionClockHz = 0 then .error (.refused (.stoppedClock d.name))
  else if d.cyclesPerDelayIteration = 0 then .error (.refused (.freeDelay d.name))
  else if d.ports.isEmpty then .error (.refused (.noPorts d.name))
  else if UInt64.size ≤ d.watchdog.periodUs.toNat * d.instructionClockHz.toNat then
    .error (.refused (.periodOverflow d.name d.watchdog.periodUs d.instructionClockHz))
  else match Size.parse d.dataMemory with
    | .error h => .error (h.map .size)
    | .ok size =>
      if addressSpace < size.toNat then .error (.refused (.tooLarge d.name size))
      else (checkPorts size d.ports []).mapError .refused

end LedBench.Chip
