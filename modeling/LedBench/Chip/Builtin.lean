import LedBench.Chip.Check
import LedBench.Firmware.Target

namespace LedBench.Chip

open Firmware

/-- The 14-pin part: ports A and C with six pins each, latches and analog registers. The watchdog
field has two bits; a value of 01 leaves it to software and so off at first. -/
def pic16f1823 : Descriptor where
  name := "pic16f1823"
  dataMemory := "4KiB"
  instructionClockHz := 8000000
  configWord := { address := 0x8007 }
  watchdog := { mask := 0x0018, enabledWhen := [0x0010, 0x0018], periodUs := 2000000 }
  ports := [
    { id := "porta", width := 6, port := 0x00C, tris := 0x08C, lat := some 0x10C,
      ansel := some 0x18C, reset := { tris := 0x3F, ansel := 0x17 } },
    { id := "portc", width := 6, port := 0x00E, tris := 0x08E, lat := some 0x10E,
      ansel := some 0x18E, reset := { tris := 0x3F, ansel := 0x0F } }]

/-- The 18-pin part: ports A and B with eight pins each, without latch or analog registers. -/
def pic16f628a : Descriptor where
  name := "pic16f628a"
  dataMemory := "512B"
  instructionClockHz := 1000000
  configWord := { address := 0x2007 }
  watchdog := { mask := 0x0004, enabledWhen := [0x0004], periodUs := 18000 }
  ports := [
    { id := "porta", width := 8, port := 0x005, tris := 0x085, lat := none, ansel := none,
      reset := {} },
    { id := "portb", width := 8, port := 0x006, tris := 0x086, lat := none, ansel := none,
      reset := {} }]

def Descriptor.ofTarget : Target → Descriptor
  | .pic16f1823 => pic16f1823
  | .pic16f628a => pic16f628a

def builtinNames : List String := Target.all.map Target.name

/-- A name that no built-in descriptor has, in lower case. -/
structure UnknownChip where
  name : String
  deriving DecidableEq, Repr

def UnknownChip.message (e : UnknownChip) : String :=
  "Unknown chip '" ++ e.name ++ "'. Built-in chips: " ++ ", ".intercalate builtinNames

/-- The built-in descriptor of that name, whatever the case of its ASCII letters. -/
def Descriptor.builtin (name : String) : Except UnknownChip Descriptor :=
  match Target.namedIgnoringCase? name with
  | some t => .ok (.ofTarget t)
  | none => .error ⟨name.map Char.toLower⟩

end LedBench.Chip
