namespace LedBench.Chip

/-- Where the configuration word lies in program memory and what it holds before it is burned. -/
structure ConfigLayout where
  address : UInt16
  erased : UInt16 := 0x3FFF
  deriving DecidableEq, Repr

/-- The watchdog's bits of the configuration word and its period. -/
structure WatchdogLayout where
  mask : UInt16
  /-- The values of the masked word that leave the watchdog running. -/
  enabledWhen : List UInt16
  periodUs : UInt64
  deriving DecidableEq, Repr

def WatchdogLayout.isEnabled (w : WatchdogLayout) (word : UInt16) : Bool :=
  w.enabledWhen.contains (word &&& w.mask)

/-- What the direction and analog registers of a port hold after a reset. -/
structure PortReset where
  tris : UInt8 := 0xFF
  ansel : UInt8 := 0
  deriving DecidableEq, Repr

/-- A port: its name, its pins, the addresses of its registers and their reset values. -/
structure PortLayout where
  id : String
  width : UInt8
  port : UInt16
  tris : UInt16
  lat : Option UInt16
  ansel : Option UInt16
  reset : PortReset
  deriving DecidableEq, Repr

/-- The bits that exist on the port: all eight from a width of eight on. -/
def PortLayout.pinMask (p : PortLayout) : UInt8 :=
  if 8 ≤ p.width then 0xFF else (1 <<< p.width) - 1

/-- The addresses of the port's registers, in the order port, direction, latch, analog select. -/
def PortLayout.registers (p : PortLayout) : List UInt16 :=
  [p.port, p.tris] ++ p.lat.toList ++ p.ansel.toList

/-- A chip as its description gives it; nothing is checked yet. -/
structure Descriptor where
  name : String
  /-- The size as text, such as `4KiB`. -/
  dataMemory : String
  instructionClockHz : UInt64
  cyclesPerDelayIteration : UInt64 := 1
  configWord : ConfigLayout
  watchdog : WatchdogLayout
  ports : List PortLayout
  deriving DecidableEq, Repr

/-- The first port of that name. -/
def Descriptor.port? (d : Descriptor) (id : String) : Option PortLayout :=
  d.ports.find? (·.id = id)

/-- The watchdog period in instruction cycles; the product of period and clock stays at the largest
64-bit number when it would pass it. -/
def Descriptor.periodCycles (d : Descriptor) : UInt64 :=
  UInt64.ofNat
    (min (d.watchdog.periodUs.toNat * d.instructionClockHz.toNat) (UInt64.size - 1) / 1000000)

end LedBench.Chip
