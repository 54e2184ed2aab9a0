namespace LedBench.Firmware

/-- A port pin by the address of the port register and the bit within it. -/
structure Pin where
  port : UInt16
  bit : UInt8
  deriving DecidableEq, Repr

/-- The byte with only this pin's bit set; none for a bit that a byte does not have. -/
def Pin.mask? (p : Pin) : Option UInt8 :=
  if p.bit < 8 then some (1 <<< p.bit) else none

/-- A configuration word as burned, at a word address of program memory. -/
structure ConfigWord where
  address : UInt16
  value : UInt16
  deriving DecidableEq, Repr

inductive Target where
  | pic16f1823
  | pic16f628a
  deriving DecidableEq, Repr

/-- One instruction of an initializer. Setting bits reads the register and writes it back. -/
inductive Instr where
  | write (addr : UInt16) (value : UInt8)
  | setBits (addr : UInt16) (mask : UInt8)
  deriving DecidableEq, Repr

namespace Target

def all : List Target := [pic16f1823, pic16f628a]

/-- The part that the firmware is built for when no other is asked for. -/
def selected : Target := pic16f1823

def name : Target → String
  | pic16f1823 => "pic16f1823"
  | pic16f628a => "pic16f628a"

/-- The part of that name, in exactly this spelling. -/
def named? (name : String) : Option Target := all.find? (·.name = name)

/-- The part of that name, ASCII letters of either case standing for each other. -/
def namedIgnoringCase? (name : String) : Option Target := named? (name.map Char.toLower)

/-- The pin that the LED hangs on: bit 0 of port C, or of port B. -/
def led : Target → Pin
  | pic16f1823 => ⟨0x00E, 0⟩
  | pic16f628a => ⟨0x006, 0⟩

def ledMask : Target → UInt8
  | pic16f1823 => 0x01
  | pic16f628a => 0x01

def direction : Target → UInt16
  | pic16f1823 => 0x08E
  | pic16f628a => 0x086

/-- The register that takes the LED's port out of analog mode, where the part has one. -/
def digitalMode? : Target → Option UInt16
  | pic16f1823 => some 0x18E
  | pic16f628a => none

/-- What the program does first: every pin of the port digital, every pin an output, the LED on.
The direction is set before the first write to the port. -/
def startup (t : Target) : List Instr :=
  t.digitalMode?.toList.map (.write · 0x00) ++
    [.write t.direction 0x00, .setBits t.led.port t.ledMask]

theorem mask?_led (t : Target) : t.led.mask? = some t.ledMask := by
  cases t <;> rfl

end Target

end LedBench.Firmware
