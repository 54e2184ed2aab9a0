import LedBench.Bench.DataMemory
import LedBench.Bench.Port
import LedBench.Bench.Watchdog
import LedBench.Chip.Check
import LedBench.Firmware.Hardware

namespace LedBench.Bench

open Chip Firmware

/-- All that a chip remembers, its counters apart. -/
structure ChipState where
  memory : DataMemory
  ports : List Port
  watchdog : Watchdog
  configWord : UInt16
  /-- The address of the first failed access that nobody has asked for yet. -/
  fault : Option UInt16 := none
  resetRequested : Bool := false
  deriving DecidableEq, Repr

/-- A chip with its counters and the journal of what it did. An access by the program takes one
cycle, a no-op a set number of them. -/
structure Bus where
  chip : ChipState
  cyclesPerNop : UInt64
  cycles : UInt64 := 0
  nops : UInt64 := 0
  journal : Journal := #[]
  deriving DecidableEq, Repr

namespace ChipState

/-- The state of a chip with so much data memory before anything is burned or run. -/
def powered (d : Descriptor) (size : UInt64) : ChipState where
  memory := .blank size
  ports := d.ports.map Port.powered
  watchdog := { layout := d.watchdog, periodCycles := d.periodCycles }
  configWord := d.configWord.erased

/-- The first port of that name. -/
def port? (s : ChipState) (id : String) : Option Port := s.ports.find? (·.layout.id = id)

/-- The byte at an address: of the first port that claims it, else of the register file. -/
def read? (s : ChipState) (addr : UInt16) : Option UInt8 :=
  match s.ports.find? (·.claims addr) with
  | some p => p.read? addr
  | none => s.memory.read? addr

/-- Every port after a reset, the watchdog's period started again and no reset pending. Memory
keeps its contents. -/
def reset (s : ChipState) (cause : ResetCause) : ChipState :=
  { s with ports := s.ports.map (·.reset cause), watchdog := s.watchdog.clear,
           resetRequested := false }

end ChipState

namespace Bus

/-- The largest block of memory that can be laid out. -/
def largestBlock : Nat := 0x7FFFFFFFFFFFFFFF

def ofDescriptor (d : Descriptor) : Except (Halt SimulationError) Bus :=
  match Size.parse d.dataMemory with
  | .error h => .error (h.map .config)
  | .ok size =>
    if largestBlock < size.toNat then .error .trap
    else .ok { chip := .powered d size, cyclesPerNop := d.cyclesPerDelayIteration }

def emit (b : Bus) (e : Event) : Bus := { b with journal := b.journal.push (.event e) }

def note (b : Bus) (n : Note) : Bus := { b with journal := b.journal.push (.note n) }

/-- Reports every pin of a port whose level is not what it was. -/
def reportPins (b : Bus) (before after : Port) : Bus :=
  (Port.pinChanges before after).foldl
    (fun b (bit, level) => b.emit (.pin after.layout.id bit level b.cycles)) b

/-- The byte at an address, read without an instruction. -/
def peek? (b : Bus) (addr : UInt16) : Option UInt8 := b.chip.read? addr

/-- Writes a byte without an instruction: to the first port that claims the address, which reports
the pins that change, else to the register file. None, and nothing written, where neither answers. -/
def poke? (b : Bus) (addr : UInt16) (value : UInt8) : Option Bus :=
  match b.chip.ports.findIdx? (·.claims addr) with
  | some i => do
    let before ← b.chip.ports[i]?
    let after ← before.write? addr value
    let b := { b with chip := { b.chip with ports := b.chip.ports.set i after } }
    let b := b.emit (.write addr value)
    let b := b.note (.registerWrite after.layout.id addr value b.cycles)
    pure (b.reportPins before after)
  | none => do
    let memory ← b.chip.memory.write? addr value
    pure ({ b with chip := { b.chip with memory := memory } }.emit (.write addr value))

/-- Lets cycles go by, for the counter and for the watchdog. An expiry asks for a reset. -/
def advance (b : Bus) (cycles : UInt64) : Except Bus Bus :=
  match Counter.add? b.cycles cycles with
  | none => .error b
  | some total =>
    match b.chip.watchdog.tick? cycles with
    | none => .error { b with cycles := total }
    | some (expired, watchdog) =>
      .ok { b with
        cycles := total
        chip := { b.chip with
          watchdog := watchdog
          resetRequested := b.chip.resetRequested || expired } }

/-- Keeps a failed access as the fault, unless an earlier one is still kept. -/
def latch (b : Bus) (addr : UInt16) : Bus :=
  match b.chip.fault with
  | some _ => b
  | none =>
    let b := b.note (.fault b.cycles addr)
    { b with chip := { b.chip with fault := some addr } }

/-- A read by the program: one cycle, and 0 where nothing answers. -/
def read (b : Bus) (addr : UInt16) : Except Bus (UInt8 × Bus) :=
  match b.advance 1 with
  | .error b => .error b
  | .ok b =>
    match b.peek? addr with
    | some value => .ok (value, b)
    | none => .ok (0, b.latch addr)

/-- A write by the program: one cycle, and no effect where nothing answers. -/
def write (b : Bus) (addr : UInt16) (value : UInt8) : Except Bus Bus :=
  match b.advance 1 with
  | .error b => .error b
  | .ok b =>
    match b.poke? addr value with
    | some b => .ok b
    | none => .ok (b.latch addr)

def nop (b : Bus) : Except Bus Bus :=
  match Counter.add? b.nops 1 with
  | none => .error b
  | some nops => { b with nops := nops }.advance b.cyclesPerNop

instance : Hardware Bus where
  read := read
  write := write
  nop := nop

/-- Burns the configuration word; of its bits only the watchdog's matter here. -/
def burn (b : Bus) (word : UInt16) : Bus :=
  { b with chip := { b.chip with configWord := word, watchdog := b.chip.watchdog.configure word } }

/-- Resets the chip and reports, port by port, the pins that change. -/
def reset (b : Bus) (cause : ResetCause) : Bus :=
  (b.chip.ports.zip (b.chip.reset cause).ports).foldl
    (fun b (before, after) => b.reportPins before after) { b with chip := b.chip.reset cause }

/-- The fault kept since the last call, which is forgotten. -/
def takeFault (b : Bus) : Option UInt16 × Bus :=
  (b.chip.fault, { b with chip := { b.chip with fault := none } })

/-- Whether a reset was asked for since the last call, which is forgotten. -/
def takeResetRequest (b : Bus) : Bool × Bus :=
  (b.chip.resetRequested, { b with chip := { b.chip with resetRequested := false } })

/-- The level of a pin outside the chip: high only when driven high as an output. A bit that a port
register does not have traps. -/
def pinLevel (b : Bus) (pin : PinRef) : Except (Halt SimulationError) Bool :=
  match b.chip.port? pin.port with
  | none => .error (.refused (.unknownPort pin.port))
  | some p => if pin.bit < 8 then .ok (p.pins &&& (1 <<< pin.bit) ≠ 0) else .error .trap

end Bus

end LedBench.Bench
