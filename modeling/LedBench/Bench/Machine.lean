import LedBench.Bench.Bus
import LedBench.Firmware.Blinker
import LedBench.Firmware.ConfigBits

namespace LedBench.Bench

open Chip Firmware

structure Machine where
  target : Target
  /-- The pin to which the LED is wired. -/
  led : PinRef
  program : Blinker Bus
  passes : UInt64 := 0
  watchdogResets : UInt64 := 0

namespace Machine

def bus (m : Machine) : Bus := m.program.hardware

def withBus (m : Machine) (b : Bus) : Machine := { m with program := ⟨b, m.program.level⟩ }

/-- Lets a program go on unless one of its accesses failed, which ends the operation with that
fault. -/
def settle {σ : Type} (wrap : Blinker Bus → σ) (p : Blinker Bus) :
    Except (Stopped SimulationError σ) (Blinker Bus) :=
  let (fault, bus) := p.hardware.takeFault
  let p := { p with hardware := bus }
  match fault with
  | none => .ok p
  | some addr => .error ⟨.refused (.memoryViolation addr), wrap p⟩

/-- Checks that the firmware belongs on the chip, burns its configuration word, powers the chip up
and runs the initializer. -/
def boot (target : Target) (d : Descriptor) (led : PinRef) (bus : Bus) :
    Except (Stopped SimulationError Bus) Machine :=
  if d.name.map Char.toLower ≠ target.name then
    .error ⟨.refused (.chipMismatch target d.name), bus⟩
  else if d.configWord.address ≠ target.config.address then
    .error ⟨.refused (.configAddress target.config.address d.configWord.address), bus⟩
  else match d.port? led.port with
    | none => .error ⟨.refused (.unknownPort led.port), bus⟩
    | some port =>
      let bus :=
        if port.port = target.led.port ∧ led.bit = target.led.bit then bus
        else bus.note (.misplacedLed led target)
      let bus := bus.burn target.config.value
      let bus := bus.note (.burned target bus.chip.watchdog.enabled)
      let bus := (bus.emit .start).emit (.reset .powerOn)
      match Blinker.start target bus with
      | .error bus => .error ⟨.trap, bus⟩
      | .ok program => do
        let program ← settle Blinker.hardware program
        pure { target, led, program }

/-- Resets the chip and enters the program again. -/
def startOver (m : Machine) (cause : ResetCause) :
    Except (Stopped SimulationError Machine) Machine :=
  let bus := (m.bus.emit (.reset cause)).reset cause
  match (m.withBus bus).program.restart m.target with
  | .error bus => .error ⟨.trap, m.withBus bus⟩
  | .ok program => do
    let program ← settle (fun p => { m with program := p }) program
    pure { m with program }

def reset (m : Machine) : Except (Stopped SimulationError Machine) Machine :=
  m.startOver .powerOn

/-- One turn of the loop, and the watchdog's reset if it ran out meanwhile: from the timeout to the
end of the turn the core is held in reset. -/
def step (m : Machine) : Except (Stopped SimulationError Machine) Machine :=
  let first := m.bus.cycles
  let m := m.withBus (m.bus.emit (.passStart m.passes))
  match m.program.pass m.target with
  | .error bus => .error ⟨.trap, m.withBus bus⟩
  | .ok program => do
    let program ← settle (fun p => { m with program := p }) program
    let m := { m with program }
    match Counter.add? m.passes 1, Counter.sub? m.bus.cycles first with
    | some passes, some used =>
      let m := { m.withBus (m.bus.emit (.passEnd used)) with passes }
      let (requested, bus) := m.bus.takeResetRequest
      let m := m.withBus bus
      if requested then
        match Counter.add? m.watchdogResets 1 with
        | none => .error ⟨.trap, m⟩
        | some count =>
          let m := { m with watchdogResets := count }
          let m := m.withBus (m.bus.note (.watchdogReset count m.bus.cycles))
          m.startOver .watchdog
      else pure m
    | _, _ => .error ⟨.trap, m⟩

/-- Tells the watchers that the run is over. -/
def stop (m : Machine) : Machine := m.withBus (m.bus.emit .stop)

/-- The level of the LED pin outside the chip. -/
def ledLevel (m : Machine) : Except (Halt SimulationError) Bool := m.bus.pinLevel m.led

end Machine

end LedBench.Bench
