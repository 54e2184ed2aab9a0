import LedBench.Firmware.Hardware

namespace LedBench.Firmware

/-- No-op instructions between two toggles. -/
def blinkDelay : Nat := 3000

/-- The running program: the chip it runs on and the LED level it last drove. -/
structure Blinker (σ : Type) where
  hardware : σ
  level : Bool

namespace Blinker

variable {σ : Type} [Hardware σ]

/-- Runs the initializer on a chip. The LED is on afterwards. -/
def start (t : Target) (s : σ) : Except σ (Blinker σ) :=
  match runAll t.startup s with
  | .ok s => .ok ⟨s, true⟩
  | .error s => .error s

/-- Enters the program again from the top, as a chip does after a reset. -/
def restart (t : Target) (b : Blinker σ) : Except σ (Blinker σ) := start t b.hardware

def toggle (t : Target) (b : Blinker σ) : Except σ (Blinker σ) :=
  match Hardware.toggleBits b.hardware t.led.port t.ledMask with
  | .ok s => .ok ⟨s, !b.level⟩
  | .error s => .error s

/-- One turn of the loop: invert the LED, then wait. -/
def pass (t : Target) (b : Blinker σ) : Except σ (Blinker σ) :=
  match b.toggle t with
  | .ok b =>
    match Hardware.delay blinkDelay b.hardware with
    | .ok s => .ok ⟨s, b.level⟩
    | .error s => .error s
  | .error s => .error s

/-- At most `count` turns of the loop. -/
def passes (t : Target) : Nat → Blinker σ → Except σ (Blinker σ)
  | 0, b => .ok b
  | count + 1, b =>
    match b.pass t with
    | .ok b => passes t count b
    | .error s => .error s

end Blinker

end LedBench.Firmware
