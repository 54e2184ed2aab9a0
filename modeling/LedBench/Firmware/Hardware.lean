import LedBench.Firmware.Target

namespace LedBench.Firmware

/-- Access to the registers of a chip whose state is `σ`. An access cannot fail for the program,
but the chip may stop running in the middle of one; it is then left in the state of that moment. -/
class Hardware (σ : Type) where
  read : σ → UInt16 → Except σ (UInt8 × σ)
  write : σ → UInt16 → UInt8 → Except σ σ
  nop : σ → Except σ σ

namespace Hardware

variable {σ : Type} [Hardware σ]

/-- Reads a register, changes its value and writes it back. -/
def modify (s : σ) (addr : UInt16) (f : UInt8 → UInt8) : Except σ σ :=
  match read s addr with
  | .ok (value, s) => write s addr (f value)
  | .error s => .error s

/-- Sets the bits of `mask` in a register. -/
def setBits (s : σ) (addr : UInt16) (mask : UInt8) : Except σ σ := modify s addr (· ||| mask)

/-- Inverts the bits of `mask` in a register. -/
def toggleBits (s : σ) (addr : UInt16) (mask : UInt8) : Except σ σ := modify s addr (· ^^^ mask)

/-- Waits for `count` instructions that do nothing. -/
def delay : Nat → σ → Except σ σ
  | 0, s => .ok s
  | count + 1, s =>
    match nop s with
    | .ok s => delay count s
    | .error s => .error s

end Hardware

def Instr.run {σ : Type} [Hardware σ] (s : σ) : Instr → Except σ σ
  | .write addr value => Hardware.write s addr value
  | .setBits addr mask => Hardware.setBits s addr mask

def runAll {σ : Type} [Hardware σ] : List Instr → σ → Except σ σ
  | [], s => .ok s
  | i :: rest, s =>
    match i.run s with
    | .ok s => runAll rest s
    | .error s => .error s

end LedBench.Firmware
