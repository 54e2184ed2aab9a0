import LedBench.Firmware.Blinker

namespace LedBench.Firmware

inductive Access where
  | read (addr : UInt16)
  | write (addr : UInt16) (value : UInt8)
  deriving DecidableEq, Repr

/-- Memory that holds what was last written, what was accessed, in order, and the no-ops done. -/
structure FlatMemory where
  cells : Array UInt8
  log : Array Access
  nops : Nat

namespace FlatMemory

/-- All 64 KiB with the same byte in every cell. -/
def filled (byte : UInt8) : FlatMemory := ⟨Array.replicate 0x10000 byte, #[], 0⟩

def get (m : FlatMemory) (addr : UInt16) : UInt8 := m.cells.getD addr.toNat 0

/-- Puts a byte into a cell without an access of the program. -/
def set (m : FlatMemory) (addr : UInt16) (value : UInt8) : FlatMemory :=
  { m with cells := m.cells.setIfInBounds addr.toNat value }

/-- The addresses and bytes of the cells in which `after` differs from `before`, by address. -/
def changes (before after : FlatMemory) : List (UInt16 × UInt8) :=
  (List.range 0x10000).filterMap fun i =>
    let addr := UInt16.ofNat i
    if before.get addr = after.get addr then none else some (addr, after.get addr)

instance : Hardware FlatMemory where
  read m addr := .ok (m.get addr, { m with log := m.log.push (.read addr) })
  write m addr value := .ok { m.set addr value with log := m.log.push (.write addr value) }
  nop m := .ok { m with nops := m.nops + 1 }

end FlatMemory

/-- A chip that stops at the no-op after the last one it has budget for. -/
structure Budgeted (σ : Type) where
  hardware : σ
  nopsLeft : Nat

instance {σ : Type} [Hardware σ] : Hardware (Budgeted σ) where
  read b addr :=
    match Hardware.read b.hardware addr with
    | .ok (value, s) => .ok (value, { b with hardware := s })
    | .error s => .error { b with hardware := s }
  write b addr value :=
    match Hardware.write b.hardware addr value with
    | .ok s => .ok { b with hardware := s }
    | .error s => .error { b with hardware := s }
  nop b :=
    match b.nopsLeft with
    | 0 => .error b
    | n + 1 =>
      match Hardware.nop b.hardware with
      | .ok s => .ok ⟨s, n⟩
      | .error s => .error ⟨s, n⟩

/-- The endless program on plain memory, up to the first no-op past the budget. A turn of the loop
asks for at least one no-op, so one turn more than the budget is never needed. -/
def FlatMemory.runEndless (t : Target) (budget : Nat) (m : FlatMemory) : FlatMemory :=
  let run : Except (Budgeted FlatMemory) (Blinker (Budgeted FlatMemory)) :=
    match Blinker.start t ⟨m, budget⟩ with
    | .ok b => b.passes t (budget + 1)
    | .error s => .error s
  match run with
  | .ok b => b.hardware.hardware
  | .error s => s.hardware

end LedBench.Firmware
