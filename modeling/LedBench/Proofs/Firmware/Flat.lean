import LedBench.Firmware.FlatMemory

namespace LedBench.Firmware

/-- The write of an access, if it is one. -/
def Access.write? : Access → Option (UInt16 × UInt8)
  | .read _ => none
  | .write addr value => some (addr, value)

/-- A turn of the loop from its two parts. It is proved for any chip: on a given one a wait may
    be carried out, no-op by no-op, wherever two terms are compared. -/
theorem Blinker.pass_eq_ok {σ : Type} [Hardware σ] {t : Target} {p b : Blinker σ} {s : σ}
    (htoggle : p.toggle t = .ok b) (hdelay : Hardware.delay blinkDelay b.hardware = .ok s) :
    p.pass t = .ok ⟨s, b.level⟩ := by
  rw [Blinker.pass, htoggle]
  dsimp only
  rw [hdelay]

namespace FlatMemory

/-- The writes of the program so far, in order. -/
def writes (m : FlatMemory) : List (UInt16 × UInt8) := m.log.toList.filterMap Access.write?

def store (addr : UInt16) (value : UInt8) (m : FlatMemory) : FlatMemory :=
  { m.set addr value with log := m.log.push (.write addr value) }

/-- Memory after a register is read, changed and written back. -/
def modify (addr : UInt16) (f : UInt8 → UInt8) (m : FlatMemory) : FlatMemory :=
  { m with log := m.log.push (.read addr) }.store addr (f (m.get addr))

def idle (count : Nat) (m : FlatMemory) : FlatMemory := { m with nops := m.nops + count }

def exec (m : FlatMemory) : Instr → FlatMemory
  | .write addr value => m.store addr value
  | .setBits addr mask => m.modify addr (· ||| mask)

theorem modify_eq (m : FlatMemory) (addr : UInt16) (f : UInt8 → UInt8) :
    Hardware.modify m addr f = .ok (m.modify addr f) := rfl

theorem delay_eq (m : FlatMemory) (count : Nat) : Hardware.delay count m = .ok (m.idle count) := by
  induction count generalizing m with
  | zero => rfl
  | succ count ih =>
    have hnop : Hardware.nop m = .ok (m.idle 1) := rfl
    rw [Hardware.delay, hnop]
    dsimp only
    rw [ih, idle, idle, idle, Nat.add_right_comm, Nat.add_assoc]

theorem run_eq (m : FlatMemory) (i : Instr) : i.run m = .ok (m.exec i) := by
  cases i <;> rfl

theorem runAll_eq (m : FlatMemory) (instrs : List Instr) :
    runAll instrs m = .ok (instrs.foldl exec m) := by
  induction instrs generalizing m with
  | nil => rfl
  | cons i rest ih =>
    rw [runAll, run_eq]
    exact ih (m.exec i)

theorem start_eq (m : FlatMemory) (t : Target) :
    Blinker.start t m = .ok ⟨t.startup.foldl exec m, true⟩ := by
  rw [Blinker.start, runAll_eq]

theorem toggle_eq (p : Blinker FlatMemory) (t : Target) :
    p.toggle t = .ok ⟨p.hardware.modify t.led.port (· ^^^ t.ledMask), !p.level⟩ := by
  rw [Blinker.toggle, Hardware.toggleBits, modify_eq]

theorem pass_eq (p : Blinker FlatMemory) (t : Target) :
    p.pass t =
      .ok ⟨(p.hardware.modify t.led.port (· ^^^ t.ledMask)).idle blinkDelay, !p.level⟩ :=
  Blinker.pass_eq_ok (toggle_eq p t) (delay_eq _ blinkDelay)

@[simp] theorem writes_store (m : FlatMemory) (addr : UInt16) (value : UInt8) :
    (m.store addr value).writes = m.writes ++ [(addr, value)] := by
  simp [writes, store, Access.write?]

@[simp] theorem writes_modify (m : FlatMemory) (addr : UInt16) (f : UInt8 → UInt8) :
    (m.modify addr f).writes = m.writes ++ [(addr, f (m.get addr))] := by
  simp [writes, modify, store]
  rfl

@[simp] theorem writes_idle (m : FlatMemory) (count : Nat) :
    (m.idle count).writes = m.writes := rfl

@[simp] theorem get_idle (m : FlatMemory) (count : Nat) (addr : UInt16) :
    (m.idle count).get addr = m.get addr := rfl

/-- Memory with a cell for every address. -/
def Full (m : FlatMemory) : Prop := m.cells.size = 0x10000

theorem full_filled (byte : UInt8) : (filled byte).Full := by
  simp [Full, filled]

theorem get_filled (byte : UInt8) (addr : UInt16) : (filled byte).get addr = byte := by
  have : addr.toNat < 65536 := addr.toNat_lt
  simp [filled, get, this]

theorem Full.store {m : FlatMemory} (h : m.Full) (addr : UInt16) (value : UInt8) :
    (m.store addr value).Full := by
  simpa [Full, FlatMemory.store, FlatMemory.set] using h

theorem Full.modify {m : FlatMemory} (h : m.Full) (addr : UInt16) (f : UInt8 → UInt8) :
    (m.modify addr f).Full :=
  Full.store (m := { m with log := m.log.push (.read addr) }) h addr (f (m.get addr))

theorem Full.idle {m : FlatMemory} (h : m.Full) (count : Nat) : (m.idle count).Full := h

/-- A write changes the cell at its address and no other. -/
theorem Full.get_store {m : FlatMemory} (h : m.Full) (addr other : UInt16) (value : UInt8) :
    (m.store addr value).get other = if other = addr then value else m.get other := by
  have hlt : addr.toNat < m.cells.size := by
    rw [h]
    exact addr.toNat_lt
  by_cases heq : other = addr
  · subst heq
    simp [FlatMemory.store, FlatMemory.set, get, hlt]
  · have hne : addr.toNat ≠ other.toNat := fun hnat => heq (UInt16.toNat_inj.mp hnat.symm)
    simp [FlatMemory.store, FlatMemory.set, get, heq, hne]

theorem Full.get_modify {m : FlatMemory} (h : m.Full) (addr other : UInt16) (f : UInt8 → UInt8) :
    (m.modify addr f).get other = if other = addr then f (m.get addr) else m.get other :=
  Full.get_store (m := { m with log := m.log.push (.read addr) }) h addr other (f (m.get addr))

end FlatMemory

end LedBench.Firmware
