import LedBench.Proofs.Firmware.Flat

namespace LedBench.Firmware

/-- What can be done with the running program: invert the LED, do so and wait, or start again. -/
inductive Move where
  | toggle
  | pass
  | restart
  deriving DecidableEq, Repr

/-- The level to which the program has driven the LED after a move. -/
def Move.level (before : Bool) : Move → Bool
  | .toggle | .pass => !before
  | .restart => true

namespace Blinker

variable {σ : Type} [Hardware σ]

def move (t : Target) (p : Blinker σ) : Move → Except σ (Blinker σ)
  | .toggle => p.toggle t
  | .pass => p.pass t
  | .restart => p.restart t

/-- Makes moves in order, up to the first in which the chip stops. -/
def moves (t : Target) : Blinker σ → List Move → Except σ (Blinker σ)
  | p, [] => .ok p
  | p, x :: rest =>
    match p.move t x with
    | .ok p => p.moves t rest
    | .error s => .error s

end Blinker

namespace Target

/-- A byte with the LED's bit put to a level and its other bits as they were. -/
def lit (t : Target) (byte : UInt8) (level : Bool) : UInt8 :=
  if level then byte ||| t.ledMask else byte &&& ~~~ t.ledMask

/-- The accesses of the initializer where the port register can hold these bits beside the LED's:
    the port is made digital, where that is needed, and an output before it is touched. -/
def startupLog (t : Target) (byte : UInt8) : List Access :=
  t.digitalMode?.toList.map (.write · 0) ++
    [.write t.direction 0, .read t.led.port, .write t.led.port (t.lit byte true)]

/-- The accesses of a move: those of the initializer, or a read and a write of the port register. -/
def moveLog (t : Target) (byte : UInt8) (level : Bool) : Move → List Access
  | .toggle | .pass => [.read t.led.port, .write t.led.port (t.lit byte !level)]
  | .restart => t.startupLog byte

/-- The accesses of moves in order, the LED being at such a level before them. -/
def movesLog (t : Target) (byte : UInt8) : Bool → List Move → List Access
  | _, [] => []
  | level, x :: rest => t.moveLog byte level x ++ t.movesLog byte (x.level level) rest

variable (t : Target) (byte : UInt8) (level : Bool)

theorem getElem_lit {i : Nat} (hi : i < 8) :
    (t.lit byte level).toBitVec[i] =
      if t.ledMask.toBitVec[i] then level else byte.toBitVec[i] := by
  cases hmask : t.ledMask.toBitVec[i] <;> cases level <;> simp [lit, hmask]

/-- Setting the LED's bit lights it, whatever it was. -/
theorem lit_or : t.lit byte level ||| t.ledMask = t.lit byte true := by
  rw [← UInt8.toBitVec_inj]
  ext i hi
  rw [UInt8.toBitVec_or, BitVec.getElem_or, getElem_lit, getElem_lit]
  cases t.ledMask.toBitVec[i] <;> simp

theorem lit_xor : t.lit byte level ^^^ t.ledMask = t.lit byte !level := by
  rw [← UInt8.toBitVec_inj]
  ext i hi
  rw [UInt8.toBitVec_xor, BitVec.getElem_xor, getElem_lit, getElem_lit]
  cases t.ledMask.toBitVec[i] <;> simp

theorem lit_and_not : t.lit byte level &&& ~~~ t.ledMask = byte &&& ~~~ t.ledMask := by
  rw [← UInt8.toBitVec_inj]
  ext i hi
  rw [UInt8.toBitVec_and, UInt8.toBitVec_and, BitVec.getElem_and, BitVec.getElem_and, getElem_lit,
    UInt8.toBitVec_not, BitVec.getElem_not]
  cases t.ledMask.toBitVec[i] <;> simp

theorem lit_and : t.lit byte level &&& t.ledMask = if level then t.ledMask else 0 := by
  rw [← UInt8.toBitVec_inj]
  ext i hi
  rw [UInt8.toBitVec_and, BitVec.getElem_and, getElem_lit]
  cases hmask : t.ledMask.toBitVec[i] <;> cases level <;> simp [hmask]

/-- The port register is neither of those that are only written. -/
theorem registers_ne : t.led.port ≠ t.direction ∧ t.digitalMode? ≠ some t.led.port := by
  cases t <;> decide

/-- What the program makes of the byte at an address, the LED being at such a level. -/
def image (t : Target) (m : FlatMemory) (level : Bool) (addr : UInt16) : UInt8 :=
  if addr = t.led.port then t.lit (m.get addr) level
  else if addr = t.direction ∨ t.digitalMode? = some addr then 0
  else m.get addr

end Target

namespace FlatMemory

@[simp] theorem log_store (m : FlatMemory) (addr : UInt16) (value : UInt8) :
    (m.store addr value).log.toList = m.log.toList ++ [.write addr value] := by
  simp [store]

@[simp] theorem log_modify (m : FlatMemory) (addr : UInt16) (f : UInt8 → UInt8) :
    (m.modify addr f).log.toList =
      m.log.toList ++ [.read addr, .write addr (f (m.get addr))] := by
  simp [modify]

@[simp] theorem nops_store (m : FlatMemory) (addr : UInt16) (value : UInt8) :
    (m.store addr value).nops = m.nops := rfl

@[simp] theorem nops_modify (m : FlatMemory) (addr : UInt16) (f : UInt8 → UInt8) :
    (m.modify addr f).nops = m.nops := rfl

/-- Memory after the initializer has taken the port out of analog mode, where there is one. -/
def digitize (t : Target) (m : FlatMemory) : FlatMemory :=
  t.digitalMode?.elim m fun addr => m.store addr 0

/-- Memory after the rest of the initializer: the port is made an output and the LED lit. -/
def enable (t : Target) (m : FlatMemory) : FlatMemory :=
  (m.store t.direction 0).modify t.led.port (· ||| t.ledMask)

theorem foldl_exec_startup (m : FlatMemory) (t : Target) :
    t.startup.foldl exec m = (m.digitize t).enable t := by
  cases t <;> simp [Target.startup, Target.digitalMode?, digitize, enable, exec]

theorem Full.digitize {m : FlatMemory} (h : m.Full) (t : Target) : (m.digitize t).Full := by
  unfold FlatMemory.digitize
  cases t.digitalMode? with
  | none => exact h
  | some addr => exact h.store addr 0

theorem Full.get_digitize {m : FlatMemory} (h : m.Full) (t : Target) (addr : UInt16) :
    (m.digitize t).get addr = if t.digitalMode? = some addr then 0 else m.get addr := by
  unfold FlatMemory.digitize
  cases t.digitalMode? with
  | none => simp
  | some digital => simp [h.get_store, eq_comm]

theorem log_digitize (m : FlatMemory) (t : Target) :
    (m.digitize t).log.toList = m.log.toList ++ t.digitalMode?.toList.map (.write · 0) := by
  unfold digitize
  cases t.digitalMode? <;> simp

theorem nops_digitize (m : FlatMemory) (t : Target) : (m.digitize t).nops = m.nops := by
  unfold digitize
  cases t.digitalMode? <;> simp

theorem Full.get_enable {m : FlatMemory} (h : m.Full) (t : Target) (addr : UInt16) :
    (m.enable t).get addr =
      if addr = t.led.port then m.get addr ||| t.ledMask
      else if addr = t.direction then 0
      else m.get addr := by
  rw [enable, (h.store _ _).get_modify, h.get_store, h.get_store, if_neg t.registers_ne.1]
  by_cases haddr : addr = t.led.port
  · rw [if_pos haddr, if_pos haddr, haddr]
  · rw [if_neg haddr, if_neg haddr]

/-- Memory as the program leaves it that has taken it over as `m`: its log has these entries more
    and so many no-ops are done. -/
structure Driven (n : FlatMemory) (t : Target) (m : FlatMemory) (level : Bool) (log : List Access)
    (nops : Nat) : Prop where
  full : n.Full
  get_eq : ∀ addr, n.get addr = t.image m level addr
  log_eq : n.log.toList = m.log.toList ++ log
  nops_eq : n.nops = m.nops + nops

variable {t : Target} {m n : FlatMemory} {level : Bool} {log : List Access} {nops : Nat}

theorem Driven.get_led (h : n.Driven t m level log nops) :
    n.get t.led.port = t.lit (m.get t.led.port) level := by
  rw [h.get_eq, Target.image, if_pos rfl]

/-- The initializer drives memory where the rest is as `m` has it and the LED's register but for the
    LED, so that it does so the first time and every other. -/
private theorem driven_enable (hfull : n.Full)
    (hled : n.get t.led.port ||| t.ledMask = t.lit (m.get t.led.port) true)
    (hrest : ∀ addr, addr ≠ t.led.port → addr ≠ t.direction → t.digitalMode? ≠ some addr →
      n.get addr = m.get addr)
    (hlog : n.log.toList = m.log.toList ++ log) (hnops : n.nops = m.nops + nops) :
    ((n.digitize t).enable t).Driven t m true (log ++ t.startupLog (m.get t.led.port)) nops where
  full := ((hfull.digitize t).store _ _).modify _ _
  get_eq := by
    intro addr
    obtain ⟨-, hport⟩ := t.registers_ne
    rw [(hfull.digitize t).get_enable, hfull.get_digitize, Target.image]
    by_cases haddr : addr = t.led.port
    · subst haddr
      rw [if_pos rfl, if_pos rfl, if_neg hport, hled]
    · rw [if_neg haddr, if_neg haddr]
      by_cases hdirection : addr = t.direction
      · rw [if_pos hdirection, if_pos (.inl hdirection)]
      · rw [if_neg hdirection]
        by_cases hdigital : t.digitalMode? = some addr
        · rw [if_pos hdigital, if_pos (.inr hdigital)]
        · rw [if_neg hdigital, if_neg (not_or.mpr ⟨hdirection, hdigital⟩)]
          exact hrest addr haddr hdirection hdigital
  log_eq := by
    obtain ⟨hdirection, hport⟩ := t.registers_ne
    have hread : ((n.digitize t).store t.direction 0).get t.led.port = n.get t.led.port := by
      rw [(hfull.digitize t).get_store, if_neg hdirection, hfull.get_digitize, if_neg hport]
    rw [enable, log_modify, log_store, log_digitize, hlog, hread, hled, Target.startupLog]
    simp
  nops_eq := by rw [enable, nops_modify, nops_store, nops_digitize, hnops]

theorem driven_start (hfull : m.Full) (t : Target) :
    ((m.digitize t).enable t).Driven t m true (t.startupLog (m.get t.led.port)) 0 := by
  have hstarted := driven_enable (t := t) hfull rfl (fun _ _ _ _ => rfl)
    (List.append_nil m.log.toList).symm (Nat.add_zero m.nops).symm
  rwa [List.nil_append] at hstarted

theorem Driven.restart (h : n.Driven t m level log nops) :
    ((n.digitize t).enable t).Driven t m true (log ++ t.startupLog (m.get t.led.port)) nops := by
  refine driven_enable h.full ?_ ?_ h.log_eq h.nops_eq
  · rw [h.get_led, Target.lit_or]
  · intro addr hled hdirection hdigital
    rw [h.get_eq, Target.image, if_neg hled, if_neg (not_or.mpr ⟨hdirection, hdigital⟩)]

theorem Driven.toggle (h : n.Driven t m level log nops) :
    (n.modify t.led.port (· ^^^ t.ledMask)).Driven t m (!level)
      (log ++ t.moveLog (m.get t.led.port) level .toggle) nops where
  full := h.full.modify _ _
  get_eq := by
    intro addr
    rw [h.full.get_modify, h.get_led, Target.lit_xor, Target.image]
    by_cases haddr : addr = t.led.port
    · rw [if_pos haddr, if_pos haddr, haddr]
    · rw [if_neg haddr, if_neg haddr, h.get_eq, Target.image, if_neg haddr]
  log_eq := by
    rw [log_modify, h.get_led, Target.lit_xor, h.log_eq, List.append_assoc, Target.moveLog]
  nops_eq := h.nops_eq

theorem Driven.idle (h : n.Driven t m level log nops) (count : Nat) :
    (n.idle count).Driven t m level log (nops + count) where
  full := h.full.idle count
  get_eq := h.get_eq
  log_eq := h.log_eq
  nops_eq := by rw [FlatMemory.idle, h.nops_eq, Nat.add_assoc]

variable {p : Blinker FlatMemory}

/-- One move of the program drives memory on: the level that it keeps is the one it drove. -/
theorem Driven.exists_move (h : p.hardware.Driven t m p.level log nops) (x : Move) :
    ∃ p', p.move t x = .ok p' ∧ p'.level = x.level p.level ∧
      p'.hardware.Driven t m p'.level (log ++ t.moveLog (m.get t.led.port) p.level x)
        (nops + 3000 * [x].count .pass) := by
  cases x with
  | toggle => exact ⟨_, toggle_eq p t, rfl, h.toggle⟩
  | pass => exact ⟨_, pass_eq p t, rfl, h.toggle.idle blinkDelay⟩
  | restart =>
    refine ⟨_, start_eq p.hardware t, rfl, ?_⟩
    rw [foldl_exec_startup]
    exact h.restart

/-- And so do moves in order. -/
theorem Driven.exists_moves (h : p.hardware.Driven t m p.level log nops) (xs : List Move) :
    ∃ p', p.moves t xs = .ok p' ∧ p'.level = xs.foldl Move.level p.level ∧
      p'.hardware.Driven t m p'.level (log ++ t.movesLog (m.get t.led.port) p.level xs)
        (nops + 3000 * xs.count .pass) := by
  induction xs generalizing p log nops with
  | nil =>
    refine ⟨p, rfl, rfl, ?_⟩
    rwa [Target.movesLog, List.append_nil, List.count_nil, Nat.mul_zero, Nat.add_zero]
  | cons x rest ih =>
    obtain ⟨p₁, hmove, hlevel, hdriven⟩ := h.exists_move x
    obtain ⟨p', hmoves, hlevel', hdriven'⟩ := ih hdriven
    have hcount : nops + 3000 * [x].count .pass + 3000 * rest.count .pass =
        nops + 3000 * (x :: rest).count .pass := by
      rw [Nat.add_assoc, ← Nat.mul_add, ← List.count_append, List.singleton_append]
    refine ⟨p', ?_, ?_, ?_⟩
    · rw [Blinker.moves, hmove]
      exact hmoves
    · rw [hlevel', hlevel, List.foldl_cons]
    · rwa [hlevel, List.append_assoc, hcount] at hdriven'

/-- The program on 64 KiB of plain memory, whatever these held and in whatever order it is told to
    toggle, to pass and to start again. The level that it knows is the LED's bit of the port
    register, whose other bits stay as they were; the direction register is 0, and the analog select
    too where the part has one; and every other cell is as it was. To start it writes these
    registers, the analog select first, before it reads the port register and writes it, and a
    toggle or a pass is one read and one write of the port register. No-ops are those of the
    passes, 3000 for each. -/
theorem footprint_moves {t : Target} {m : FlatMemory} (hfull : m.Full) (xs : List Move) :
    ∃ p p', Blinker.start t m = .ok p ∧ p.moves t xs = .ok p' ∧
      p'.level = xs.foldl Move.level true ∧
      p'.level = decide (p'.hardware.get t.led.port &&& t.ledMask ≠ 0) ∧
      p'.hardware.get t.led.port &&& ~~~ t.ledMask = m.get t.led.port &&& ~~~ t.ledMask ∧
      p'.hardware.get t.direction = 0 ∧
      (∀ addr, t.digitalMode? = some addr → p'.hardware.get addr = 0) ∧
      (∀ addr, addr ≠ t.led.port → addr ≠ t.direction → t.digitalMode? ≠ some addr →
        p'.hardware.get addr = m.get addr) ∧
      p'.hardware.log.toList = m.log.toList ++ t.startupLog (m.get t.led.port) ++
        t.movesLog (m.get t.led.port) true xs ∧
      p'.hardware.nops = m.nops + 3000 * xs.count .pass := by
  obtain ⟨hdirection, hport⟩ := t.registers_ne
  have hstarted := driven_start hfull t
  rw [← foldl_exec_startup] at hstarted
  obtain ⟨p', hmoves, hlevel, hdriven⟩ := hstarted.exists_moves (p := ⟨_, true⟩) xs
  refine ⟨_, p', start_eq m t, hmoves, hlevel, ?_, ?_, ?_, ?_, ?_, ?_, ?_⟩
  · rw [hdriven.get_led, Target.lit_and]
    cases t <;> cases p'.level <;> decide
  · rw [hdriven.get_led, Target.lit_and_not]
  · rw [hdriven.get_eq, Target.image, if_neg hdirection.symm, if_pos (.inl rfl)]
  · intro addr hdigital
    have haddr : addr ≠ t.led.port := fun h => hport (h ▸ hdigital)
    rw [hdriven.get_eq, Target.image, if_neg haddr, if_pos (.inr hdigital)]
  · intro addr haddr hdirection hdigital
    rw [hdriven.get_eq, Target.image, if_neg haddr, if_neg (not_or.mpr ⟨hdirection, hdigital⟩)]
  · rw [hdriven.log_eq, List.append_assoc]
  · rw [hdriven.nops_eq, Nat.zero_add]

/-- On memory full of ones the other bits of the port register stay set, and the latch beside it is
    not touched. -/
theorem footprint_moves_filled :
    ∃ p p', Blinker.start .pic16f1823 (filled 0xFF) = .ok p ∧
      p.moves .pic16f1823 [.toggle, .restart, .pass] = .ok p' ∧ p'.level = false ∧
      p'.hardware.get 0x00E &&& 0xFE = 0xFE ∧ p'.hardware.get 0x08E = 0 ∧
      p'.hardware.get 0x18E = 0 ∧ p'.hardware.get 0x10E = 0xFF ∧ p'.hardware.nops = 3000 := by
  obtain ⟨p, p', hstart, hmoves, hlevel, -, hothers, hdirection, hdigital, helsewhere, -, hnops⟩ :=
    footprint_moves (t := .pic16f1823) (full_filled 0xFF) [.toggle, .restart, .pass]
  rw [get_filled] at hothers
  refine ⟨p, p', hstart, hmoves, hlevel, hothers, hdirection, hdigital 0x18E rfl, ?_, hnops⟩
  rw [helsewhere 0x10E (by decide) (by decide) (by decide), get_filled]

end FlatMemory

end LedBench.Firmware
