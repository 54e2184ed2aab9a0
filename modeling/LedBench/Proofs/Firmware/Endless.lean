import LedBench.Proofs.Firmware.Footprint
import Mathlib.Algebra.Group.Nat.Even

namespace LedBench.Firmware

namespace Target

/-- The LED's bit is set in a byte of which it was put to a level exactly if that was high. -/
theorem lit_and_ne_zero_iff (t : Target) (byte : UInt8) (level : Bool) :
    t.lit byte level &&& t.ledMask ≠ 0 ↔ level = true := by
  rw [lit_and]
  cases t <;> cases level <;> decide

/-- The accesses of so many toggles in order, the LED being lit before them. -/
def togglesLog (t : Target) (byte : UInt8) (count : Nat) : List Access :=
  (List.range count).flatMap fun i => [.read t.led.port, .write t.led.port (t.lit byte (i % 2 = 1))]

theorem togglesLog_succ (t : Target) (byte : UInt8) (count : Nat) :
    t.togglesLog byte (count + 1) =
      t.togglesLog byte count ++ t.moveLog byte (count % 2 = 0) .toggle := by
  have hlevel : (!decide (count % 2 = 0)) = decide (count % 2 = 1) := by
    rw [← decide_not, decide_eq_decide]
    omega
  rw [togglesLog, List.range_succ, List.flatMap_append, List.flatMap_singleton, moveLog, hlevel,
    togglesLog]

end Target

/-- The running program with a budget of no-ops for its chip. -/
def Blinker.budgeted {σ : Type} (p : Blinker σ) (budget : Nat) : Blinker (Budgeted σ) :=
  ⟨⟨p.hardware, budget⟩, p.level⟩

namespace FlatMemory

/-- Memory after one more toggle, in whose wait the program gets no further than so many no-ops. -/
def lastTurn (t : Target) (rest : Nat) (m : FlatMemory) : FlatMemory :=
  (m.modify t.led.port (· ^^^ t.ledMask)).idle rest

end FlatMemory

theorem Blinker.passes_add {σ : Type} [Hardware σ] {t : Target} {p q : Blinker σ} {turns : Nat}
    (hpasses : p.passes t turns = .ok q) (more : Nat) :
    p.passes t (turns + more) = q.passes t more := by
  induction turns generalizing p with
  | zero =>
    cases hpasses
    rw [Nat.zero_add]
  | succ turns ih =>
    rw [passes] at hpasses
    rw [Nat.add_right_comm, passes]
    cases hpass : p.pass t with
    | error s =>
      rw [hpass] at hpasses
      cases hpasses
    | ok p' =>
      rw [hpass] at hpasses
      exact ih hpasses

namespace Budgeted

open FlatMemory

theorem modify_eq (m : FlatMemory) (budget : Nat) (addr : UInt16) (f : UInt8 → UInt8) :
    Hardware.modify (⟨m, budget⟩ : Budgeted FlatMemory) addr f =
      .ok ⟨m.modify addr f, budget⟩ := rfl

theorem run_eq (m : FlatMemory) (budget : Nat) (i : Instr) :
    i.run (⟨m, budget⟩ : Budgeted FlatMemory) = .ok ⟨m.exec i, budget⟩ := by
  cases i <;> rfl

theorem runAll_eq (m : FlatMemory) (budget : Nat) (instrs : List Instr) :
    runAll instrs (⟨m, budget⟩ : Budgeted FlatMemory) = .ok ⟨instrs.foldl exec m, budget⟩ := by
  induction instrs generalizing m with
  | nil => rfl
  | cons i rest ih =>
    rw [runAll, run_eq]
    exact ih (m.exec i)

theorem start_eq (m : FlatMemory) (budget : Nat) (t : Target) :
    Blinker.start t (⟨m, budget⟩ : Budgeted FlatMemory) =
      .ok (Blinker.budgeted ⟨t.startup.foldl exec m, true⟩ budget) := by
  rw [Blinker.start, runAll_eq, Blinker.budgeted]

theorem toggle_eq (p : Blinker FlatMemory) (budget : Nat) (t : Target) :
    (p.budgeted budget).toggle t =
      .ok (Blinker.budgeted ⟨p.hardware.modify t.led.port (· ^^^ t.ledMask), !p.level⟩ budget) := by
  rw [Blinker.toggle, Hardware.toggleBits, Blinker.budgeted, modify_eq, Blinker.budgeted]

/-- A wait that the budget pays for. -/
theorem delay_of_paid (m : FlatMemory) (count rest : Nat) :
    Hardware.delay count (⟨m, count + rest⟩ : Budgeted FlatMemory) = .ok ⟨m.idle count, rest⟩ := by
  induction count generalizing m with
  | zero =>
    rw [Hardware.delay, Nat.zero_add, idle, Nat.add_zero]
  | succ count ih =>
    have hnop : Hardware.nop (⟨m, count + 1 + rest⟩ : Budgeted FlatMemory) =
        .ok ⟨m.idle 1, count + rest⟩ := by
      rw [Nat.add_right_comm]
      rfl
    rw [Hardware.delay, hnop]
    dsimp only
    rw [ih, idle, idle, idle, Nat.add_right_comm, Nat.add_assoc]

/-- A wait that ends where the budget does. -/
theorem delay_of_short (m : FlatMemory) {count budget : Nat} (hshort : budget < count) :
    Hardware.delay count (⟨m, budget⟩ : Budgeted FlatMemory) = .error ⟨m.idle budget, 0⟩ := by
  induction budget generalizing m count with
  | zero =>
    obtain ⟨count, rfl⟩ := Nat.exists_eq_succ_of_ne_zero (Nat.ne_of_gt hshort)
    rfl
  | succ budget ih =>
    obtain ⟨count, rfl⟩ := Nat.exists_eq_succ_of_ne_zero (Nat.ne_of_gt (Nat.zero_lt_of_lt hshort))
    have hnop : Hardware.nop (⟨m, budget + 1⟩ : Budgeted FlatMemory) =
        .ok ⟨m.idle 1, budget⟩ := rfl
    rw [Hardware.delay, hnop]
    dsimp only
    rw [ih _ (Nat.lt_of_succ_lt_succ hshort), idle, idle, idle, Nat.add_right_comm, Nat.add_assoc]

/-- A turn of the loop that the budget pays for is one on plain memory. -/
theorem pass_of_paid {p q : Blinker FlatMemory} {t : Target} (hpass : p.pass t = .ok q)
    (rest : Nat) : (p.budgeted (blinkDelay + rest)).pass t = .ok (q.budgeted rest) := by
  rw [FlatMemory.pass_eq] at hpass
  cases hpass
  exact Blinker.pass_eq_ok (toggle_eq p _ t) (delay_of_paid _ blinkDelay rest)

/-- A turn that it does not pay for is cut in the wait. -/
theorem pass_of_short (p : Blinker FlatMemory) (t : Target) {budget : Nat}
    (hshort : budget < blinkDelay) :
    (p.budgeted budget).pass t = .error ⟨p.hardware.lastTurn t budget, 0⟩ := by
  have hdelay := delay_of_short (p.hardware.modify t.led.port (· ^^^ t.ledMask)) hshort
  rw [Blinker.pass, toggle_eq]
  dsimp only [Blinker.budgeted]
  rw [hdelay, FlatMemory.lastTurn]

/-- Turns that the budget pays for are those on plain memory. -/
theorem passes_of_paid {p q : Blinker FlatMemory} {t : Target} {turns : Nat}
    (hmoves : p.moves t (List.replicate turns .pass) = .ok q) (rest : Nat) :
    (p.budgeted (blinkDelay * turns + rest)).passes t turns = .ok (q.budgeted rest) := by
  induction turns generalizing p with
  | zero =>
    cases hmoves
    rw [Blinker.passes, Nat.mul_zero, Nat.zero_add]
  | succ turns ih =>
    have hpass := FlatMemory.pass_eq p t
    rw [List.replicate_succ, Blinker.moves, Blinker.move, hpass] at hmoves
    have hbudget : blinkDelay * (turns + 1) + rest = blinkDelay + (blinkDelay * turns + rest) := by
      rw [Nat.mul_succ]
      omega
    rw [Blinker.passes, hbudget, pass_of_paid hpass]
    exact ih hmoves

/-- However many turns the loop is given beyond those, it is cut in the next one. -/
theorem passes_of_short {p q : Blinker FlatMemory} {t : Target} {whole turns rest : Nat}
    (hmoves : p.moves t (List.replicate whole .pass) = .ok q) (hshort : rest < blinkDelay)
    (hturns : whole < turns) :
    (p.budgeted (blinkDelay * whole + rest)).passes t turns =
      .error ⟨q.hardware.lastTurn t rest, 0⟩ := by
  obtain ⟨more, rfl⟩ := Nat.exists_eq_add_of_lt hturns
  rw [Nat.add_assoc, Blinker.passes_add (passes_of_paid hmoves rest), Blinker.passes,
    pass_of_short q t hshort]

end Budgeted

theorem Blinker.moves_append {σ : Type} [Hardware σ] {t : Target} {p q : Blinker σ}
    {xs : List Move} (hmoves : p.moves t xs = .ok q) (ys : List Move) :
    p.moves t (xs ++ ys) = q.moves t ys := by
  induction xs generalizing p with
  | nil =>
    cases hmoves
    rfl
  | cons x rest ih =>
    rw [Blinker.moves] at hmoves
    rw [List.cons_append, Blinker.moves]
    cases hmove : p.move t x with
    | error s =>
      rw [hmove] at hmoves
      cases hmoves
    | ok p' =>
      rw [hmove] at hmoves
      exact ih hmoves

/-- The LED is lit after the initializer and after every second turn. -/
theorem level_turns (count : Nat) :
    (List.replicate count Move.pass).foldl Move.level true = decide (count % 2 = 0) := by
  induction count with
  | zero => rfl
  | succ count ih =>
    rw [List.replicate_succ', List.foldl_append, ih, List.foldl_cons, List.foldl_nil, Move.level,
      ← decide_not, decide_eq_decide]
    omega

namespace Target

theorem movesLog_append (t : Target) (byte : UInt8) (level : Bool) (xs ys : List Move) :
    t.movesLog byte level (xs ++ ys) =
      t.movesLog byte level xs ++ t.movesLog byte (xs.foldl Move.level level) ys := by
  induction xs generalizing level with
  | nil => rfl
  | cons x rest ih =>
    rw [List.cons_append, movesLog, movesLog, ih, List.append_assoc, List.foldl_cons]

theorem movesLog_turns (t : Target) (byte : UInt8) (count : Nat) :
    t.movesLog byte true (List.replicate count .pass) = t.togglesLog byte count := by
  induction count with
  | zero => rfl
  | succ count ih =>
    rw [List.replicate_succ', movesLog_append, ih, level_turns, togglesLog_succ, movesLog, movesLog,
      List.append_nil]
    rfl

end Target

namespace FlatMemory

variable {t : Target} {m n : FlatMemory} {level : Bool} {log : List Access} {nops : Nat}

/-- The turn in which the program is cut toggles the LED and waits for what is left of the
    budget. -/
theorem Driven.lastTurn (h : n.Driven t m level log nops) (rest : Nat) :
    (n.lastTurn t rest).Driven t m (!level)
      (log ++ t.moveLog (m.get t.led.port) level .toggle) (nops + rest) :=
  h.toggle.idle rest

/-- The endless program on 64 KiB of plain memory, whatever these held, up to the first no-op past
    its budget. Given any number of turns up to the quotient of the budget by 3000 the loop makes
    them, and given any more it is cut in the same place, with nothing left of the budget. There it
    has made as many whole turns as that quotient says, one toggle more and the no-ops that were
    left for its wait; together the no-ops are exactly the budget. The log is that of the
    initializer and a read and a write of the port register for each toggle. The LED is on exactly
    if the number of toggles is even, the other bits of its register are as they were, and so is
    every cell that the initializer does not write. -/
theorem runEndless_cut {t : Target} {m : FlatMemory} (hfull : m.Full) (budget : Nat) :
    ∃ p q n, Blinker.start t m = .ok p ∧
      p.moves t (List.replicate (budget / 3000) .pass ++ [.toggle]) = .ok q ∧
      Blinker.start t ⟨m, budget⟩ = .ok (p.budgeted budget) ∧
      (∀ turns ≤ budget / 3000, ∃ p', (p.budgeted budget).passes t turns = .ok p') ∧
      (∀ turns, budget / 3000 < turns → (p.budgeted budget).passes t turns = .error ⟨n, 0⟩) ∧
      m.runEndless t budget = n ∧ n = q.hardware.idle (budget % 3000) ∧
      n.nops = m.nops + budget ∧
      n.log.toList = m.log.toList ++ t.startupLog (m.get t.led.port) ++
        t.togglesLog (m.get t.led.port) (budget / 3000 + 1) ∧
      (n.get t.led.port &&& t.ledMask ≠ 0 ↔ Even (budget / 3000 + 1)) ∧
      n.get t.led.port &&& ~~~ t.ledMask = m.get t.led.port &&& ~~~ t.ledMask ∧
      ∀ addr, addr ≠ t.led.port → addr ≠ t.direction → t.digitalMode? ≠ some addr →
        n.get addr = m.get addr := by
  have hstarted := driven_start hfull t
  rw [← foldl_exec_startup] at hstarted
  obtain ⟨q, hmoves, hlevel, hdriven⟩ :=
    hstarted.exists_moves (p := ⟨_, true⟩) (List.replicate (budget / 3000) .pass)
  rw [level_turns] at hlevel
  have hcut := hdriven.lastTurn (budget % 3000)
  have hbudget : blinkDelay * (budget / 3000) + budget % 3000 = budget := Nat.div_add_mod ..
  have hshort : budget % 3000 < blinkDelay := Nat.mod_lt budget (by decide)
  have hlast : ∀ turns, budget / 3000 < turns →
      (Blinker.budgeted ⟨t.startup.foldl exec m, true⟩ budget).passes t turns =
        .error ⟨q.hardware.lastTurn t (budget % 3000), 0⟩ := by
    intro turns hturns
    have hpasses := Budgeted.passes_of_short hmoves hshort hturns
    rwa [hbudget] at hpasses
  refine ⟨⟨t.startup.foldl exec m, true⟩,
    ⟨q.hardware.modify t.led.port (· ^^^ t.ledMask), !q.level⟩,
    q.hardware.lastTurn t (budget % 3000), start_eq m t, ?_, Budgeted.start_eq m budget t, ?_,
    hlast, ?_, rfl, ?_, ?_, ?_, ?_, ?_⟩
  · rw [Blinker.moves_append hmoves, Blinker.moves, Blinker.move, toggle_eq]
    rfl
  · intro turns hturns
    obtain ⟨p', hturned, -⟩ :=
      hstarted.exists_moves (p := ⟨_, true⟩) (List.replicate turns .pass)
    have hpaid : blinkDelay * turns ≤ budget :=
      Nat.le_trans (Nat.mul_le_mul_left blinkDelay hturns) (Nat.mul_div_le budget blinkDelay)
    have hpasses := Budgeted.passes_of_paid hturned (budget - blinkDelay * turns)
    rw [Nat.add_sub_cancel' hpaid] at hpasses
    exact ⟨_, hpasses⟩
  · rw [runEndless, Budgeted.start_eq]
    dsimp only
    rw [hlast (budget + 1) (Nat.lt_succ_of_le (Nat.div_le_self ..))]
  · rw [hcut.nops_eq, Nat.zero_add, List.count_replicate_self, Nat.div_add_mod]
  · rw [hcut.log_eq, Target.movesLog_turns, hlevel, Target.togglesLog_succ, List.append_assoc,
      List.append_assoc]
  · rw [hcut.get_led, t.lit_and_ne_zero_iff, hlevel, Nat.even_iff, Bool.not_eq_true',
      decide_eq_false_iff_not]
    omega
  · rw [hcut.get_led, Target.lit_and_not]
  · intro addr haddr hdirection hdigital
    rw [hcut.get_eq, Target.image, if_neg haddr, if_neg (not_or.mpr ⟨hdirection, hdigital⟩)]

/-- With a budget of exactly two waits the program is cut in the third, before its first no-op, and
    the LED is off. -/
theorem runEndless_cut_filled :
    ((filled 0xFF).runEndless .pic16f1823 6000).nops = 6000 ∧
      ((filled 0xFF).runEndless .pic16f1823 6000).log.toList =
        [.write 0x18E 0, .write 0x08E 0, .read 0x00E, .write 0x00E 0xFF, .read 0x00E,
          .write 0x00E 0xFE, .read 0x00E, .write 0x00E 0xFF, .read 0x00E, .write 0x00E 0xFE] ∧
      ((filled 0xFF).runEndless .pic16f1823 6000).get 0x00E &&& 0xFE = 0xFE ∧
      ((filled 0xFF).runEndless .pic16f1823 6000).get 0x10E = 0xFF := by
  obtain ⟨-, -, n, -, -, -, -, -, hrun, -, hnops, hlog, -, hothers, helsewhere⟩ :=
    runEndless_cut (t := .pic16f1823) (full_filled 0xFF) 6000
  rw [get_filled] at hlog hothers
  rw [hrun]
  refine ⟨hnops, hlog, hothers, ?_⟩
  rw [helsewhere 0x10E (by decide) (by decide) (by decide), get_filled]

end FlatMemory

end LedBench.Firmware
