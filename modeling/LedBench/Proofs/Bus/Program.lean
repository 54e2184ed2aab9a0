import Mathlib.Algebra.Order.Ring.Nat
import LedBench.Firmware.Blinker
import LedBench.Proofs.Bus.View

namespace LedBench.Firmware

/-- The cycles of an instruction: one for each access. -/
def Instr.cycles : Instr → Nat
  | .write _ _ => 1
  | .setBits _ _ => 2

def Target.startupCycles : Target → Nat
  | .pic16f1823 => 4
  | .pic16f628a => 3

theorem Target.sum_cycles_startup (t : Target) :
    (t.startup.map Instr.cycles).sum = t.startupCycles := by
  cases t <;> rfl

theorem Target.startup_ne_nil (t : Target) : t.startup ≠ [] := by
  cases t <;> simp [startup]

end LedBench.Firmware

namespace LedBench.Bench

open Firmware

/-- The cycles of a turn of the loop: two for the toggle, and the wait. -/
def passCycles (cyclesPerNop : UInt64) : Nat := 2 + blinkDelay * cyclesPerNop.toNat

theorem two_le_passCycles (cyclesPerNop : UInt64) : 2 ≤ passCycles cyclesPerNop :=
  Nat.le_add_right _ _

theorem passCycles_pos (cyclesPerNop : UInt64) : 0 < passCycles cyclesPerNop :=
  Nat.lt_of_lt_of_le Nat.two_pos (two_le_passCycles cyclesPerNop)

namespace View

def exec (v : View) : Instr → View
  | .write addr value => v.write addr value
  | .setBits addr mask => v.modify addr (· ||| mask)

def startup (t : Target) (v : View) : View := t.startup.foldl exec v

def pass (t : Target) (v : View) : View :=
  (v.modify t.led.port (· ^^^ t.ledMask)).delay blinkDelay

theorem clock_pass (v : View) (t : Target) :
    (v.pass t).clock = (v.modify t.led.port (· ^^^ t.ledMask)).clock.delay blinkDelay := by
  rw [pass, clock_delay]

theorem elapsed_modify {v : View} (hsound : v.clock.Sound)
    (hroom : v.clock.cycles.toNat + 2 < UInt64.size) (addr : UInt16) (f : UInt8 → UInt8) :
    Clock.Elapsed v.clock (v.modify addr f).clock 2 ∧ (v.modify addr f).clock.Sound := by
  rw [clock_modify]
  obtain ⟨hfirst, hsound'⟩ := Clock.elapsed_access hsound (by omega)
  obtain ⟨hsecond, hsound''⟩ := Clock.elapsed_access hsound' (by rw [hfirst.cycles_eq]; omega)
  exact ⟨hfirst.trans hsecond, hsound''⟩

theorem elapsed_exec {v : View} (hsound : v.clock.Sound) (i : Instr)
    (hroom : v.clock.cycles.toNat + i.cycles < UInt64.size) :
    Clock.Elapsed v.clock (v.exec i).clock i.cycles ∧ (v.exec i).clock.Sound := by
  cases i with
  | write addr value =>
    rw [exec, clock_write]
    exact Clock.elapsed_access hsound hroom
  | setBits addr mask => exact elapsed_modify hsound hroom addr (· ||| mask)

theorem elapsed_foldl_exec {v : View} (hsound : v.clock.Sound) (i : Instr) (rest : List Instr)
    (hroom : v.clock.cycles.toNat + ((i :: rest).map Instr.cycles).sum < UInt64.size) :
    Clock.Elapsed v.clock ((i :: rest).foldl exec v).clock ((i :: rest).map Instr.cycles).sum ∧
      ((i :: rest).foldl exec v).clock.Sound := by
  induction rest generalizing v i with
  | nil =>
    have hfirst := elapsed_exec hsound i (by simpa using hroom)
    simpa using hfirst
  | cons j rest ih =>
    have hsplit : ((i :: j :: rest).map Instr.cycles).sum =
        i.cycles + ((j :: rest).map Instr.cycles).sum := by simp
    rw [hsplit] at hroom ⊢
    obtain ⟨hfirst, hsound'⟩ := elapsed_exec hsound i (by omega)
    obtain ⟨hrest, hsound''⟩ := ih hsound' j (by rw [hfirst.cycles_eq]; omega)
    exact ⟨hfirst.trans hrest, hsound''⟩

/-- The initializer is seen by the watchdog as the sum of its cycles. -/
theorem elapsed_startup {v : View} (hsound : v.clock.Sound) (t : Target)
    (hroom : v.clock.cycles.toNat + t.startupCycles < UInt64.size) :
    Clock.Elapsed v.clock (v.startup t).clock t.startupCycles ∧ (v.startup t).clock.Sound := by
  rw [← t.sum_cycles_startup] at hroom ⊢
  unfold startup
  cases h : t.startup with
  | nil => exact absurd h t.startup_ne_nil
  | cons i rest =>
    rw [h] at hroom
    exact elapsed_foldl_exec hsound i rest hroom

/-- A turn of the loop is seen by the watchdog as the sum of its cycles. -/
theorem elapsed_pass {v : View} (hsound : v.clock.Sound) (t : Target)
    (hroom : v.clock.cycles.toNat + passCycles v.clock.cyclesPerNop < UInt64.size) :
    Clock.Elapsed v.clock (v.pass t).clock (passCycles v.clock.cyclesPerNop) ∧
      (v.pass t).clock.Sound := by
  unfold passCycles at *
  obtain ⟨htoggle, hsound'⟩ := elapsed_modify hsound (by omega) t.led.port (· ^^^ t.ledMask)
  have hdelay : (v.modify t.led.port (· ^^^ t.ledMask)).clock.cycles.toNat +
      blinkDelay * (v.modify t.led.port (· ^^^ t.ledMask)).clock.cyclesPerNop.toNat <
        UInt64.size := by
    rw [htoggle.cycles_eq, htoggle.cyclesPerNop_eq]
    omega
  have helapsed := Clock.elapsed_delay hsound' (by decide) hdelay
  rw [htoggle.cyclesPerNop_eq] at helapsed
  rw [clock_pass]
  exact ⟨htoggle.trans helapsed, (hsound'.delay hdelay).1⟩

end View

namespace Bus

theorem run_takes {b : Bus} (hsound : b.clock.Sound) (i : Instr) :
    b.Takes i.cycles (fun b' => b'.view = b.view.exec i) (i.run b) := by
  cases i with
  | write addr value => exact write_takes hsound addr value
  | setBits addr mask => exact modify_takes hsound addr (· ||| mask)

theorem runAll_takes {b : Bus} (hsound : b.clock.Sound) (instrs : List Instr) :
    b.Takes (instrs.map Instr.cycles).sum (fun b' => b'.view = instrs.foldl View.exec b.view)
      (runAll instrs b) := by
  induction instrs generalizing b with
  | nil =>
    refine ⟨?_, rfl⟩
    simpa using b.cycles.toNat_lt
  | cons i rest ih =>
    have hrun := run_takes hsound i
    rw [runAll, List.map_cons, List.sum_cons, List.foldl_cons]
    cases h : i.run b with
    | error b' =>
      rw [h] at hrun
      exact hrun.error_mono (by omega)
    | ok b' =>
      rw [h] at hrun
      obtain ⟨hroom, hview⟩ := hrun
      obtain ⟨helapsed, hsound'⟩ := View.elapsed_exec (v := b.view) hsound i hroom
      rw [← hview] at helapsed hsound' ⊢
      exact (ih hsound').after helapsed.cycles_eq

/-- Running the initializer takes its cycles and leaves the LED on. -/
theorem start_takes {b : Bus} (hsound : b.clock.Sound) (t : Target) :
    b.Takes t.startupCycles (fun p => p.hardware.view = b.view.startup t ∧ p.level = true)
      (Blinker.start t b) := by
  have hrun := runAll_takes hsound t.startup
  rw [t.sum_cycles_startup] at hrun
  unfold Blinker.start
  cases h : runAll t.startup b with
  | error b' =>
    rw [h] at hrun
    exact hrun
  | ok b' =>
    rw [h] at hrun
    exact ⟨hrun.1, hrun.2, rfl⟩

/-- A turn of the loop inverts the program's level. -/
theorem pass_takes {p : Blinker Bus} (hsound : p.hardware.clock.Sound) (t : Target) :
    p.hardware.Takes (passCycles p.hardware.cyclesPerNop)
      (fun q => q.hardware.view = p.hardware.view.pass t ∧ q.level = !p.level) (p.pass t) := by
  have hmodify := modify_takes hsound t.led.port (· ^^^ t.ledMask)
  unfold Blinker.pass Blinker.toggle Hardware.toggleBits
  cases h : Hardware.modify p.hardware t.led.port (· ^^^ t.ledMask) with
  | error b' =>
    rw [h] at hmodify
    exact hmodify.error_mono (by unfold passCycles; omega)
  | ok b' =>
    rw [h] at hmodify
    obtain ⟨hroom, hview⟩ := hmodify
    obtain ⟨helapsed, hsound'⟩ := View.elapsed_modify (v := p.hardware.view) hsound hroom
      t.led.port (· ^^^ t.ledMask)
    have hpass : p.hardware.view.pass t = b'.view.delay blinkDelay := by
      rw [hview, View.pass]
    rw [← hview] at helapsed hsound'
    have hper : b'.cyclesPerNop = p.hardware.cyclesPerNop := helapsed.cyclesPerNop_eq
    have hdelay := (delay_takes hsound' blinkDelay).after (b := p.hardware) helapsed.cycles_eq
    rw [hper] at hdelay
    dsimp only
    cases hd : Hardware.delay blinkDelay b' with
    | error b'' =>
      rw [hd] at hdelay
      exact hdelay
    | ok b'' =>
      rw [hd] at hdelay
      exact ⟨hdelay.1, by rw [hpass, ← hdelay.2], rfl⟩

end Bus

end LedBench.Bench
