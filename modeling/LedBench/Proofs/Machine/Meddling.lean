import LedBench.Proofs.Bus.Operation
import LedBench.Proofs.Machine.Ready

namespace LedBench.Bench

open Chip Firmware

/-- A command of a machine's owner, or an operation on its bus. -/
inductive Act where
  | command (c : Command)
  | bus (op : BusOp)
  deriving DecidableEq, Repr

namespace Machine

def undergo (m : Machine) : Act → Except (Stopped SimulationError Machine) Machine
  | .command c => m.perform c
  | .bus op =>
    match op.run m.bus with
    | .ok b => .ok (m.withBus b)
    | .error b => .error ⟨.trap, m.withBus b⟩

/-- Carries out acts in order. A reported fault does not end them, a trap does. -/
def endure : Machine → List Act → Option Machine
  | m, [] => some m
  | m, a :: rest =>
    match m.undergo a with
    | .ok m' => m'.endure rest
    | .error ⟨.refused _, m'⟩ => m'.endure rest
    | .error ⟨.trap, _⟩ => none

variable {t : Target} {d : Descriptor} {led : PinRef} {size : UInt64} {m m' : Machine}

/-- The outcome of an act that is not a trap: it succeeds, or reports a fault. -/
def Survives (r : Except (Stopped SimulationError Machine) Machine) (m' : Machine) : Prop :=
  r = .ok m' ∨ ∃ e, r = .error ⟨.refused e, m'⟩

theorem not_survives_trap {r : Except (Stopped SimulationError Machine) Machine}
    (h : ∃ s, r = .error ⟨.trap, s⟩) : ¬ Survives r m' := by
  obtain ⟨s, rfl⟩ := h
  rintro (h | ⟨e, h⟩) <;> cases h

theorem Built.of_continues (h : m.Built t d led size) {b : Bus} (hb : m.bus.Continues b)
    (level : Bool) : ({ m with program := ⟨b, level⟩ } : Machine).Built t d led size where
  sound := ⟨hb.sound, Nat.le_trans h.sound.passes_le hb.cycles_le, h.sound.resets_le⟩
  target_eq := h.target_eq
  led_eq := h.led_eq
  build_eq := hb.build_eq.trans h.build_eq
  maps := h.maps

private theorem Built.of_step (h : m.Built t d led size) (hstep : Survives m.step m') :
    m'.Built t d led size := by
  by_cases hpass : m.bus.cycles.toNat + passCycles m.bus.cyclesPerNop < UInt64.size
  · have hmaps : m.bus.view.build.decoding.startupViolation? t = none := h.build_eq ▸ h.maps
    cases hfault : m.bus.view.fault with
    | none =>
      have hready : m.Ready t d led size := ⟨h, hfault⟩
      by_cases hroom : m.bus.cycles.toNat + m.cost .step < UInt64.size
      · obtain ⟨b, hview, hperform⟩ := hready.exists_perform .step hroom
        rw [show m.step = .ok (m.after b .step) from hperform] at hstep
        rcases hstep with hok | ⟨e, herror⟩
        · cases hok
          exact (hready.after hroom hview).toBuilt
        · cases herror
      · exact absurd hstep (not_survives_trap (hready.perform_trap (Nat.not_lt.mp hroom)))
    | some addr =>
      have hturn : (m.bus.view.turn m.target m.passes).fault = some addr := by
        rw [h.target_eq, View.fault_turn hmaps, hfault]
      obtain ⟨b, hview, hreported⟩ := exists_step_of_fault h.sound hpass hturn
      rw [hreported] at hstep
      obtain ⟨helapsed, hsound⟩ :=
        View.elapsed_turn (v := m.bus.view) h.sound.clock m.target m.passes hpass
      have hclock : b.clock = (m.bus.view.turn m.target m.passes).clock := by
        rw [Bus.clock_eq_of_view hview, View.settle]
      rw [← hclock] at helapsed hsound
      have hcontinues : m.bus.Continues b := by
        refine Bus.Continues.of_elapsed hsound ?_ helapsed
        rw [hview, View.build_settle, View.build_turn]
      rcases hstep with hok | ⟨e, herror⟩
      · cases hok
      · cases herror
        exact h.of_continues hcontinues _
  · exact absurd hstep (not_survives_trap (Machine.step_trap h.sound (Nat.not_lt.mp hpass)))

/-- A power-on reset for which there is room leaves the machine in service: it reports the fault
    that was pending, if one was, and forgets it. -/
theorem Built.exists_reset (h : m.Built t d led size)
    (hroom : m.bus.cycles.toNat + t.startupCycles < UInt64.size) :
    ∃ b : Bus, b.view = (m.bus.view.restart t .powerOn).settle ∧ m.bus.Continues b ∧
      m.reset =
        match m.bus.view.fault with
        | none => .ok { m with program := ⟨b, true⟩ }
        | some addr =>
          .error ⟨.refused (.memoryViolation addr), { m with program := ⟨b, true⟩ }⟩ := by
  obtain ⟨b, hview, hreset⟩ := h.exists_startOver .powerOn hroom
  obtain ⟨helapsed, hsound⟩ :=
    View.elapsed_restart (v := m.bus.view) h.sound.clock t .powerOn hroom
  have hclock : b.clock = (m.bus.view.restart t .powerOn).clock := by
    rw [Bus.clock_eq_of_view hview, View.settle]
  refine ⟨b, hview, ⟨hclock ▸ hsound, ?_, ?_⟩, hreset⟩
  · rw [hview, View.build_settle, View.build_restart]
  · have hcycles : b.cycles.toNat = m.bus.cycles.toNat + t.startupCycles := by
      rw [show b.cycles = b.clock.cycles from rfl, hclock, helapsed.cycles_eq]
      rfl
    omega

private theorem Built.of_reset (h : m.Built t d led size) (hreset : Survives m.reset m') :
    m'.Built t d led size := by
  by_cases hroom : m.bus.cycles.toNat + t.startupCycles < UInt64.size
  · obtain ⟨b, -, hcontinues, hresult⟩ := h.exists_reset hroom
    rw [hresult] at hreset
    cases hfault : m.bus.view.fault with
    | none =>
      rw [hfault] at hreset
      rcases hreset with hok | ⟨e, herror⟩
      · cases hok
        exact h.of_continues hcontinues true
      · cases herror
    | some addr =>
      rw [hfault] at hreset
      rcases hreset with hok | ⟨e, herror⟩
      · cases hok
      · cases herror
        exact h.of_continues hcontinues true
  · have hfull : UInt64.size ≤ m.bus.cycles.toNat + m.target.startupCycles := by
      rw [h.target_eq]
      exact Nat.not_lt.mp hroom
    exact absurd hreset (not_survives_trap (startOver_trap h.sound.clock .powerOn hfull))

/-- No act changes how a machine is built. -/
theorem Built.of_undergo (h : m.Built t d led size) {a : Act} (hact : Survives (m.undergo a) m') :
    m'.Built t d led size := by
  cases a with
  | command c =>
    cases c with
    | step => exact h.of_step hact
    | reset => exact h.of_reset hact
    | burn word =>
      have hcontinues : m.bus.Continues (m.bus.burn word) :=
        BusOp.continues h.sound.clock (show BusOp.run m.bus (.burn word) = _ from rfl)
      rcases hact with hok | ⟨e, herror⟩
      · cases hok
        exact h.of_continues hcontinues m.program.level
      · cases herror
    | stop =>
      have hcontinues : m.bus.Continues (m.bus.emit .stop) := ⟨h.sound.clock, rfl, Nat.le_refl _⟩
      rcases hact with hok | ⟨e, herror⟩
      · cases hok
        exact h.of_continues hcontinues m.program.level
      · cases herror
  | bus op =>
    rw [undergo] at hact
    cases hrun : op.run m.bus with
    | ok b =>
      rw [hrun] at hact
      rcases hact with hok | ⟨e, herror⟩
      · cases hok
        exact h.of_continues (BusOp.continues h.sound.clock hrun) m.program.level
      · cases herror
    | error b =>
      rw [hrun] at hact
      exact absurd hact (not_survives_trap ⟨_, rfl⟩)

/-- However a machine is meddled with, it is the machine that was built. -/
theorem Built.of_endure (h : m.Built t d led size) {acts : List Act}
    (hacts : m.endure acts = some m') : m'.Built t d led size := by
  induction acts generalizing m with
  | nil =>
    cases hacts
    exact h
  | cons a rest ih =>
    rw [endure] at hacts
    split at hacts
    · rename_i m₁ hact
      exact ih (h.of_undergo (.inl hact)) hacts
    · rename_i e m₁ hact
      exact ih (h.of_undergo (.inr ⟨e, hact⟩)) hacts
    · cases hacts

end Machine

end LedBench.Bench
