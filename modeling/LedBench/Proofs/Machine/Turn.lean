import LedBench.Proofs.Machine.Command

namespace LedBench.Bench

open Chip Firmware

namespace View

/-- The view when the chip has been reset and the initializer has run. -/
def restart (t : Target) (cause : ResetCause) (v : View) : View :=
  ((v.emit (.reset cause)).reset cause).startup t

/-- The view when a turn of the loop has run and is not yet accounted for. -/
def turn (t : Target) (passes : UInt64) (v : View) : View := (v.emit (.passStart passes)).pass t

/-- The view when the end of a turn has been reported. -/
def endPass (cyclesPerNop : UInt64) (v : View) : View :=
  v.emit (.passEnd (UInt64.ofNat (passCycles cyclesPerNop)))

@[simp] theorem clock_endPass (v : View) (cyclesPerNop : UInt64) :
    (v.endPass cyclesPerNop).clock = v.clock := rfl

@[simp] theorem fault_endPass (v : View) (cyclesPerNop : UInt64) :
    (v.endPass cyclesPerNop).fault = v.fault := rfl

@[simp] theorem contents_endPass (v : View) (cyclesPerNop : UInt64) :
    (v.endPass cyclesPerNop).contents = v.contents := rfl

end View

namespace Machine

/-- No counter of the machine is ahead of the cycles. -/
structure Sound (m : Machine) : Prop where
  clock : m.bus.clock.Sound
  passes_le : m.passes.toNat ≤ m.bus.cycles.toNat
  resets_le : m.watchdogResets.toNat ≤ m.passes.toNat

theorem settle_eq {σ : Type} (wrap : Blinker Bus → σ) (p : Blinker Bus) :
    settle wrap p =
      match p.hardware.chip.fault with
      | none => .ok ⟨p.hardware.takeFault.2, p.level⟩
      | some addr =>
        .error ⟨.refused (.memoryViolation addr), wrap ⟨p.hardware.takeFault.2, p.level⟩⟩ := rfl

private theorem view_reset_emit (b : Bus) (cause : ResetCause) :
    ((b.emit (.reset cause)).reset cause).view = (b.view.emit (.reset cause)).reset cause := by
  rw [Bus.view_reset, Bus.view_emit]

private theorem start_takes_reset {b : Bus} (hsound : b.clock.Sound) (t : Target)
    (cause : ResetCause) :
    b.Takes t.startupCycles
      (fun p => p.hardware.view = b.view.restart t cause ∧ p.level = true)
      (Blinker.start t ((b.emit (.reset cause)).reset cause)) := by
  have hview := view_reset_emit b cause
  have hclock : ((b.emit (.reset cause)).reset cause).clock = b.clock.reset :=
    Bus.clock_eq_of_view hview
  have hstart := Bus.start_takes (hclock ▸ hsound.reset) t
  rw [hview] at hstart
  have hcycles : ((b.emit (.reset cause)).reset cause).cycles = b.cycles :=
    congrArg Clock.cycles hclock
  have hafter := hstart.after (b := b) (n := 0) (by rw [hcycles, Nat.add_zero])
  rwa [Nat.zero_add] at hafter

/-- With room for the initializer a restart leaves the machine at the top of its program, and
    reports the first access that failed since somebody last asked. -/
theorem exists_startOver {m : Machine} (hsound : m.bus.clock.Sound) (cause : ResetCause)
    (hroom : m.bus.cycles.toNat + m.target.startupCycles < UInt64.size) :
    ∃ b : Bus, b.view = (m.bus.view.restart m.target cause).settle ∧
      m.startOver cause =
        match (m.bus.view.restart m.target cause).fault with
        | none => .ok { m with program := ⟨b, true⟩ }
        | some addr =>
          .error ⟨.refused (.memoryViolation addr), { m with program := ⟨b, true⟩ }⟩ := by
  obtain ⟨p, hp, hview, hlevel⟩ := (start_takes_reset hsound m.target cause).ok hroom
  refine ⟨p.hardware.takeFault.2, by rw [Bus.view_takeFault, hview], ?_⟩
  have hrestart : (m.withBus ((m.bus.emit (.reset cause)).reset cause)).program.restart m.target =
      .ok p := hp
  have hfault : p.hardware.chip.fault = (m.bus.view.restart m.target cause).fault :=
    congrArg View.fault hview
  rw [startOver]
  simp only [hrestart, settle_eq, hfault, hlevel]
  cases (m.bus.view.restart m.target cause).fault <;> rfl

theorem startOver_trap {m : Machine} (hsound : m.bus.clock.Sound) (cause : ResetCause)
    (hfull : UInt64.size ≤ m.bus.cycles.toNat + m.target.startupCycles) :
    ∃ s, m.startOver cause = .error ⟨.trap, s⟩ := by
  obtain ⟨b, hb⟩ := (start_takes_reset hsound m.target cause).trap hfull
  have hrestart : (m.withBus ((m.bus.emit (.reset cause)).reset cause)).program.restart m.target =
      .error b := hb
  rw [startOver]
  simp only [hrestart]
  exact ⟨_, rfl⟩

/-- The program's turn of the loop, from the report of its start. -/
private theorem pass_takes_turn {m : Machine} (hsound : m.bus.clock.Sound) :
    m.bus.Takes (passCycles m.bus.cyclesPerNop)
      (fun p => p.hardware.view = m.bus.view.turn m.target m.passes ∧ p.level = !m.program.level)
      ((m.withBus (m.bus.emit (.passStart m.passes))).program.pass m.target) := by
  have hpass := Bus.pass_takes (p := (m.withBus (m.bus.emit (.passStart m.passes))).program)
    hsound m.target
  rw [show (m.withBus (m.bus.emit (.passStart m.passes))).program.hardware.view =
    m.bus.view.emit (.passStart m.passes) from Bus.view_emit ..] at hpass
  exact hpass

theorem step_trap {m : Machine} (hsound : m.Sound)
    (hfull : UInt64.size ≤ m.bus.cycles.toNat + passCycles m.bus.cyclesPerNop) :
    ∃ s, m.step = .error ⟨.trap, s⟩ := by
  obtain ⟨b, hb⟩ := (pass_takes_turn hsound.clock).trap hfull
  rw [step]
  simp only [show (m.withBus (m.bus.emit (.passStart m.passes))).target = m.target from rfl, hb]
  exact ⟨_, rfl⟩

/-- A turn in which an access fails is reported and not counted. -/
theorem exists_step_of_fault {m : Machine} (hsound : m.Sound)
    (hroom : m.bus.cycles.toNat + passCycles m.bus.cyclesPerNop < UInt64.size) {addr : UInt16}
    (hfault : (m.bus.view.turn m.target m.passes).fault = some addr) :
    ∃ b : Bus, b.view = (m.bus.view.turn m.target m.passes).settle ∧
      m.step = .error ⟨.refused (.memoryViolation addr),
        { m with program := ⟨b, !m.program.level⟩ }⟩ := by
  obtain ⟨p, hp, hview, hlevel⟩ := (pass_takes_turn hsound.clock).ok hroom
  refine ⟨p.hardware.takeFault.2, by rw [Bus.view_takeFault, hview], ?_⟩
  have hkept : p.hardware.chip.fault = some addr := (congrArg View.fault hview).trans hfault
  rw [step]
  simp only [show (m.withBus (m.bus.emit (.passStart m.passes))).target = m.target from rfl, hp,
    settle_eq, hkept, hlevel]
  rfl

/-- Where the cycles of another turn can be counted, so can the turn and a reset. -/
theorem Sound.counters {m : Machine} (hsound : m.Sound)
    (hroom : m.bus.cycles.toNat + passCycles m.bus.cyclesPerNop < UInt64.size) :
    Counter.add? m.passes 1 = some (m.passes + 1) ∧
      Counter.add? m.watchdogResets 1 = some (m.watchdogResets + 1) := by
  have hpasses := hsound.passes_le
  have hresets := hsound.resets_le
  unfold passCycles at hroom
  constructor
  · apply if_pos
    rw [UInt64.toNat_one]
    omega
  · apply if_pos
    rw [UInt64.toNat_one]
    omega

/-- What the end of a turn reports as its length. -/
private theorem sub?_turn {m : Machine} (hsound : m.Sound)
    (hroom : m.bus.cycles.toNat + passCycles m.bus.cyclesPerNop < UInt64.size) :
    Counter.sub? (m.bus.view.turn m.target m.passes).clock.cycles m.bus.cycles =
      some (UInt64.ofNat (passCycles m.bus.cyclesPerNop)) := by
  obtain ⟨helapsed, -⟩ := View.elapsed_pass (v := m.bus.view.emit (.passStart m.passes))
    hsound.clock m.target hroom
  have hcycles : (m.bus.view.turn m.target m.passes).clock.cycles.toNat =
      m.bus.cycles.toNat + passCycles m.bus.cyclesPerNop := helapsed.cycles_eq
  rw [Counter.sub?_eq_some, hcycles, UInt64.toNat_ofNat_of_lt' (by omega)]

/-- A turn without a failed access is counted, and where the watchdog has asked for a reset
    meanwhile the machine starts over. -/
theorem exists_step {m : Machine} (hsound : m.Sound)
    (hroom : m.bus.cycles.toNat + passCycles m.bus.cyclesPerNop < UInt64.size)
    (hfault : (m.bus.view.turn m.target m.passes).fault = none) :
    ∃ b : Bus,
      b.view = ((m.bus.view.turn m.target m.passes).endPass m.bus.cyclesPerNop).release ∧
      m.step =
        if (m.bus.view.turn m.target m.passes).clock.resetRequested then
          { m with
            program := ⟨b, !m.program.level⟩
            passes := m.passes + 1
            watchdogResets := m.watchdogResets + 1 : Machine }.startOver .watchdog
        else .ok { m with program := ⟨b, !m.program.level⟩, passes := m.passes + 1 } := by
  obtain ⟨p, hp, hview, hlevel⟩ := (pass_takes_turn hsound.clock).ok hroom
  obtain ⟨hpasses, hresets⟩ := hsound.counters hroom
  have hkept : p.hardware.chip.fault = none := (congrArg View.fault hview).trans hfault
  have hused : Counter.sub? p.hardware.takeFault.2.cycles m.bus.cycles =
      some (UInt64.ofNat (passCycles m.bus.cyclesPerNop)) := by
    rw [← sub?_turn hsound hroom, ← hview]
    rfl
  have hasked : (p.hardware.takeFault.2.emit
      (.passEnd (UInt64.ofNat (passCycles m.bus.cyclesPerNop)))).takeResetRequest.1 =
        (m.bus.view.turn m.target m.passes).clock.resetRequested :=
    congrArg (fun v => v.clock.resetRequested) hview
  have hended : ((p.hardware.takeFault.2.emit
      (.passEnd (UInt64.ofNat (passCycles m.bus.cyclesPerNop)))).takeResetRequest.2).view =
        ((m.bus.view.turn m.target m.passes).endPass m.bus.cyclesPerNop).release := by
    rw [Bus.view_takeResetRequest, Bus.view_emit, Bus.view_takeFault, hview,
      View.settle_eq_self hfault, View.endPass]
  rw [step]
  simp only [show (m.withBus (m.bus.emit (.passStart m.passes))).target = m.target from rfl, hp,
    settle_eq, hkept, hlevel]
  unfold bus at hused hended hasked ⊢
  simp only [bind, Except.bind, pure, Except.pure, withBus, hpasses, hused, hresets]
  -- What the end of the turn is reported to is of no matter any more.
  generalize p.hardware.takeFault.2.emit _ = ended at hended hasked ⊢
  rw [hasked]
  cases (m.program.hardware.view.turn m.target m.passes).clock.resetRequested with
  | false => exact ⟨_, hended, rfl⟩
  | true =>
    refine ⟨_, ?_, rfl⟩
    rw [Bus.view_note, hended]

end Machine

end LedBench.Bench
