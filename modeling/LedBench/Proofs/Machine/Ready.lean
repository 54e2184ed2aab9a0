import LedBench.Proofs.Bus.Build
import LedBench.Proofs.Chip.Sound
import LedBench.Proofs.Machine.Turn

namespace LedBench.Bench

open Chip Firmware

namespace View

/-- The view after a turn of the loop, and after the reset in which the watchdog may end it. -/
def step (t : Target) (passes : UInt64) (v : View) : View :=
  if (v.turn t passes).clock.resetRequested then
    ((v.turn t passes).endPass v.clock.cyclesPerNop).release.restart t .watchdog
  else (v.turn t passes).endPass v.clock.cyclesPerNop

def perform (t : Target) (passes : UInt64) (v : View) : Command → View
  | .step => v.step t passes
  | .reset => v.restart t .powerOn
  | .burn word => v.burn word
  | .stop => v.emit .stop

theorem build_restart (v : View) (t : Target) (cause : ResetCause) :
    (v.restart t cause).build = v.build := by
  rw [restart, build_startup, build_reset, build_emit]

theorem build_turn (v : View) (t : Target) (passes : UInt64) :
    (v.turn t passes).build = v.build := by
  rw [turn, build_pass, build_emit]

theorem build_endPass (v : View) (cyclesPerNop : UInt64) :
    (v.endPass cyclesPerNop).build = v.build := rfl

theorem build_perform (v : View) (t : Target) (passes : UInt64) (c : Command) :
    (v.perform t passes c).build = v.build := by
  cases c with
  | step =>
    rw [perform, step]
    split
    · rw [build_restart, build_release, build_endPass, build_turn]
    · rw [build_endPass, build_turn]
  | reset => exact build_restart v t .powerOn
  | burn word => exact build_burn v word
  | stop => rfl

/-- Where the initializer finds all its registers, a restart brings no fault. -/
theorem fault_restart {v : View} {t : Target} (hmaps : v.build.decoding.startupViolation? t = none)
    (cause : ResetCause) : (v.restart t cause).fault = v.fault := by
  have hreset : ((v.emit (.reset cause)).reset cause).fault = v.fault := rfl
  rw [restart, fault_startup, build_reset, build_emit, hmaps, hreset]
  cases v.fault <;> rfl

theorem fault_turn {v : View} {t : Target} (hmaps : v.build.decoding.startupViolation? t = none)
    (passes : UInt64) : (v.turn t passes).fault = v.fault := by
  have hled : v.build.decoding.violation? t.led.port = none :=
    Decoding.violation?_eq_none_iff.mpr
      (Decoding.startupViolation?_eq_none_iff.mp hmaps _ t.setBits_mem_startup)
  rw [turn, fault_pass, build_emit, hled, fault_emit]
  cases v.fault <;> rfl

theorem fault_perform {v : View} {t : Target}
    (hmaps : v.build.decoding.startupViolation? t = none) (passes : UInt64) (c : Command) :
    (v.perform t passes c).fault = v.fault := by
  cases c with
  | step =>
    rw [perform, step]
    split
    · rw [fault_restart, fault_release, fault_endPass, fault_turn hmaps]
      rw [build_release, build_endPass, build_turn]
      exact hmaps
    · rw [fault_endPass, fault_turn hmaps]
  | reset => exact fault_restart hmaps .powerOn
  | burn word => rfl
  | stop => rfl

/-- A restart is seen by the watchdog as the cycles of the initializer, counted from nothing. -/
theorem elapsed_restart {v : View} (hsound : v.clock.Sound) (t : Target) (cause : ResetCause)
    (hroom : v.clock.cycles.toNat + t.startupCycles < UInt64.size) :
    Clock.Elapsed v.clock.reset (v.restart t cause).clock t.startupCycles ∧
      (v.restart t cause).clock.Sound :=
  elapsed_startup (v := (v.emit (.reset cause)).reset cause) hsound.reset t hroom

theorem elapsed_turn {v : View} (hsound : v.clock.Sound) (t : Target) (passes : UInt64)
    (hroom : v.clock.cycles.toNat + passCycles v.clock.cyclesPerNop < UInt64.size) :
    Clock.Elapsed v.clock (v.turn t passes).clock (passCycles v.clock.cyclesPerNop) ∧
      (v.turn t passes).clock.Sound :=
  elapsed_pass (v := v.emit (.passStart passes)) hsound t hroom

theorem clock_release_endPass (v : View) (cyclesPerNop : UInt64) :
    (v.endPass cyclesPerNop).release.clock = v.clock.release := by
  rw [clock_release, clock_endPass]

/-- The reset that ends a turn discards what the watchdog counted in it. -/
theorem elapsed_restart_turn {v : View} (hsound : v.clock.Sound) (t : Target) (passes : UInt64)
    (hroom : v.clock.cycles.toNat + passCycles v.clock.cyclesPerNop + t.startupCycles <
      UInt64.size) :
    Clock.Elapsed (v.turn t passes).clock.reset
        (((v.turn t passes).endPass v.clock.cyclesPerNop).release.restart t .watchdog).clock
        t.startupCycles ∧
      (((v.turn t passes).endPass v.clock.cyclesPerNop).release.restart t .watchdog).clock.Sound
    := by
  obtain ⟨hturn, hsound'⟩ := elapsed_turn hsound t passes (Nat.lt_of_le_of_lt (by omega) hroom)
  have hclock := clock_release_endPass (v.turn t passes) v.clock.cyclesPerNop
  have hreset : ((v.turn t passes).endPass v.clock.cyclesPerNop).release.clock.reset =
      (v.turn t passes).clock.reset := by
    rw [hclock, Clock.release, Clock.reset, Clock.reset]
  rw [← hreset]
  apply elapsed_restart
  · rw [hclock]
    exact hsound'.release
  · rw [hclock, Clock.release, hturn.cycles_eq]
    exact hroom

end View

namespace Machine

/-- A machine as a boot leaves it and every command keeps it: its counters are sound, it is built as
    described, and something answers wherever its program reaches. -/
structure Built (t : Target) (d : Descriptor) (led : PinRef) (size : UInt64) (m : Machine) :
    Prop where
  sound : m.Sound
  target_eq : m.target = t
  led_eq : m.led = led
  build_eq : m.bus.view.build = .ofDescriptor d size
  maps : (Build.ofDescriptor d size).decoding.startupViolation? t = none

/-- A machine in service: it is built so, and no failed access is pending. -/
structure Ready (t : Target) (d : Descriptor) (led : PinRef) (size : UInt64) (m : Machine) : Prop
    extends Built t d led size m where
  fault_eq : m.bus.view.fault = none

variable {t : Target} {d : Descriptor} {led : PinRef} {size : UInt64} {m : Machine}

/-- Whether a turn ends in a reset by the watchdog is known beforehand. -/
theorem resetRequested_turn (hsound : m.Sound) (t : Target)
    (hroom : m.bus.cycles.toNat + passCycles m.bus.cyclesPerNop < UInt64.size) :
    (m.bus.view.turn t m.passes).clock.resetRequested = m.expires :=
  (View.elapsed_turn (v := m.bus.view) hsound.clock t m.passes hroom).1.requested_eq

/-- The machine after a command that leaves its bus so. -/
def after (m : Machine) (b : Bus) : Command → Machine
  | .step =>
    { m with
      program := ⟨b, m.expires || !m.program.level⟩
      passes := m.passes + 1
      watchdogResets := if m.expires then m.watchdogResets + 1 else m.watchdogResets }
  | .reset => { m with program := ⟨b, true⟩ }
  | .burn _ => m.withBus b
  | .stop => m.withBus b

theorem bus_after (m : Machine) (b : Bus) (c : Command) : (m.after b c).bus = b := by
  cases c <;> rfl

theorem turns_after (m : Machine) (b : Bus) (c : Command) :
    c.turns m (m.after b c) =
      match c with
      | .step => if m.expires then [.pass, .restart .watchdog] else [.pass]
      | .reset => [.restart .powerOn]
      | .burn _ => []
      | .stop => [] := by
  cases c with
  | step => cases hexpires : m.expires <;> simp [Command.turns, after, hexpires]
  | reset => rfl
  | burn word => rfl
  | stop => rfl

theorem level_after (m : Machine) (b : Bus) (c : Command) :
    (m.after b c).program.level =
      (c.turns m (m.after b c)).foldl Turn.level m.program.level := by
  rw [turns_after]
  cases c with
  | step => cases hexpires : m.expires <;> simp [after, Turn.level, hexpires]
  | reset => rfl
  | burn word => rfl
  | stop => rfl

theorem cost_step (m : Machine) :
    m.cost .step =
      passCycles m.bus.cyclesPerNop + if m.expires then m.target.startupCycles else 0 := rfl

/-- A counter with room for a step has room for its turn of the loop. -/
theorem room_turn (hroom : m.bus.cycles.toNat + m.cost .step < UInt64.size) :
    m.bus.cycles.toNat + passCycles m.bus.cyclesPerNop < UInt64.size := by
  rw [cost_step, ← Nat.add_assoc] at hroom
  exact Nat.lt_of_le_of_lt (Nat.le_add_right _ _) hroom

/-- The view after a step: after the end of a turn, or after the reset in which that ends. -/
theorem view_perform_step (hsound : m.Sound) (t : Target)
    (hroom : m.bus.cycles.toNat + m.cost .step < UInt64.size) :
    m.bus.view.perform t m.passes .step =
      if m.expires then
        ((m.bus.view.turn t m.passes).endPass m.bus.cyclesPerNop).release.restart t .watchdog
      else (m.bus.view.turn t m.passes).endPass m.bus.cyclesPerNop := by
  rw [View.perform, View.step, resetRequested_turn hsound t (room_turn hroom)]
  rfl

/-- A command takes its cost and leaves sound counters. -/
theorem Built.clock_perform (h : m.Built t d led size) (c : Command)
    (hroom : m.bus.cycles.toNat + m.cost c < UInt64.size) :
    (m.bus.view.perform t m.passes c).clock.Sound ∧
      (m.bus.view.perform t m.passes c).clock.cycles.toNat = m.bus.cycles.toNat + m.cost c := by
  cases c with
  | step =>
    obtain ⟨hpass, hsound⟩ :=
      View.elapsed_turn (v := m.bus.view) h.sound.clock t m.passes (room_turn hroom)
    rw [view_perform_step h.sound t hroom]
    rw [cost_step, h.target_eq] at hroom ⊢
    cases hexpires : m.expires with
    | false =>
      rw [if_neg (by simp), if_neg (by simp), View.clock_endPass, hpass.cycles_eq]
      exact ⟨hsound, rfl⟩
    | true =>
      rw [hexpires, if_pos rfl, ← Nat.add_assoc] at hroom
      obtain ⟨hrestart, hsound'⟩ := View.elapsed_restart_turn (v := m.bus.view) h.sound.clock t
        m.passes hroom
      rw [if_pos rfl, if_pos rfl]
      refine ⟨hsound', hrestart.cycles_eq.trans ?_⟩
      rw [Clock.reset, hpass.cycles_eq, Nat.add_assoc]
      rfl
  | reset =>
    obtain ⟨helapsed, hsound⟩ := View.elapsed_restart (v := m.bus.view) h.sound.clock t .powerOn
      (by rwa [cost, h.target_eq] at hroom)
    refine ⟨hsound, ?_⟩
    rw [cost, h.target_eq]
    exact helapsed.cycles_eq
  | burn word => exact ⟨h.sound.clock.burn word, rfl⟩
  | stop => exact ⟨h.sound.clock, rfl⟩

private theorem toNat_succ {n : UInt64} (h : n.toNat + 1 < UInt64.size) :
    (n + 1).toNat = n.toNat + 1 := by
  rw [UInt64.toNat_add]
  exact Nat.mod_eq_of_lt h

/-- The counters of turns and of resets by the watchdog count what they say. -/
theorem Sound.counters_after (h : m.Sound) {c : Command}
    (hroom : m.bus.cycles.toNat + m.cost c < UInt64.size) (b : Bus) :
    (m.after b c).passes.toNat =
        m.passes.toNat + (c.turns m (m.after b c)).count .pass ∧
      (m.after b c).watchdogResets.toNat =
        m.watchdogResets.toNat + (c.turns m (m.after b c)).count (.restart .watchdog) := by
  have hpasses := h.passes_le
  have hresets := h.resets_le
  rw [turns_after]
  cases c with
  | step =>
    rw [cost_step, passCycles] at hroom
    have hnext : (m.passes + 1).toNat = m.passes.toNat + 1 :=
      toNat_succ (Nat.lt_of_le_of_lt (by omega) hroom)
    have hnext' : (m.watchdogResets + 1).toNat = m.watchdogResets.toNat + 1 :=
      toNat_succ (Nat.lt_of_le_of_lt (by omega) hroom)
    cases hexpires : m.expires with
    | false => simp [Machine.after, hexpires, hnext]
    | true => simp [Machine.after, hexpires, hnext, hnext']
  | reset => exact ⟨rfl, rfl⟩
  | burn word => exact ⟨rfl, rfl⟩
  | stop => exact ⟨rfl, rfl⟩

private theorem Sound.after (h : m.Sound) {c : Command} {b : Bus}
    (hroom : m.bus.cycles.toNat + m.cost c < UInt64.size) (hclock : b.clock.Sound)
    (hcycles : b.cycles.toNat = m.bus.cycles.toNat + m.cost c) : (m.after b c).Sound := by
  have hpasses := h.passes_le
  have hresets := h.resets_le
  obtain ⟨hpasses', hresets'⟩ := h.counters_after hroom b
  rw [turns_after] at hpasses' hresets'
  refine ⟨by rwa [bus_after], ?_, ?_⟩
  · rw [bus_after, hcycles, hpasses']
    cases c with
    | step =>
      rw [cost_step, passCycles]
      cases m.expires <;> simp <;> omega
    | reset => exact Nat.le_trans hpasses (Nat.le_add_right _ _)
    | burn word => exact hpasses
    | stop => exact hpasses
  · rw [hpasses', hresets']
    cases c with
    | step => cases m.expires <;> simp <;> omega
    | reset => exact hresets
    | burn word => exact hresets
    | stop => exact hresets

theorem Ready.after (h : m.Ready t d led size) {c : Command} {b : Bus}
    (hroom : m.bus.cycles.toNat + m.cost c < UInt64.size)
    (hview : b.view = m.bus.view.perform t m.passes c) :
    (m.after b c).Ready t d led size := by
  obtain ⟨hclock, hcycles⟩ := h.clock_perform c hroom
  rw [← hview] at hclock hcycles
  have hmaps : m.bus.view.build.decoding.startupViolation? t = none := h.build_eq ▸ h.maps
  refine ⟨⟨h.sound.after hroom hclock hcycles, ?_, ?_, ?_, h.maps⟩, ?_⟩
  · cases c <;> exact h.target_eq
  · cases c <;> exact h.led_eq
  · rw [bus_after, hview, View.build_perform, h.build_eq]
  · rw [bus_after, hview, View.fault_perform hmaps, h.fault_eq]

/-- A restart of a built machine reports the fault that was pending, if one was. Either way the
    machine it leaves is in service. -/
theorem Built.exists_startOver (h : m.Built t d led size) (cause : ResetCause)
    (hroom : m.bus.cycles.toNat + t.startupCycles < UInt64.size) :
    ∃ b : Bus, b.view = (m.bus.view.restart t cause).settle ∧
      m.startOver cause =
        match m.bus.view.fault with
        | none => .ok { m with program := ⟨b, true⟩ }
        | some addr =>
          .error ⟨.refused (.memoryViolation addr), { m with program := ⟨b, true⟩ }⟩ := by
  have htarget := h.target_eq
  subst htarget
  have hmaps : m.bus.view.build.decoding.startupViolation? m.target = none := h.build_eq ▸ h.maps
  obtain ⟨b, hview, hstart⟩ := Machine.exists_startOver h.sound.clock cause hroom
  rw [View.fault_restart hmaps] at hstart
  exact ⟨b, hview, hstart⟩

/-- A restart that finds no fault pending succeeds, where the initializer finds its registers. -/
private theorem exists_startOver_ok {m : Machine} (hsound : m.bus.clock.Sound)
    (hmaps : m.bus.view.build.decoding.startupViolation? m.target = none)
    (hfault : m.bus.view.fault = none) (cause : ResetCause)
    (hroom : m.bus.cycles.toNat + m.target.startupCycles < UInt64.size) :
    ∃ b : Bus, b.view = m.bus.view.restart m.target cause ∧
      m.startOver cause = .ok { m with program := ⟨b, true⟩ } := by
  obtain ⟨b, hview, hstart⟩ := Machine.exists_startOver hsound cause hroom
  have hnone : (m.bus.view.restart m.target cause).fault = none := by
    rw [View.fault_restart hmaps, hfault]
  rw [View.settle_eq_self hnone] at hview
  rw [hnone] at hstart
  exact ⟨b, hview, hstart⟩

/-- A turn of the loop in service, up to the point where the watchdog may end it. -/
private theorem Ready.exists_turn (h : m.Ready t d led size)
    (hroom : m.bus.cycles.toNat + passCycles m.bus.cyclesPerNop < UInt64.size) :
    ∃ b : Bus,
      b.view = ((m.bus.view.turn t m.passes).endPass m.bus.cyclesPerNop).release ∧
      b.clock.Sound ∧
      b.cycles.toNat = m.bus.cycles.toNat + passCycles m.bus.cyclesPerNop ∧
      m.step =
        if m.expires then
          { m with
            program := ⟨b, !m.program.level⟩
            passes := m.passes + 1
            watchdogResets := m.watchdogResets + 1 : Machine }.startOver .watchdog
        else .ok { m with program := ⟨b, !m.program.level⟩, passes := m.passes + 1 } := by
  have hmaps : m.bus.view.build.decoding.startupViolation? t = none := h.build_eq ▸ h.maps
  have hfault : (m.bus.view.turn m.target m.passes).fault = none := by
    rw [h.target_eq, View.fault_turn hmaps, h.fault_eq]
  obtain ⟨b, hview, hstep⟩ := Machine.exists_step h.sound hroom hfault
  rw [resetRequested_turn h.sound m.target hroom] at hstep
  rw [h.target_eq] at hview
  obtain ⟨helapsed, hsound⟩ := View.elapsed_turn (v := m.bus.view) h.sound.clock t m.passes hroom
  have hclock : b.clock = (m.bus.view.turn t m.passes).clock.release := by
    rw [Bus.clock_eq_of_view hview, View.clock_release_endPass]
  have hkept : b.cycles = (m.bus.view.turn t m.passes).clock.cycles := by
    rw [show b.cycles = b.clock.cycles from rfl, hclock, Clock.release]
  have hcycles : b.cycles.toNat = m.bus.cycles.toNat + passCycles m.bus.cyclesPerNop := by
    rw [hkept, helapsed.cycles_eq]
    rfl
  exact ⟨b, hview, hclock ▸ hsound.release, hcycles, hstep⟩

private theorem Ready.exists_step (h : m.Ready t d led size)
    (hroom : m.bus.cycles.toNat + m.cost .step < UInt64.size) :
    ∃ b : Bus, b.view = m.bus.view.step t m.passes ∧ m.step = .ok (m.after b .step) := by
  have htarget := h.target_eq
  subst htarget
  have hmaps : m.bus.view.build.decoding.startupViolation? m.target = none := h.build_eq ▸ h.maps
  rw [cost_step] at hroom
  have hpass : m.bus.cycles.toNat + passCycles m.bus.cyclesPerNop < UInt64.size :=
    Nat.lt_of_le_of_lt (by omega) hroom
  obtain ⟨b, hview, hsound, hcycles, hstep⟩ := h.exists_turn hpass
  have hrequested := resetRequested_turn h.sound m.target hpass
  rw [View.step, hrequested, hstep]
  cases hexpires : m.expires with
  | false =>
    rw [View.release_eq_self (by rw [View.clock_endPass, hrequested, hexpires])] at hview
    refine ⟨b, hview, ?_⟩
    simp [Machine.after, hexpires]
  | true =>
    rw [hexpires, if_pos rfl] at hroom
    have hbuild : b.view.build = m.bus.view.build := by
      rw [hview, View.build_release, View.build_endPass, View.build_turn]
    have hfault : b.view.fault = none := by
      rw [hview, View.fault_release, View.fault_endPass, View.fault_turn hmaps, h.fault_eq]
    obtain ⟨b', hview', hstart⟩ := exists_startOver_ok
      (m := { m with
        program := ⟨b, !m.program.level⟩
        passes := m.passes + 1
        watchdogResets := m.watchdogResets + 1 })
      hsound (hbuild ▸ hmaps) hfault .watchdog (by
        change b.cycles.toNat + m.target.startupCycles < _
        omega)
    refine ⟨b', ?_, ?_⟩
    · rw [if_pos rfl, show m.bus.view.clock.cyclesPerNop = m.bus.cyclesPerNop from rfl, ← hview]
      exact hview'
    · rw [if_pos rfl, hstart]
      simp only [Machine.after, hexpires, if_true, Bool.true_or]

private theorem Ready.step_trap (h : m.Ready t d led size)
    (hfull : UInt64.size ≤ m.bus.cycles.toNat + m.cost .step) :
    ∃ s, m.step = .error ⟨.trap, s⟩ := by
  by_cases hpass : m.bus.cycles.toNat + passCycles m.bus.cyclesPerNop < UInt64.size
  · obtain ⟨b, _, hsound, hcycles, hstep⟩ := h.exists_turn hpass
    rw [cost_step] at hfull
    cases hexpires : m.expires with
    | false =>
      rw [hexpires, if_neg (by simp), Nat.add_zero] at hfull
      exact absurd hpass (Nat.not_lt.mpr hfull)
    | true =>
      rw [hexpires, if_pos rfl] at hfull
      rw [hstep, hexpires, if_pos rfl]
      refine startOver_trap ?_ .watchdog ?_
      · exact hsound
      · change _ ≤ b.cycles.toNat + m.target.startupCycles
        omega
  · exact Machine.step_trap h.sound (Nat.not_lt.mp hpass)

/-- In service every command succeeds for which the cycle counter has room. -/
theorem Ready.exists_perform (h : m.Ready t d led size) (c : Command)
    (hroom : m.bus.cycles.toNat + m.cost c < UInt64.size) :
    ∃ b : Bus, b.view = m.bus.view.perform t m.passes c ∧ m.perform c = .ok (m.after b c) := by
  cases c with
  | step => exact h.exists_step hroom
  | reset =>
    have hmaps : m.bus.view.build.decoding.startupViolation? m.target = none := by
      rw [h.target_eq, h.build_eq]
      exact h.maps
    obtain ⟨b, hview, hok⟩ := exists_startOver_ok h.sound.clock hmaps h.fault_eq .powerOn hroom
    rw [h.target_eq] at hview
    exact ⟨b, hview, hok⟩
  | burn word => exact ⟨m.bus.burn word, Bus.view_burn _ _, rfl⟩
  | stop => exact ⟨m.bus.emit .stop, Bus.view_emit _ _, rfl⟩

/-- A command that succeeds has taken its cost. -/
theorem Ready.cycles_of_perform (h : m.Ready t d led size) {c : Command}
    (hroom : m.bus.cycles.toNat + m.cost c < UInt64.size) {m' : Machine}
    (hperform : m.perform c = .ok m') :
    m'.bus.cycles.toNat = m.bus.cycles.toNat + m.cost c := by
  obtain ⟨b, hview, hafter⟩ := h.exists_perform c hroom
  obtain rfl : m.after b c = m' := Except.ok.inj (hafter.symm.trans hperform)
  rw [bus_after, Bus.cycles_eq_of_view hview]
  exact (h.clock_perform c hroom).2

theorem Ready.perform_trap (h : m.Ready t d led size) {c : Command}
    (hfull : UInt64.size ≤ m.bus.cycles.toNat + m.cost c) :
    ∃ s, m.perform c = .error ⟨.trap, s⟩ := by
  have hcycles := m.bus.cycles.toNat_lt
  cases c with
  | step => exact h.step_trap hfull
  | reset => exact startOver_trap h.sound.clock .powerOn hfull
  | burn word => exact absurd hcycles (Nat.not_lt.mpr hfull)
  | stop => exact absurd hcycles (Nat.not_lt.mpr hfull)

/-- In service a run comes to its end exactly when no command overflows the cycle counter. -/
theorem Ready.fits_iff (h : m.Ready t d led size) {cmds : List Command} :
    m.Fits cmds ↔ ∃ m', m.run cmds = .ok m' := by
  induction cmds generalizing m with
  | nil => exact ⟨fun _ => ⟨m, rfl⟩, fun _ => trivial⟩
  | cons c rest ih =>
    rw [Fits, run]
    by_cases hroom : m.bus.cycles.toNat + m.cost c < UInt64.size
    · obtain ⟨b, hview, hperform⟩ := h.exists_perform c hroom
      rw [hperform]
      simp only [hroom, true_and, Except.ok.injEq, forall_eq']
      exact ih (h.after hroom hview)
    · obtain ⟨s, htrap⟩ := h.perform_trap (Nat.not_lt.mp hroom)
      rw [htrap]
      simp [hroom]

theorem Built.decoding_eq (h : m.Built t d led size) :
    m.bus.contents.decoding = (Build.ofDescriptor d size).decoding :=
  congrArg Build.decoding h.build_eq

theorem Built.ports_eq (h : m.Built t d led size) : m.bus.contents.decoding.ports = d.ports :=
  congrArg Decoding.ports h.decoding_eq

theorem Built.cyclesPerNop_eq (h : m.Built t d led size) :
    m.bus.cyclesPerNop = d.cyclesPerDelayIteration :=
  congrArg Build.cyclesPerNop h.build_eq

/-- No command costs more than a turn of the loop and the initializer. -/
theorem Ready.fits_of_room (h : m.Ready t d led size) {cmds : List Command}
    (hroom : m.bus.cycles.toNat +
      cmds.length * (passCycles d.cyclesPerDelayIteration + t.startupCycles) < UInt64.size) :
    m.Fits cmds := by
  induction cmds generalizing m with
  | nil => trivial
  | cons c rest ih =>
    have hcost : m.cost c ≤ passCycles d.cyclesPerDelayIteration + t.startupCycles := by
      rw [← h.cyclesPerNop_eq, ← h.target_eq]
      cases c with
      | step =>
        rw [cost_step]
        split <;> omega
      | reset => exact Nat.le_add_left _ _
      | burn word => exact Nat.zero_le _
      | stop => exact Nat.zero_le _
    rw [List.length_cons, Nat.succ_mul] at hroom
    have hfirst : m.bus.cycles.toNat + m.cost c < UInt64.size := Nat.lt_of_le_of_lt (by omega) hroom
    refine ⟨hfirst, ?_⟩
    intro m' hperform
    obtain ⟨b, hview, hafter⟩ := h.exists_perform c hfirst
    obtain rfl : m.after b c = m' := Except.ok.inj (hafter.symm.trans hperform)
    apply ih (h.after hfirst hview)
    rw [h.cycles_of_perform hfirst hperform]
    omega

end Machine

end LedBench.Bench
