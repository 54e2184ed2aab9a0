import Mathlib.Algebra.Order.Ring.Nat
import LedBench.Proofs.Machine.Boot

namespace LedBench.Chip

open Bench Firmware

namespace Descriptor

/-- The watchdog's period in instruction cycles, before any bound on its size. -/
def exactPeriod (d : Descriptor) : Nat :=
  d.watchdog.periodUs.toNat * d.instructionClockHz.toNat / 1000000

/-- The watchdog runs under the firmware's configuration word. -/
def RunsWatchdog (d : Descriptor) (t : Target) : Prop :=
  d.watchdog.isEnabled t.config.value = true ∧ d.exactPeriod ≠ 0

instance (d : Descriptor) (t : Target) : Decidable (d.RunsWatchdog t) :=
  inferInstanceAs (Decidable (_ ∧ _))

/-- The turns of the loop from one reset by the watchdog to the next: as many as it takes to fill
    the period together with the initializer, and at least one. -/
def turnsPerReset (d : Descriptor) (t : Target) : Nat :=
  max 1 ((d.exactPeriod - t.startupCycles + (passCycles d.cyclesPerDelayIteration - 1)) /
    passCycles d.cyclesPerDelayIteration)

/-- The turn of the loop with this number, counted from one, ends in a reset by the watchdog. -/
def ResetsAfter (d : Descriptor) (t : Target) (turn : Nat) : Prop :=
  d.RunsWatchdog t ∧ d.turnsPerReset t ∣ turn

instance (d : Descriptor) (t : Target) (turn : Nat) : Decidable (d.ResetsAfter t turn) := by
  unfold ResetsAfter
  infer_instance

/-- The resets by the watchdog within so many turns. -/
def resetsWithin (d : Descriptor) (t : Target) (turns : Nat) : Nat :=
  if d.RunsWatchdog t then turns / d.turnsPerReset t else 0

theorem turnsPerReset_pos (d : Descriptor) (t : Target) : 0 < d.turnsPerReset t :=
  Nat.lt_of_lt_of_le Nat.one_pos (Nat.le_max_left ..)

/-- Initializer and turns fill the period from that many turns on. -/
theorem turnsPerReset_le_iff (d : Descriptor) (t : Target) {turns : Nat} (hpos : 0 < turns) :
    d.turnsPerReset t ≤ turns ↔
      d.exactPeriod ≤ t.startupCycles + turns * passCycles d.cyclesPerDelayIteration := by
  have hpass := passCycles_pos d.cyclesPerDelayIteration
  have hdiv : (d.exactPeriod - t.startupCycles + (passCycles d.cyclesPerDelayIteration - 1)) /
      passCycles d.cyclesPerDelayIteration ≤ turns ↔
        d.exactPeriod - t.startupCycles + (passCycles d.cyclesPerDelayIteration - 1) <
          (turns + 1) * passCycles d.cyclesPerDelayIteration := by
    rw [← Nat.div_lt_iff_lt_mul hpass, Nat.lt_succ_iff]
  rw [turnsPerReset, Nat.max_le, hdiv, Nat.succ_mul]
  omega

theorem resetsWithin_succ (d : Descriptor) (t : Target) (turns : Nat) :
    d.resetsWithin t (turns + 1) =
      d.resetsWithin t turns + if d.ResetsAfter t (turns + 1) then 1 else 0 := by
  unfold resetsWithin ResetsAfter
  by_cases hruns : d.RunsWatchdog t
  · simp only [hruns, true_and, if_true, Nat.succ_div]
  · simp [hruns]

/-- The count of turns since the last reset tells whether the next one ends in a reset. -/
theorem turnsPerReset_dvd_succ_iff (d : Descriptor) (t : Target) (turns : Nat) :
    d.turnsPerReset t ∣ turns + 1 ↔ d.turnsPerReset t ≤ turns % d.turnsPerReset t + 1 := by
  have hlt := Nat.mod_lt turns (d.turnsPerReset_pos t)
  have hsplit : turns + 1 =
      d.turnsPerReset t * (turns / d.turnsPerReset t) + (turns % d.turnsPerReset t + 1) := by
    rw [← Nat.add_assoc, Nat.div_add_mod]
  constructor
  · intro hdvd
    rw [hsplit] at hdvd
    exact Nat.le_of_dvd (Nat.succ_pos _) ((Nat.dvd_add_right (Nat.dvd_mul_right _ _)).mp hdvd)
  · intro hle
    rw [hsplit, show turns % d.turnsPerReset t + 1 = d.turnsPerReset t by omega]
    exact Nat.dvd_add (Nat.dvd_mul_right _ _) (Nat.dvd_refl _)

theorem succ_mod_turnsPerReset (d : Descriptor) (t : Target) (turns : Nat) :
    (turns + 1) % d.turnsPerReset t =
      if d.turnsPerReset t ∣ turns + 1 then 0 else turns % d.turnsPerReset t + 1 := by
  have hbefore := Nat.div_add_mod turns (d.turnsPerReset t)
  have hafter := Nat.div_add_mod (turns + 1) (d.turnsPerReset t)
  split
  · rename_i hdvd
    exact Nat.mod_eq_zero_of_dvd hdvd
  · rename_i hdvd
    rw [Nat.succ_div, if_neg hdvd, Nat.add_zero] at hafter
    omega

/-- The turns since the last reset by the watchdog, or since the boot. -/
def turnsSinceReset (d : Descriptor) (t : Target) (turns : Nat) : Nat :=
  if d.RunsWatchdog t then turns % d.turnsPerReset t else turns

/-- The next turn ends in a reset exactly when the period is over by then. -/
theorem resetsAfter_succ_iff (d : Descriptor) (t : Target) (turns : Nat) :
    d.ResetsAfter t (turns + 1) ↔ d.RunsWatchdog t ∧ d.exactPeriod ≤
      t.startupCycles + (d.turnsSinceReset t turns + 1) * passCycles d.cyclesPerDelayIteration := by
  unfold ResetsAfter turnsSinceReset
  refine and_congr_right fun hruns => ?_
  rw [if_pos hruns, turnsPerReset_dvd_succ_iff, turnsPerReset_le_iff d t (Nat.succ_pos _)]

theorem turnsSinceReset_succ (d : Descriptor) (t : Target) (turns : Nat) :
    d.turnsSinceReset t (turns + 1) =
      if d.ResetsAfter t (turns + 1) then 0 else d.turnsSinceReset t turns + 1 := by
  unfold ResetsAfter turnsSinceReset
  by_cases hruns : d.RunsWatchdog t
  · simp only [hruns, true_and, if_true, succ_mod_turnsPerReset]
  · simp [hruns]

/-- The cycles of a boot, so many turns of the loop and the resets among them. -/
def cyclesWithin (d : Descriptor) (t : Target) (turns : Nat) : Nat :=
  t.startupCycles + turns * passCycles d.cyclesPerDelayIteration +
    d.resetsWithin t turns * t.startupCycles

theorem cyclesWithin_succ (d : Descriptor) (t : Target) (turns : Nat) :
    d.cyclesWithin t (turns + 1) =
      d.cyclesWithin t turns + (passCycles d.cyclesPerDelayIteration +
        if d.ResetsAfter t (turns + 1) then t.startupCycles else 0) := by
  unfold cyclesWithin
  rw [resetsWithin_succ, Nat.succ_mul, Nat.add_mul]
  split <;> omega

theorem cyclesWithin_mono (d : Descriptor) (t : Target) {turns more : Nat} (h : turns ≤ more) :
    d.cyclesWithin t turns ≤ d.cyclesWithin t more := by
  induction h with
  | refl => exact Nat.le_refl _
  | step _ ih =>
    rw [cyclesWithin_succ]
    omega

/-- What the program does in the turn of the loop with this number. -/
def turnsAt (d : Descriptor) (t : Target) (turn : Nat) : List Turn :=
  if d.ResetsAfter t turn then [.pass, .restart .watchdog] else [.pass]

end Descriptor

end LedBench.Chip

namespace LedBench.Bench

open Chip Firmware

namespace Clock

/-- The watchdog has just started its period again and has asked for nothing. -/
structure Started (d : Descriptor) (t : Target) (k : Clock) : Prop where
  count_eq : k.watchdog.count = 0
  requested_eq : k.resetRequested = false
  enabled_eq : k.watchdog.enabled = decide (d.RunsWatchdog t)
  period_eq : k.watchdog.periodCycles.toNat = d.exactPeriod

/-- So long after a start a reset is asked for exactly if the watchdog runs and its period is
    over. -/
theorem Started.requested {d : Descriptor} {t : Target} {start k : Clock} {cycles : Nat}
    (h : start.Started d t) (helapsed : Elapsed start k cycles) :
    k.resetRequested = decide (d.RunsWatchdog t ∧ d.exactPeriod ≤ cycles) := by
  rw [helapsed.requested_eq, h.requested_eq, Bool.false_or, Watchdog.due, h.enabled_eq,
    h.period_eq, h.count_eq, Bool.decide_and]
  simp

theorem Started.reset {d : Descriptor} {t : Target} {start k : Clock} {cycles : Nat}
    (h : start.Started d t) (helapsed : Elapsed start k cycles) : k.reset.Started d t where
  count_eq := rfl
  requested_eq := rfl
  enabled_eq := helapsed.enabled_eq.trans h.enabled_eq
  period_eq := (congrArg UInt64.toNat helapsed.period_eq).trans h.period_eq

end Clock

theorem View.started_burned {d : Descriptor} {size : UInt64} (hsound : d.Sound size)
    (t : Target) : (View.burned t d size).clock.Started d t where
  count_eq := rfl
  requested_eq := rfl
  enabled_eq := by
    have hperiod : d.periodCycles.toNat = d.exactPeriod := hsound.periodCycles_toNat
    have henabled : (View.burned t d size).clock.watchdog.enabled =
        (d.watchdog.isEnabled t.config.value && decide (0 < d.periodCycles)) := rfl
    rw [henabled, Bool.eq_iff_iff, decide_eq_true_iff]
    simp [Descriptor.RunsWatchdog, UInt64.lt_iff_toNat_lt, hperiod, Nat.pos_iff_ne_zero]
  period_eq := hsound.periodCycles_toNat

namespace Machine

variable {t : Target} {d : Descriptor} {led : PinRef} {size : UInt64} {m : Machine} {turns : Nat}

/-- A machine that has done so many turns of the loop since its boot, and nothing else. -/
structure OnSchedule (t : Target) (d : Descriptor) (led : PinRef) (size : UInt64) (turns : Nat)
    (m : Machine) : Prop extends Ready t d led size m where
  passes_eq : m.passes.toNat = turns
  count_eq : m.watchdogResets.toNat = d.resetsWithin t turns
  cycles_eq : m.bus.cycles.toNat = d.cyclesWithin t turns
  elapsed : ∃ start : Clock, start.Started d t ∧ Clock.Elapsed start m.bus.clock
    (t.startupCycles + d.turnsSinceReset t turns * passCycles d.cyclesPerDelayIteration)

theorem Booted.onSchedule (hsound : d.Sound size) (h : m.Booted t d led size) :
    m.OnSchedule t d led size 0 where
  toReady := h.toReady
  passes_eq := by rw [h.passes_eq]; rfl
  count_eq := by simp [h.resets_eq, Descriptor.resetsWithin]
  cycles_eq := by simp [h.cycles_eq, Descriptor.cyclesWithin, Descriptor.resetsWithin]
  elapsed := by
    have hsince : d.turnsSinceReset t 0 = 0 := by simp [Descriptor.turnsSinceReset]
    rw [hsince, Nat.zero_mul, Nat.add_zero]
    exact ⟨_, View.started_burned hsound t, h.elapsed⟩

/-- The end of the next turn, as the watchdog counts it. -/
private theorem OnSchedule.exists_elapsed_turn (h : m.OnSchedule t d led size turns)
    (hroom : m.bus.cycles.toNat + passCycles m.bus.cyclesPerNop < UInt64.size) :
    ∃ start : Clock, start.Started d t ∧
      Clock.Elapsed start (m.bus.view.turn t m.passes).clock (t.startupCycles +
        (d.turnsSinceReset t turns + 1) * passCycles d.cyclesPerDelayIteration) := by
  obtain ⟨start, hstarted, helapsed⟩ := h.elapsed
  obtain ⟨hturn, -⟩ := View.elapsed_turn (v := m.bus.view) h.sound.clock t m.passes hroom
  have hall := helapsed.trans hturn
  rw [show m.bus.view.clock.cyclesPerNop = d.cyclesPerDelayIteration from h.cyclesPerNop_eq,
    Nat.add_assoc, ← Nat.succ_mul] at hall
  exact ⟨start, hstarted, hall⟩

theorem OnSchedule.expires_eq (h : m.OnSchedule t d led size turns)
    (hroom : m.bus.cycles.toNat + passCycles m.bus.cyclesPerNop < UInt64.size) :
    m.expires = decide (d.ResetsAfter t (turns + 1)) := by
  obtain ⟨start, hstarted, helapsed⟩ := h.exists_elapsed_turn hroom
  rw [← resetRequested_turn h.sound t hroom, hstarted.requested helapsed]
  exact decide_eq_decide.mpr (d.resetsAfter_succ_iff t turns).symm

/-- The clock after a step, as the watchdog counts it. -/
private theorem OnSchedule.exists_elapsed_step (h : m.OnSchedule t d led size turns)
    (hroom : m.bus.cycles.toNat + m.cost .step < UInt64.size) :
    ∃ start : Clock, start.Started d t ∧
      Clock.Elapsed start (m.bus.view.step t m.passes).clock (t.startupCycles +
        d.turnsSinceReset t (turns + 1) * passCycles d.cyclesPerDelayIteration) := by
  rw [cost_step, h.target_eq] at hroom
  have hpass : m.bus.cycles.toNat + passCycles m.bus.cyclesPerNop < UInt64.size :=
    Nat.lt_of_le_of_lt (by omega) hroom
  obtain ⟨start, hstarted, helapsed⟩ := h.exists_elapsed_turn hpass
  obtain ⟨hturn, hsound⟩ := View.elapsed_turn (v := m.bus.view) h.sound.clock t m.passes hpass
  have hexpires := h.expires_eq hpass
  rw [View.step, resetRequested_turn h.sound t hpass, hexpires, d.turnsSinceReset_succ]
  by_cases hresets : d.ResetsAfter t (turns + 1)
  · rw [if_pos hresets, if_pos (decide_eq_true hresets), Nat.zero_mul, Nat.add_zero]
    rw [hexpires, if_pos (decide_eq_true hresets)] at hroom
    obtain ⟨hrestart, -⟩ := View.elapsed_restart_turn (v := m.bus.view) h.sound.clock t m.passes
      (by rw [Nat.add_assoc]; exact hroom)
    exact ⟨_, hstarted.reset helapsed, hrestart⟩
  · rw [if_neg hresets, if_neg (by simp [hresets]), View.clock_endPass]
    exact ⟨start, hstarted, helapsed⟩

/-- One more step keeps to the schedule. -/
theorem OnSchedule.exists_step (h : m.OnSchedule t d led size turns)
    (hroom : d.cyclesWithin t (turns + 1) < UInt64.size) :
    ∃ m', m.perform .step = .ok m' ∧ m'.OnSchedule t d led size (turns + 1) ∧
      Command.turns m m' .step = d.turnsAt t (turns + 1) := by
  rw [d.cyclesWithin_succ, ← h.cycles_eq, ← h.cyclesPerNop_eq] at hroom
  have hexpires := h.expires_eq (Nat.lt_of_le_of_lt (by omega) hroom)
  have hcost : m.cost .step = passCycles m.bus.cyclesPerNop +
      if d.ResetsAfter t (turns + 1) then t.startupCycles else 0 := by
    rw [cost_step, hexpires, h.target_eq]
    simp
  rw [← hcost] at hroom
  obtain ⟨b, hview, hperform⟩ := h.exists_perform .step hroom
  have hturns : Command.turns m (m.after b .step) .step = d.turnsAt t (turns + 1) := by
    rw [turns_after, hexpires, Descriptor.turnsAt]
    simp
  obtain ⟨hpasses, hresets⟩ := h.sound.counters_after hroom b
  rw [hturns] at hpasses hresets
  refine ⟨_, hperform, ⟨h.toReady.after hroom hview, ?_, ?_, ?_, ?_⟩, hturns⟩
  · rw [hpasses, h.passes_eq, Descriptor.turnsAt]
    split <;> rfl
  · rw [hresets, h.count_eq, Descriptor.turnsAt, d.resetsWithin_succ]
    split <;> rfl
  · obtain ⟨-, hcycles⟩ := h.clock_perform .step hroom
    rw [bus_after, Bus.cycles_eq_of_view hview, hcycles, hcost, d.cyclesWithin_succ, h.cycles_eq,
      h.cyclesPerNop_eq]
  · rw [bus_after, Bus.clock_eq_of_view hview]
    exact h.exists_elapsed_step hroom

theorem OnSchedule.exists_run (h : m.OnSchedule t d led size turns) (more : Nat)
    (hroom : d.cyclesWithin t (turns + more) < UInt64.size) :
    ∃ m', m.run (List.replicate more .step) = .ok m' ∧
      m'.OnSchedule t d led size (turns + more) ∧
      m.turns (List.replicate more .step) =
        (List.range' (turns + 1) more).flatMap (d.turnsAt t) := by
  induction more generalizing m turns with
  | zero => exact ⟨m, rfl, h, rfl⟩
  | succ more ih =>
    rw [← Nat.add_assoc, Nat.add_right_comm] at hroom
    obtain ⟨m', hperform, hnext, hturns⟩ := h.exists_step
      (Nat.lt_of_le_of_lt (d.cyclesWithin_mono t (Nat.le_add_right _ _)) hroom)
    obtain ⟨m'', hrun, hlast, hrest⟩ := ih hnext hroom
    refine ⟨m'', ?_, ?_, ?_⟩
    · rw [List.replicate_succ, run, hperform]
      exact hrun
    · rw [← Nat.add_assoc, Nat.add_right_comm]
      exact hlast
    · rw [List.replicate_succ, Machine.turns, hperform, List.range'_succ, List.flatMap_cons]
      simp only [hturns, hrest]

/-- After a boot and so many steps the watchdog has reset the machine as often as its period asks
    for, each time at the end of a turn whose number the schedule names: with a period `P`, `C`
    cycles for a turn and `I` for the initializer, of every `max 1 ⌈(P - I) / C⌉` turns the last.
    The run comes to its end if these cycles together are a 64-bit number. -/
theorem watchdogResets_run_steps {t : Target} {d : Descriptor} {led : PinRef} {m : Machine}
    (hcheck : d.check = .ok ()) (hboot : powerUp t d led = .ok m) (n : Nat)
    (hroom : d.cyclesWithin t n < UInt64.size) :
    d.periodCycles.toNat = d.exactPeriod ∧
      ∃ m', m.run (List.replicate n .step) = .ok m' ∧
        m'.passes.toNat = n ∧
        m'.bus.cycles.toNat = d.cyclesWithin t n ∧
        m'.watchdogResets.toNat = d.resetsWithin t n ∧
        m.turns (List.replicate n .step) = (List.range' 1 n).flatMap (d.turnsAt t) := by
  obtain ⟨size, hsound, hbooted⟩ := booted_of_powerUp hcheck hboot
  obtain ⟨m', hrun, hlast, hturns⟩ := (hbooted.onSchedule hsound).exists_run n
    (by rwa [Nat.zero_add])
  rw [Nat.zero_add] at hlast hturns
  exact ⟨hsound.periodCycles_toNat, m', hrun, hlast.passes_eq, hlast.cycles_eq, hlast.count_eq,
    hturns⟩

/-- With a period of 4000 cycles the watchdog ends every second turn: the first leaves 994 cycles
    of it. -/
theorem watchdogResets_run_steps_short_period :
    ∃ m m', powerUp .pic16f1823 (.guarded 4000) ⟨"portc", 0⟩ = .ok m ∧
      m.run (List.replicate 3 .step) = .ok m' ∧ m'.watchdogResets.toNat = 1 ∧
      m.turns (List.replicate 3 .step) = [.pass, .pass, .restart .watchdog, .pass] := by
  have hbooted : ∃ m, powerUp .pic16f1823 (.guarded 4000) ⟨"portc", 0⟩ = .ok m :=
    exists_powerUp (by decide +kernel)
  obtain ⟨m, hboot⟩ := hbooted
  obtain ⟨-, m', hrun, -, -, hcount, hturns⟩ :=
    watchdogResets_run_steps (by decide +kernel) hboot 3 (by decide)
  exact ⟨m, m', hboot, hrun, hcount, hturns⟩

end Machine

end LedBench.Bench
