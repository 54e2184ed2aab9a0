import LedBench.Proofs.Machine.Boot
import LedBench.Run.Simulation

namespace LedBench.Bench

open Chip Firmware

namespace Machine

variable {t : Target} {d : Descriptor} {led : PinRef} {size : UInt64} {m : Machine}

/-- A boot asks for the LED's port. -/
theorem exists_port_of_powerUp (hboot : powerUp t d led = .ok m) :
    ∃ l, d.port? led.port = some l := by
  cases hport : d.port? led.port with
  | some l => exact ⟨l, rfl⟩
  | none =>
    unfold powerUp boot at hboot
    simp only [hport] at hboot
    split at hboot
    · cases hboot
    split at hboot
    · cases hboot
    · rename_i hmachine
      split at hmachine
      · cases hmachine
      split at hmachine <;> cases hmachine

/-- The LED's level can be asked for as long as the ports are those that are described. -/
theorem exists_ledLevel (hled : m.led = led) (hports : m.bus.contents.decoding.ports = d.ports)
    {l : PortLayout} (hport : d.port? led.port = some l) (hbit : led.bit < 8) :
    ∃ level, m.ledLevel = .ok level := by
  rw [Descriptor.port?, ← hports] at hport
  obtain ⟨q, hq, -⟩ := Contents.exists_port?_of_layout hport
  rw [ledLevel, hled, Bus.pinLevel, hq]
  exact ⟨_, if_pos hbit⟩

theorem Built.exists_ledLevel (h : m.Built t d led size) {l : PortLayout}
    (hport : d.port? led.port = some l) (hbit : led.bit < 8) : ∃ level, m.ledLevel = .ok level :=
  Machine.exists_ledLevel h.led_eq h.ports_eq hport hbit

/-- A snapshot fails only for want of the LED's level. -/
theorem exists_capture {level : Bool} (h : m.ledLevel = .ok level) :
    ∃ s, Snapshot.capture m = .ok s := by
  rw [Snapshot.capture, h]
  exact ⟨_, rfl⟩

theorem Ready.exists_run (h : m.Ready t d led size) {cmds : List Command} (hfits : m.Fits cmds) :
    ∃ m', m.run cmds = .ok m' ∧ m'.Ready t d led size := by
  refine exists_run_of_step (I := fun _ m => m.Ready t d led size) ?_ h hfits
  intro done m c h hroom
  obtain ⟨b, hview, hperform⟩ := h.exists_perform c hroom
  exact ⟨m.after b c, hperform, h.after hroom hview⟩

/-- In service a step either succeeds or runs out of cycles to count. -/
theorem Ready.step_cases (h : m.Ready t d led size) :
    (∃ m', m.step = .ok m' ∧ m'.Ready t d led size) ∨ ∃ s, m.step = .error ⟨.trap, s⟩ := by
  by_cases hroom : m.bus.cycles.toNat + m.cost .step < UInt64.size
  · obtain ⟨b, hview, hperform⟩ := h.exists_perform .step hroom
    exact .inl ⟨m.after b .step, hperform, h.after hroom hview⟩
  · exact .inr (h.perform_trap (c := .step) (Nat.not_lt.mp hroom))

/-- Nothing that leaves time, registers and faults alone takes a machine out of service. -/
theorem Ready.withBus (h : m.Ready t d led size) {b : Bus} (hclock : b.clock = m.bus.clock)
    (hcontents : b.contents = m.bus.contents) (hfault : b.chip.fault = m.bus.chip.fault) :
    (m.withBus b).Ready t d led size := by
  have hcycles : b.cycles = m.bus.cycles := congrArg Clock.cycles hclock
  have hbuild : b.view.build = m.bus.view.build := by
    simp only [Bus.view, View.build, hclock, hcontents]
  refine ⟨⟨⟨?_, ?_, h.sound.resets_le⟩, h.target_eq, h.led_eq, hbuild.trans h.build_eq, h.maps⟩,
    hfault.trans h.fault_eq⟩
  · change b.clock.Sound
    rw [hclock]
    exact h.sound.clock
  · change m.passes.toNat ≤ b.cycles.toNat
    rw [hcycles]
    exact h.sound.passes_le

/-- Neither does a note in the log. -/
theorem Ready.note (h : m.Ready t d led size) (n : Note) :
    (m.withBus (m.bus.note n)).Ready t d led size := h.withBus rfl rfl rfl

end Machine

end LedBench.Bench

namespace LedBench.Run

open Bench Chip Firmware

variable {t : Target} {d : Descriptor} {led : PinRef} {size : UInt64}

/-- The passes of a machine in service end at a limit. -/
theorem reason_of_runPasses {m : Machine} (h : m.Ready t d led size) {maxCycles : Option UInt64}
    {passes : Nat} {e : Ending} (hrun : runPasses maxCycles passes m = .ok e) :
    e.reason ≠ .memoryViolation ∧ e.fault = none := by
  induction passes generalizing m with
  | zero =>
    cases hrun
    exact ⟨nofun, rfl⟩
  | succ passes ih =>
    rw [runPasses] at hrun
    split at hrun
    · cases hrun
      exact ⟨nofun, rfl⟩
    rcases h.step_cases with ⟨m', hstep, hready⟩ | ⟨s, hstep⟩
    · rw [hstep] at hrun
      exact ih hready hrun
    · rw [hstep] at hrun
      cases hrun

/-- A report tells why the run ended. -/
theorem reason_of_report {e : Ending} {r : Report} (h : e.report = .ok r) :
    r.stopReason = e.reason ∧ r.fault = e.fault := by
  simp only [Ending.report] at h
  split at h
  · cases hsnapshot : Snapshot.capture e.machine with
    | error s =>
      rw [hsnapshot] at h
      cases h
    | ok s =>
      rw [hsnapshot] at h
      cases h
      exact ⟨rfl, rfl⟩
  · cases h

/-- A run of a machine in service reports no failed access. -/
theorem reason_of_fromBoot {m : Machine} (h : m.Ready t d led size) {maxPasses : UInt64}
    {maxCycles : Option UInt64} {r : Report} (hrun : (fromBoot m maxPasses maxCycles).result = .ok r) :
    r.stopReason ≠ .memoryViolation ∧ r.fault = none := by
  simp only [fromBoot] at hrun
  split at hrun
  · cases hrun
  · rename_i e he
    obtain ⟨hreason, hfault⟩ := reason_of_report hrun
    have hended := reason_of_runPasses (h.note _) he
    rw [hreason, hfault]
    exact hended

/-- Neither does a run from the power-up of a chip that passes the checks. -/
theorem reason_of_simulate {setup : Setup} (hcheck : setup.chip.check = .ok ())
    {maxPasses : UInt64} {maxCycles : Option UInt64} {r : Report}
    (hrun : (simulate t setup maxPasses maxCycles).result = .ok r) :
    r.stopReason ≠ .memoryViolation ∧ r.fault = none := by
  rw [simulate] at hrun
  split at hrun
  · cases hrun
  rename_i led _
  split at hrun
  · cases hrun
  rename_i bus hbus
  split at hrun
  · cases hrun
  rename_i m hboot
  have hpower : Machine.powerUp t setup.chip led = .ok m := by
    rw [Machine.powerUp, hbus]
    dsimp only
    rw [hboot]
  obtain ⟨size, -, hbooted⟩ := Machine.booted_of_powerUp hcheck hpower
  exact reason_of_fromBoot hbooted.toReady hrun

end LedBench.Run

namespace LedBench.Bench.Machine

open Chip Firmware

/-- On a chip that passes the checks a machine that boots never meets a failed access, wherever the
    addresses of its program lead. Every run succeeds for which the cycle counter has room, no fault
    is pending after it, and then the level of an LED on one of eight bits and the snapshot can be
    asked for. A run of the simulator, with the LED declared here, there or not at all, ends at one
    of its limits if it ends with a report. -/
theorem run_of_powerUp {t : Target} {d : Descriptor} {led : PinRef} {m : Machine}
    (hcheck : d.check = .ok ()) (hboot : powerUp t d led = .ok m) :
    (∀ cmds, m.Fits cmds → ∃ m', m.run cmds = .ok m' ∧ m'.bus.chip.fault = none ∧
      (led.bit < 8 →
        (∃ level, m'.ledLevel = .ok level) ∧ ∃ s, Snapshot.capture m' = .ok s)) ∧
      ∀ declared maxPasses maxCycles r,
        (Run.simulate t ⟨d, declared⟩ maxPasses maxCycles).result = .ok r →
          r.stopReason ≠ .memoryViolation ∧ r.fault = none := by
  obtain ⟨size, -, hbooted⟩ := booted_of_powerUp hcheck hboot
  obtain ⟨l, hport⟩ := exists_port_of_powerUp hboot
  refine ⟨?_, fun declared maxPasses maxCycles r => Run.reason_of_simulate hcheck⟩
  intro cmds hfits
  obtain ⟨m', hrun, hready⟩ := hbooted.toReady.exists_run hfits
  refine ⟨m', hrun, hready.fault_eq, ?_⟩
  intro hbit
  obtain ⟨level, hlevel⟩ := hready.toBuilt.exists_ledLevel hport hbit
  exact ⟨⟨level, hlevel⟩, exists_capture hlevel⟩

/-- It makes no difference that the program writes its LED to the direction register of a port that
    has nothing to do with it, and its other registers to that port's pins and to data memory. -/
theorem run_of_powerUp_crossed :
    ∃ m m' level s, powerUp .pic16f1823 .crossed ⟨"portx", 3⟩ = .ok m ∧
      m.run [.step, .step, .burn 0x3FFF, .reset, .step, .stop] = .ok m' ∧
      m'.bus.chip.fault = none ∧ m'.ledLevel = .ok level ∧ Snapshot.capture m' = .ok s := by
  obtain ⟨m, hboot⟩ := exists_powerUp_crossed
  obtain ⟨size, -, hready⟩ := booted_of_powerUp check_crossed hboot
  have hfits : m.Fits [.step, .step, .burn 0x3FFF, .reset, .step, .stop] := hready.fits (by decide)
  obtain ⟨m', hrun, hfault, hask⟩ := (run_of_powerUp check_crossed hboot).1 _ hfits
  obtain ⟨⟨level, hlevel⟩, s, hs⟩ := hask (by decide)
  exact ⟨m, m', level, s, hboot, hrun, hfault, hlevel, hs⟩

end LedBench.Bench.Machine
