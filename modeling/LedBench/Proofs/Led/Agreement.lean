import LedBench.Proofs.Led.Tracking
import LedBench.Proofs.Machine.Meddling

namespace LedBench.Bench

open Chip Firmware

namespace Machine

variable {t : Target} {d : Descriptor} {led : PinRef} {size : UInt64} {l : PortLayout} {i : Nat}
  {m : Machine}

/-- From here on the LED pin has the level that the program believes it has. Both start on; a turn
    of the loop inverts them, and a restart of either cause switches them on. -/
def LedAgrees (m : Machine) : Prop :=
  ∀ cmds, m.Fits cmds → ∃ m', m.run cmds = .ok m' ∧ m'.ledLevel = .ok m'.program.level ∧
    m'.program.level = (m.turns cmds).foldl Turn.level true

theorem Tracking.ledAgrees (h : m.Tracking t d led size l i) (hlevel : m.program.level = true) :
    m.LedAgrees := by
  intro cmds hfits
  obtain ⟨m', hrun, hdriven⟩ := exists_run_of_step
    (fun done m c (h : m.Driven t d led size l i done) => h.exists_perform c) ⟨h, hlevel⟩ hfits
  exact ⟨m', hrun, hdriven.toTracking.ledLevel_eq, hdriven.level_eq⟩

/-- A power-on reset mends whatever was done to the bus: afterwards the LED is on and its pin is as
    the program drove it. -/
private theorem Built.exists_reset_tracking (h : m.Built t d led size)
    (hwiring : Wiring t led (Build.ofDescriptor d size).decoding l i)
    (hroom : m.bus.cycles.toNat + t.startupCycles < UInt64.size) :
    ∃ n, n.Tracking t d led size l i ∧ n.program.level = true ∧
      m.reset = match m.bus.chip.fault with
        | none => .ok n
        | some addr => .error ⟨.refused (.memoryViolation addr), n⟩ := by
  obtain ⟨b, hview, hcontinues, hreset⟩ := h.exists_reset hroom
  refine ⟨{ m with program := ⟨b, true⟩ }, ⟨⟨h.of_continues hcontinues true, ?_⟩, hwiring, ?_⟩,
    rfl, hreset⟩
  · change b.view.fault = none
    rw [hview, View.settle]
  · change b.view.contents.Shows i (Lamp.driven true)
    rw [hview, View.settle]
    exact View.shows_restart_powerOn hwiring h.decoding_eq h.maps

/-- On a wired chip the LED agrees with the program from the boot on. Whatever is then done, with
    the machine or by hand on its bus, a power-on reset makes them agree again; if a failed access
    was pending it is reported, and they agree all the same. -/
theorem ledAgrees_of_wired {t : Target} {d : Descriptor} {led : PinRef} {m : Machine}
    (hwired : Wired t d led) (hboot : powerUp t d led = .ok m) :
    m.LedAgrees ∧
      ∀ acts m', m.endure acts = some m' →
        m'.bus.cycles.toNat + t.startupCycles < UInt64.size →
        ∃ n, n.LedAgrees ∧
          m'.reset = match m'.bus.chip.fault with
            | none => .ok n
            | some addr => .error ⟨.refused (.memoryViolation addr), n⟩ := by
  obtain ⟨size, hsound, hbooted⟩ := booted_of_powerUp hwired.check hboot
  obtain ⟨l, i, -, hwiring⟩ := hwired.exists_wiring hsound
  obtain ⟨htracking, -⟩ := hbooted.tracking hwiring
  refine ⟨htracking.ledAgrees hbooted.level_eq, ?_⟩
  intro acts m' hacts hroom
  obtain ⟨n, hn, hlevel, hreset⟩ :=
    (hbooted.toBuilt.of_endure hacts).exists_reset_tracking hwiring hroom
  exact ⟨n, hn.ledAgrees hlevel, hreset⟩

/-- A chip whose watchdog ends every second turn of the loop is wired so. There a reset brings the
    LED back whose latch was cleared and whose pin was made an input by hand. -/
theorem ledAgrees_of_wired_guarded :
    ∃ m m' n, powerUp .pic16f1823 (.guarded 4000) ⟨"portc", 0⟩ = .ok m ∧ m.LedAgrees ∧
      m.endure [.bus (.write 0x10E 0), .bus (.write 0x08E 0xFF)] = some m' ∧
      m'.reset = .ok n ∧ n.LedAgrees := by
  have hbooted : ∃ m, powerUp .pic16f1823 (.guarded 4000) ⟨"portc", 0⟩ = .ok m :=
    exists_powerUp (by decide +kernel)
  have hmeddled : ((powerUp .pic16f1823 (.guarded 4000) ⟨"portc", 0⟩).toOption.bind
      (·.endure [.bus (.write 0x10E 0), .bus (.write 0x08E 0xFF)])).any
        (fun m' => decide (m'.bus.chip.fault = none ∧ m'.bus.cycles = 6)) = true := by
    decide +kernel
  obtain ⟨m, hboot⟩ := hbooted
  rw [hboot, Option.any_eq_true] at hmeddled
  obtain ⟨m', hacts, hend⟩ := hmeddled
  obtain ⟨hfault, hcycles⟩ := of_decide_eq_true hend
  obtain ⟨hagrees, hmended⟩ := ledAgrees_of_wired wired_guarded hboot
  obtain ⟨n, hn, hreset⟩ := hmended _ m' hacts (by rw [hcycles]; decide)
  rw [hfault] at hreset
  exact ⟨m, m', n, hboot, hagrees, hacts, hreset, hn⟩

end Machine

end LedBench.Bench
