import Mathlib.Algebra.Order.BigOperators.Group.List
import LedBench.Proofs.Bus.History
import LedBench.Proofs.Machine.Accounts

namespace LedBench.Chip

/-- The part of 14 pins, with the longest no-op that can be described. -/
def Descriptor.sluggish : Descriptor :=
  { Descriptor.guarded 4000 with cyclesPerDelayIteration := 0xFFFFFFFFFFFFFFFF }

end LedBench.Chip

namespace LedBench.Bench

open Chip Firmware

/-- The cycles are ahead of the no-ops. -/
def Clock.Ahead (k : Clock) : Prop := k.nops.toNat < k.cycles.toNat

namespace View

variable {v : View}

/-- An operation takes no fewer cycles than it counts no-ops. -/
theorem ahead_operate (hsound : v.clock.Sound) (hahead : v.clock.Ahead) (op : BusOp)
    (hroom : v.clock.cycles.toNat + op.cycles v.clock.cyclesPerNop < UInt64.size) :
    (v.operate op).clock.Ahead := by
  unfold Clock.Ahead at hahead ⊢
  rw [(clock_operate hsound op hroom).2]
  cases op with
  | nop =>
    have hnops : (v.operate .nop).clock.nops.toNat = v.clock.nops.toNat + 1 :=
      Clock.nops_toNat hsound hroom
    have hcost : BusOp.nop.cycles v.clock.cyclesPerNop = v.clock.cyclesPerNop.toNat := rfl
    have hpos := hsound.delay_pos
    omega
  | read addr =>
    rw [operate, inert_nops.read]
    omega
  | write addr value =>
    rw [operate, inert_nops.write]
    omega
  | poke addr value =>
    rw [clock_operate_poke]
    exact hahead
  | _ => exact hahead

theorem ahead_modify (hsound : v.clock.Sound) (hahead : v.clock.Ahead)
    (hroom : v.clock.cycles.toNat + 2 < UInt64.size) (addr : UInt16) (f : UInt8 → UInt8) :
    (v.modify addr f).clock.Ahead := by
  unfold Clock.Ahead at hahead ⊢
  rw [inert_nops.modify, (elapsed_modify hsound hroom addr f).1.cycles_eq]
  omega

theorem ahead_handle (hsound : v.clock.Sound) (hahead : v.clock.Ahead) (x : Handling)
    (hroom : v.clock.cycles.toNat + x.cycles v.clock.cyclesPerNop < UInt64.size) :
    (v.handle x).clock.Ahead := by
  cases x with
  | op o => exact ahead_operate hsound hahead o hroom
  | setBits addr mask => exact ahead_modify hsound hahead hroom addr (· ||| mask)
  | toggleBits addr mask => exact ahead_modify hsound hahead hroom addr (· ^^^ mask)

end View

namespace Bus

/-- Of the counters of a bus that of the cycles is full first: an operation fails exactly if it is,
    another no-op can always be counted, and whatever the cycles can count the watchdog can, to
    the last cycle. -/
structure CyclesFirst (b : Bus) : Prop where
  fails_iff : ∀ op : BusOp,
    (∃ s, op.run b = .error s) ↔ UInt64.size ≤ b.cycles.toNat + op.cycles b.cyclesPerNop
  nop : (Counter.add? b.nops 1).isSome = true
  tick : ∀ cycles, (Counter.add? b.cycles cycles).isSome = true →
    ∃ expired w, b.chip.watchdog.tick? cycles = some (expired, w) ∧
      w.count.toNat + (if expired then w.periodCycles.toNat else 0) =
        b.chip.watchdog.count.toNat + if b.chip.watchdog.enabled then cycles.toNat else 0

variable {b b' : Bus}

theorem cyclesFirst_of_ahead (hsound : b.clock.Sound) (hahead : b.clock.Ahead) : b.CyclesFirst where
  fails_iff := by
    intro op
    have htakes := op.run_takes hsound
    constructor
    · rintro ⟨s, hs⟩
      rw [hs] at htakes
      exact htakes
    · exact htakes.trap
  nop := by
    have hnops : b.nops.toNat < b.cycles.toNat := hahead
    have hcycles : b.cycles.toNat < UInt64.size := b.cycles.toNat_lt
    rw [Counter.add?, UInt64.toNat_one, if_pos (by omega)]
    rfl
  tick := by
    intro cycles hadd
    have hcount : b.chip.watchdog.count.toNat ≤ b.cycles.toNat := hsound.count_le
    obtain ⟨total, htotal⟩ := Option.isSome_iff_exists.mp hadd
    have hsum := Counter.add?_eq_some.mp htotal
    have hroom : b.chip.watchdog.count.toNat + cycles.toNat < UInt64.size := by
      have hlt : total.toNat < UInt64.size := total.toNat_lt
      omega
    refine ⟨_, _, b.chip.watchdog.tick?_eq_lapse cycles hroom, ?_⟩
    rw [Watchdog.periodCycles_lapse]
    exact b.chip.watchdog.count_lapse cycles hroom

theorem ahead_of_handling (hsound : b.clock.Sound) (hahead : b.clock.Ahead) {x : Handling}
    (hrun : x.run b = .ok b') : b'.clock.Ahead := by
  have htakes := x.run_takes hsound
  rw [hrun] at htakes
  rw [clock_eq_of_view htakes.2]
  exact View.ahead_handle (v := b.view) hsound hahead x htakes.1

/-- However a bus is handled, its cycles stay the first counter to be full and never go back. -/
theorem cyclesFirst_of_handle (hsound : b.clock.Sound) (hahead : b.clock.Ahead)
    {xs : List Handling} (hrun : b.handle xs = .ok b') :
    b'.CyclesFirst ∧ b.cycles.toNat ≤ b'.cycles.toNat := by
  induction xs generalizing b with
  | nil =>
    cases hrun
    exact ⟨cyclesFirst_of_ahead hsound hahead, Nat.le_refl _⟩
  | cons x rest ih =>
    rw [handle] at hrun
    cases hx : x.run b with
    | error s =>
      rw [hx] at hrun
      cases hrun
    | ok c =>
      rw [hx] at hrun
      have htakes := handling_takes hsound x
      rw [hx] at htakes
      obtain ⟨hfirst, hle⟩ := ih htakes.2.sound (ahead_of_handling hsound hahead hx) hrun
      refine ⟨hfirst, ?_⟩
      have hcycles := htakes.2.cycles_eq
      omega

end Bus

namespace Machine

variable {t : Target} {d : Descriptor} {led : PinRef} {size : UInt64} {m : Machine}

/-- A boot on a checked chip may be refused but does not overflow. -/
theorem powerUp_ne_trap (hsound : d.Sound size) (t : Target) (led : PinRef) :
    powerUp t d led ≠ .error .trap := by
  obtain ⟨bus, hbus, hpowered⟩ := Bus.exists_ofDescriptor hsound
  have hboot : ∀ s, boot t d led bus = .error s → s.halt ≠ .trap := by
    intro s hs
    obtain ⟨e, hrefused⟩ | ⟨b, hview, hstarted⟩ := boot_cases t d led bus
    · rw [hrefused] at hs
      cases hs
      simp
    · have hburned : b.view = .burned t d size := by
        rw [hview, hpowered]
        rfl
      have hclock : b.clock.Sound := by
        rw [Bus.clock_eq_of_view hburned]
        exact View.clock_sound_burned t hsound
      have hcycles : b.cycles.toNat = 0 := by
        rw [Bus.cycles_eq_of_view hburned]
        rfl
      obtain ⟨p, hstart, -⟩ := (Bus.start_takes hclock t).ok (by
        rw [hcycles]
        cases t <;> decide)
      rw [hstarted, hstart, ofStart] at hs
      cases hfault : p.hardware.chip.fault with
      | none =>
        rw [hfault] at hs
        cases hs
      | some addr =>
        rw [hfault] at hs
        cases hs
        simp
  rw [powerUp, hbus]
  dsimp only
  split
  · rename_i s hs
    simpa using hboot s hs
  · simp

/-- In service a command fails exactly if the cycle counter has no room for it, and then with a
    trap. -/
theorem Ready.fails_iff (h : m.Ready t d led size) (c : Command) :
    ((∃ s, m.perform c = .error s) ↔ UInt64.size ≤ m.bus.cycles.toNat + m.cost c) ∧
      ∀ s, m.perform c = .error s → s.halt = .trap := by
  by_cases hroom : m.bus.cycles.toNat + m.cost c < UInt64.size
  · obtain ⟨b, -, hperform⟩ := h.exists_perform c hroom
    rw [hperform]
    simpa using hroom
  · have hfull := Nat.not_lt.mp hroom
    obtain ⟨s, htrap⟩ := h.perform_trap hfull
    rw [htrap]
    simpa using hfull

/-- Every turn takes more cycles than it counts no-ops. -/
theorem Accounted.ahead {done : List Turn} {cause : ResetCause}
    (h : m.Accounted t d led size (.restart cause :: done)) : m.bus.clock.Ahead := by
  have hpace : 0 < d.cyclesPerDelayIteration.toNat := by
    rw [← h.cyclesPerNop_eq]
    exact h.sound.clock.delay_pos
  have hturn : ∀ turn : Turn, turn.nops ≤ turn.cycles t d.cyclesPerDelayIteration := by
    intro turn
    cases turn with
    | pass =>
      have hdelay := Nat.le_mul_of_pos_right blinkDelay hpace
      rw [Turn.nops, Turn.cycles, passCycles]
      omega
    | restart cause => exact Nat.zero_le _
  have hrest := List.sum_le_sum fun turn (_ : turn ∈ done) => hturn turn
  have hstart : 0 < t.startupCycles := by cases t <;> decide
  have hnops : m.bus.clock.nops.toNat = _ := h.nops_eq
  have hcycles : m.bus.clock.cycles.toNat = _ := h.cycles_eq
  rw [List.map_cons, List.sum_cons, Turn.nops] at hnops
  rw [List.map_cons, List.sum_cons, Turn.cycles] at hcycles
  unfold Clock.Ahead
  omega

/-- The counter of cycles is all that can overflow, whatever a checked chip asks for. A boot does
    not, and the masks of the ports are made without a carry. In every state that a run of commands
    reaches, a reset traps exactly if the initializer's cycles no longer fit, a step exactly if
    those of a turn of the loop do not, or those of the initializer after it where the watchdog
    ends it, and nothing else fails. However the bus is handled from there, as by the accesses of
    that turn or initializer, no other counter of the bus can be full while the cycles are not, and
    the cycles spent in the turn can be told; and where they fit, the turn and its reset can be
    counted. -/
theorem traps_iff {t : Target} {d : Descriptor} (hcheck : d.check = .ok ()) (led : PinRef) :
    powerUp t d led ≠ .error .trap ∧
      (∀ l ∈ d.ports, l.pinMask.toNat + 1 = 1 <<< l.width.toNat) ∧
      ∀ m, powerUp t d led = .ok m → ∀ cmds m', m.run cmds = .ok m' →
        ((∃ s, m'.reset = .error s) ↔ UInt64.size ≤ m'.bus.cycles.toNat + t.startupCycles) ∧
        ((∃ s, m'.step = .error s) ↔
          UInt64.size ≤ m'.bus.cycles.toNat + passCycles d.cyclesPerDelayIteration +
            if m'.expires then t.startupCycles else 0) ∧
        (∀ c s, m'.perform c = .error s → s.halt = .trap) ∧
        (∀ xs b, m'.bus.handle xs = .ok b →
          b.CyclesFirst ∧ (Counter.sub? b.cycles m'.bus.cycles).isSome = true) ∧
        (m'.bus.cycles.toNat + passCycles d.cyclesPerDelayIteration < UInt64.size →
          (Counter.add? m'.passes 1).isSome = true ∧
            (Counter.add? m'.watchdogResets 1).isSome = true) := by
  obtain ⟨size, hsound⟩ := Descriptor.check_eq_ok_iff.mp hcheck
  refine ⟨powerUp_ne_trap hsound t led, ?_, ?_⟩
  · intro l hl
    exact PortLayout.toNat_pinMask (hsound.ports.width l hl).2
  intro m hboot cmds m' hrun
  obtain ⟨size', -, hbooted⟩ := booted_of_powerUp hcheck hboot
  obtain ⟨n, hrun', haccounted⟩ := exists_run_of_step
    (I := fun done m => m.Accounted t d led size' (.restart .powerOn :: done))
    (fun done m c h hroom => h.exists_perform c hroom) hbooted.accounted
    (hbooted.fits_iff.mpr ⟨m', hrun⟩)
  obtain rfl : n = m' := Except.ok.inj (hrun'.symm.trans hrun)
  refine ⟨?_, ?_, ?_, ?_, ?_⟩
  · have hreset := (haccounted.fails_iff .reset).1
    rwa [cost, haccounted.target_eq] at hreset
  · have hstep := (haccounted.fails_iff .step).1
    rwa [cost_step, haccounted.target_eq, haccounted.cyclesPerNop_eq, ← Nat.add_assoc] at hstep
  · intro c
    exact (haccounted.fails_iff c).2
  · intro xs b hhandle
    obtain ⟨hfirst, hle⟩ :=
      Bus.cyclesFirst_of_handle haccounted.sound.clock haccounted.ahead hhandle
    refine ⟨hfirst, ?_⟩
    rw [Counter.sub?, if_pos (UInt64.le_iff_toNat_le.mpr hle)]
    rfl
  · intro hroom
    rw [← haccounted.cyclesPerNop_eq] at hroom
    obtain ⟨hpasses, hresets⟩ := haccounted.sound.counters hroom
    rw [hpasses, hresets]
    exact ⟨rfl, rfl⟩

/-- There no turn of the loop comes to its end, but the chip boots and can be reset. -/
theorem traps_iff_sluggish :
    ∃ m m', powerUp .pic16f1823 .sluggish ⟨"portc", 0⟩ = .ok m ∧
      m.run [.burn 0x3FFF] = .ok m' ∧ (∃ s, m'.step = .error s) ∧ ¬ ∃ s, m'.reset = .error s := by
  have hcheck : Descriptor.sluggish.check = .ok () := by decide +kernel
  have hbooted : ∃ m, powerUp .pic16f1823 .sluggish ⟨"portc", 0⟩ = .ok m :=
    exists_powerUp (by decide +kernel)
  obtain ⟨m, hboot⟩ := hbooted
  obtain ⟨size, -, hready⟩ := booted_of_powerUp hcheck hboot
  have hcycles : (m.withBus (m.bus.burn 0x3FFF)).bus.cycles.toNat = 4 := hready.cycles_eq
  obtain ⟨-, -, hreached⟩ := traps_iff (t := .pic16f1823) hcheck ⟨"portc", 0⟩
  obtain ⟨hreset, hstep, -⟩ := hreached m hboot [.burn 0x3FFF] _ rfl
  rw [hcycles] at hreset hstep
  have hpass : UInt64.size ≤ 4 + passCycles Descriptor.sluggish.cyclesPerDelayIteration := by decide
  refine ⟨m, _, hboot, rfl, hstep.mpr ?_, ?_⟩
  · exact Nat.le_trans hpass (Nat.le_add_right _ _)
  · rw [hreset]
    decide

end Machine

end LedBench.Bench
