import LedBench.Proofs.Watchdog.Expiry

namespace LedBench.Bench

open Chip Firmware

/-- The stronger of two causes: at power-on more is reset. -/
def ResetCause.stronger : ResetCause → ResetCause → ResetCause
  | .powerOn, _ => .powerOn
  | .watchdog, cause => cause

theorem Port.reset_reset (p : Port) (first second : ResetCause) :
    (p.reset first).reset second = p.reset (first.stronger second) := by
  cases first <;> cases second <;> rfl

theorem ChipState.reset_reset (s : ChipState) (first second : ResetCause) :
    (s.reset first).reset second = s.reset (first.stronger second) := by
  have hports : (s.ports.map (·.reset first)).map (·.reset second) =
      s.ports.map (·.reset (first.stronger second)) := by
    rw [List.map_map]
    exact List.map_congr_left fun p _ => p.reset_reset first second
  simp only [reset, hports, Watchdog.clear]

namespace Bus

/-- What no reset touches: data memory, the counters, the configuration word and with it whether the
    watchdog runs, and a fault that is kept. -/
structure Spares (b b' : Bus) : Prop where
  memory_eq : b'.chip.memory = b.chip.memory
  cycles_eq : b'.cycles = b.cycles
  nops_eq : b'.nops = b.nops
  cyclesPerNop_eq : b'.cyclesPerNop = b.cyclesPerNop
  configWord_eq : b'.chip.configWord = b.chip.configWord
  enabled_eq : b'.chip.watchdog.enabled = b.chip.watchdog.enabled
  fault_eq : b'.chip.fault = b.chip.fault

variable {b : Bus}

/-- Reports are heard and change nothing. -/
theorem reportPins_eq (b : Bus) (p q : Port) :
    b.reportPins p q = { b with journal := (b.reportPins p q).journal } := by
  unfold reportPins
  generalize Port.pinChanges p q = changes
  induction changes generalizing b with
  | nil => rfl
  | cons change rest ih =>
    rw [List.foldl_cons]
    exact ih (b.emit _)

theorem foldl_reportPins_eq (b : Bus) (pairs : List (Port × Port)) :
    pairs.foldl (fun b (before, after) => b.reportPins before after) b =
      { b with journal :=
          (pairs.foldl (fun b (before, after) => b.reportPins before after) b).journal } := by
  induction pairs generalizing b with
  | nil => rfl
  | cons pair rest ih =>
    obtain ⟨p, q⟩ := pair
    rw [List.foldl_cons]
    dsimp only
    rw [ih, reportPins_eq b p q]

/-- A reset is that of the chip, and is heard. -/
theorem reset_eq (b : Bus) (cause : ResetCause) :
    b.reset cause = { b with chip := b.chip.reset cause, journal := (b.reset cause).journal } :=
  foldl_reportPins_eq _ _

/-- Nothing is heard of a reset that finds everything reset. -/
theorem reset_eq_self {cause : ResetCause} (h : b.chip.reset cause = b.chip) :
    b.reset cause = b := by
  have hquiet : ∀ ports : List Port, (ports.zip ports).foldl
      (fun b (before, after) => b.reportPins before after) b = b := by
    intro ports
    induction ports with
    | nil => rfl
    | cons p rest ih =>
      have hsilent : b.reportPins p p = b := by
        rw [reportPins, Port.pinChanges_of_pins_eq rfl]
        rfl
      rw [List.zip_cons_cons, List.foldl_cons]
      dsimp only
      rw [hsilent]
      exact ih
  rw [reset, h]
  exact hquiet b.chip.ports

theorem spares_reset (b : Bus) (cause : ResetCause) : b.Spares (b.reset cause) := by
  rw [reset_eq]
  exact ⟨rfl, rfl, rfl, rfl, rfl, rfl, rfl⟩

/-- Of two resets in a row the stronger one counts, but both are heard. -/
theorem reset_reset (b : Bus) (first second : ResetCause) :
    (b.reset first).reset second =
      { b.reset (first.stronger second) with
        journal := ((b.reset first).reset second).journal } := by
  rw [reset_eq (b.reset first), reset_eq b first, reset_eq b (first.stronger second)]
  simp only [ChipState.reset_reset]

/-- After a reset none that is no stronger does anything. -/
theorem reset_reset_eq_self (b : Bus) {first second : ResetCause}
    (h : first.stronger second = first) : (b.reset first).reset second = b.reset first := by
  refine reset_eq_self ?_
  rw [reset_eq b first]
  dsimp only
  rw [ChipState.reset_reset, h]

variable {d : Descriptor} {size : UInt64}

/-- At power-on every port becomes what it was when the bus was built. -/
theorem Reached.ports_reset_powerOn (h : b.Reached d size) :
    (b.reset .powerOn).chip.ports = d.ports.map Port.powered := by
  obtain ⟨past, hrecalls⟩ := h.recalls
  have hports : b.chip.ports = d.ports.map (Port.recalled past) := hrecalls.ports_eq
  rw [reset_eq]
  dsimp only
  rw [ChipState.reset, hports, List.map_map]
  rfl

/-- At any other reset it keeps its latch. -/
theorem Reached.port_reset_watchdog (h : b.Reached d size) {i : Nat} {p : Port}
    (hp : b.chip.ports[i]? = some p) :
    ∃ fresh, (d.ports.map Port.powered)[i]? = some fresh ∧
      (b.reset .watchdog).chip.ports[i]? = some { fresh with lat := p.lat } := by
  obtain ⟨past, hrecalls⟩ := h.recalls
  have hports : b.chip.ports = d.ports.map (Port.recalled past) := hrecalls.ports_eq
  rw [hports, List.getElem?_map] at hp
  obtain ⟨l, hl, rfl⟩ := Option.map_eq_some_iff.mp hp
  refine ⟨Port.powered l, by rw [List.getElem?_map, hl, Option.map_some], ?_⟩
  rw [reset_eq]
  dsimp only
  rw [ChipState.reset, hports, List.getElem?_map, List.getElem?_map, hl]
  rfl

/-- From a reset on the watchdog asks for the next one as soon as patient tasks have taken a full
    period of cycles. -/
theorem Reached.exists_carryOut_reset (hsound : d.Sound size) (h : b.Reached d size)
    (hperiod : b.chip.watchdog.HasPeriod) (cause : ResetCause) {tasks : List Task}
    (hpatient : ∀ task ∈ tasks, task.patient = true)
    (hroom : b.cycles.toNat + Task.cycles d.cyclesPerDelayIteration tasks < UInt64.size) :
    ∃ b', (b.reset cause).carryOut tasks = .ok b' ∧
      (b'.chip.resetRequested = true ↔ b.chip.watchdog.enabled = true ∧
        d.periodCycles.toNat ≤ Task.cycles d.cyclesPerDelayIteration tasks) := by
  have hrun : Task.run b (.handling (.op (.reset cause))) = .ok (b.reset cause) := rfl
  have hreset : (b.reset cause).Reached d size := h.of_run hsound hrun
  have hclock : (b.reset cause).clock = b.clock.reset := congrArg View.clock (view_reset b cause)
  have hcycles : (b.reset cause).cycles = b.cycles := (spares_reset b cause).cycles_eq
  obtain ⟨b', hrun', hview, -, -⟩ :=
    hreset.exists_carryOut hsound tasks (by rwa [hcycles])
  refine ⟨b', hrun', ?_⟩
  have hpace : (b.reset cause).cyclesPerNop = d.cyclesPerDelayIteration := hreset.cyclesPerNop_eq
  have hstart : b.clock.reset.Elapsed (b.reset cause).clock 0 := by
    rw [hclock]
    exact Clock.elapsed_reset hperiod
  have helapsed := View.elapsed_foldl_undertake (v := (b.reset cause).view) hstart hreset.sound
    hpatient (by
      change (b.reset cause).cycles.toNat + Task.cycles (b.reset cause).cyclesPerNop tasks < _
      rwa [hcycles, hpace])
  rw [← hview, Nat.zero_add] at helapsed
  have hrequested : b'.chip.resetRequested = (false || b.clock.reset.watchdog.due
      (Task.cycles (b.reset cause).cyclesPerNop tasks)) := helapsed.requested_eq
  have hlength : b.chip.watchdog.periodCycles = d.periodCycles :=
    congrArg Build.periodCycles h.build_eq
  have hcount : b.clock.reset.watchdog.count.toNat = 0 := rfl
  rw [hrequested, Bool.false_or, Watchdog.due_iff, hpace, hcount, Nat.zero_add, ← hlength]
  rfl

/-- The algebra of resets, on a chip that passes the checks and whatever was done with its bus since
    it was built. A power-on reset makes every port what it was at first, and a watchdog reset all of
    it but the latch. The same reset again does nothing and is not heard, nor does a watchdog reset
    after a power-on reset; before one it leaves no trace but what was heard of it. No reset touches
    anything else of the chip or its counters. None is pending after it, and the watchdog, if it
    runs, asks for the next one once the cycles of the work since fill a whole period; this work is
    carried out if the cycle counter has room for it. -/
theorem reset_algebra {d : Descriptor} (hcheck : d.check = .ok ()) :
    ∃ b, ofDescriptor d = .ok b ∧ ∀ tasks b', b.carryOut tasks = .ok b' →
      (b'.reset .powerOn).chip.ports = b.chip.ports ∧
      (∀ (i : Nat) (p : Port), b'.chip.ports[i]? = some p →
        ∃ fresh, b.chip.ports[i]? = some fresh ∧
          (b'.reset .watchdog).chip.ports[i]? = some { fresh with lat := p.lat }) ∧
      (∀ cause, (b'.reset cause).reset cause = b'.reset cause) ∧
      (b'.reset .powerOn).reset .watchdog = b'.reset .powerOn ∧
      (b'.reset .watchdog).reset .powerOn =
        { b'.reset .powerOn with journal := ((b'.reset .watchdog).reset .powerOn).journal } ∧
      ∀ cause, b'.Spares (b'.reset cause) ∧ (b'.reset cause).chip.resetRequested = false ∧
        ∀ more : List Task, (∀ task ∈ more, task.patient = true) →
          b'.cycles.toNat + Task.cycles d.cyclesPerDelayIteration more < UInt64.size →
          ∃ b'', (b'.reset cause).carryOut more = .ok b'' ∧
            (b''.chip.resetRequested = true ↔ b'.chip.watchdog.enabled = true ∧
              d.periodCycles.toNat ≤ Task.cycles d.cyclesPerDelayIteration more) := by
  obtain ⟨size, hsound⟩ := Descriptor.check_eq_ok_iff.mp hcheck
  obtain ⟨b, hbus, hpowered, hbuilt⟩ := exists_reached hsound
  have hports : b.chip.ports = d.ports.map Port.powered :=
    congrArg Contents.ports (contents_eq_of_view hpowered)
  have hstopped : b.view.clock.watchdog.HasPeriod := by
    rw [hpowered]
    exact fun henabled => nomatch henabled
  refine ⟨b, hbus, fun tasks b' hrun => ?_⟩
  have hreached := hbuilt.of_carryOut hsound hrun
  have hperiod : b'.view.clock.watchdog.HasPeriod := by
    rw [hbuilt.view_of_carryOut hsound hrun]
    exact View.hasPeriod_foldl_undertake hstopped tasks
  rw [hports]
  refine ⟨hreached.ports_reset_powerOn, fun i p => hreached.port_reset_watchdog, ?_, ?_, ?_, ?_⟩
  · intro cause
    exact reset_reset_eq_self b' (by cases cause <;> rfl)
  · exact reset_reset_eq_self b' rfl
  · exact reset_reset b' .watchdog .powerOn
  · intro cause
    refine ⟨spares_reset b' cause, by rw [reset_eq]; rfl, fun more hpatient hroom => ?_⟩
    exact hreached.exists_carryOut_reset hsound hperiod cause hpatient hroom

/-- On the 18-pin part the watchdog's period is 18000 cycles. After a reset by the watchdog a bus that
    drives port B keeps the latch, and a wait of 17999 cycles and an access fill the period, which
    the wait alone does not. -/
theorem reset_algebra_pic16f628a :
    ∃ b b', ofDescriptor pic16f628a = .ok b ∧
      b.carryOut [.handling (.op (.write 0x086 0)), .handling (.setBits 0x006 0x21),
        .handling (.op (.burn 0x3FFF)), .delay 500] = .ok b' ∧
      (b'.reset .watchdog).chip.ports[1]?.map (·.lat) = some 0x21 ∧
      (b'.reset .powerOn).chip.ports = b.chip.ports ∧
      (∃ b'', (b'.reset .watchdog).carryOut [.delay 17999] = .ok b'' ∧
        b''.chip.resetRequested = false) ∧
      ∃ b'', (b'.reset .watchdog).carryOut [.delay 17999, .handling (.op (.read 0x006))] = .ok b'' ∧
        b''.chip.resetRequested = true := by
  have hstate : (ofDescriptor pic16f628a).toOption.any (fun b =>
      (b.carryOut [.handling (.op (.write 0x086 0)), .handling (.setBits 0x006 0x21),
        .handling (.op (.burn 0x3FFF)), .delay 500]).toOption.any fun b' =>
          b'.cycles = 503 ∧ b'.chip.watchdog.enabled ∧
            b'.chip.ports[1]?.any (·.lat = 0x21)) = true := by
    decide +kernel
  obtain ⟨b, hbus, hresets⟩ := reset_algebra (d := pic16f628a) (by decide +kernel)
  rw [hbus, Except.toOption, Option.any_some] at hstate
  cases hrun : b.carryOut [.handling (.op (.write 0x086 0)), .handling (.setBits 0x006 0x21),
    .handling (.op (.burn 0x3FFF)), .delay 500] with
  | error b' =>
    rw [hrun] at hstate
    cases hstate
  | ok b' =>
    rw [hrun, Except.toOption, Option.any_some, decide_eq_true_eq] at hstate
    obtain ⟨hcycles, henabled, hlat⟩ := hstate
    obtain ⟨p, hp, hlat⟩ := (Option.any_eq_true _ _).mp hlat
    obtain ⟨hpowerOn, hwatchdog, -, -, -, hkept⟩ := hresets _ b' hrun
    obtain ⟨fresh, -, hreset⟩ := hwatchdog 1 p hp
    obtain ⟨-, -, hexpiry⟩ := hkept .watchdog
    obtain ⟨b₁, hrun₁, hrequest₁⟩ := hexpiry [.delay 17999] (by decide) (by rw [hcycles]; decide)
    obtain ⟨b₂, hrun₂, hrequest₂⟩ := hexpiry [.delay 17999, .handling (.op (.read 0x006))]
      (by decide) (by rw [hcycles]; decide)
    refine ⟨b, b', hbus, hrun, ?_, hpowerOn, ⟨b₁, hrun₁, ?_⟩, b₂, hrun₂, ?_⟩
    · rw [hreset, Option.map_some, of_decide_eq_true hlat]
    · rw [← Bool.not_eq_true, hrequest₁]
      exact fun hdue => absurd hdue.2 (by decide +kernel)
    · exact hrequest₂.mpr ⟨henabled, by decide +kernel⟩

end Bus

end LedBench.Bench
