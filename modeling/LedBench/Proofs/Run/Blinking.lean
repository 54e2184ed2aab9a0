import Mathlib.Algebra.Order.Floor.Div
import Mathlib.Data.List.Range
import LedBench.Proofs.Led.Intervals
import LedBench.Proofs.Run.Faultless

namespace LedBench.Bench

open Chip Firmware

namespace Trace

/-- The trace of a pin that the initializer switched on at its end, `start`, and that every turn of
    the loop, of `pace` cycles, inverted at its second cycle. -/
def blinking (pin : PinRef) (start pace turns : Nat) : Trace where
  pin := pin
  events := (⟨UInt64.ofNat start, true, true⟩ :: (List.range turns).map fun k =>
    (⟨UInt64.ofNat (start + 2 + pace * k), (k + 1) % 2 = 0, false⟩ : PinEvent)).toArray

variable {pin : PinRef} {start pace turns : Nat}

theorem blinking_succ (pin : PinRef) (start pace turns : Nat) :
    blinking pin start pace (turns + 1) =
      { blinking pin start pace turns with
        events := (blinking pin start pace turns).events.push
          ⟨UInt64.ofNat (start + 2 + pace * turns), (turns + 1) % 2 = 0, false⟩ } := by
  simp [blinking, List.range_succ]

theorem observe_blinking (port : String) (start pace turns : Nat) :
    (blinking ⟨port, 0⟩ start pace turns).observe
        (.pin port 0 ((turns + 1) % 2 = 0) (UInt64.ofNat (start + 2 + pace * turns))) =
      blinking ⟨port, 0⟩ start pace (turns + 1) := by
  rw [blinking_succ, observe, if_pos ⟨rfl, rfl⟩]
  rfl

theorem toggles_blinking (pin : PinRef) (start pace turns : Nat) :
    (blinking pin start pace turns).toggles = turns := by
  induction turns with
  | zero => rfl
  | succ turns ih =>
    rw [toggles] at ih
    rw [toggles, blinking_succ, Array.toList_push, List.filter_append, List.length_append, ih]
    rfl

theorem alternates_blinking (pin : PinRef) (start pace turns : Nat) :
    (blinking pin start pace turns).alternates = true := by
  apply alternates_of_isChain
  have hlevels : (blinking pin start pace turns).events.toList.map (·.level) =
      (List.range (turns + 1)).map fun k => decide (k % 2 = 0) := by
    rw [List.range_succ_eq_map]
    simp [blinking, Function.comp_def]
  rw [hlevels, List.isChain_map, List.isChain_range_succ]
  intro k _
  rw [ne_eq, decide_eq_decide]
  omega

/-- An interval lies between each toggle and the next. -/
theorem gaps_blinking (pin : PinRef) (start pace turns : Nat) :
    (blinking pin start pace turns).gaps = (List.range (turns - 1)).map fun k =>
      (UInt64.ofNat (start + 2 + pace * k), UInt64.ofNat (start + 2 + pace * (k + 1))) := by
  induction turns with
  | zero => rfl
  | succ turns ih =>
    rw [blinking_succ, gaps_push, ih, if_neg (by simp)]
    cases turns with
    | zero => rfl
    | succ turns =>
      have hlast : lastToggle? (blinking pin start pace (turns + 1)).events.toList =
          some (UInt64.ofNat (start + 2 + pace * turns)) := by
        rw [blinking_succ]
        simp [lastToggle?]
      rw [hlast, Nat.add_sub_cancel, Nat.add_sub_cancel, List.range_succ, List.map_append]
      rfl

theorem intervals?_blinking (hpace : 2 ≤ pace) (hroom : start + pace * turns < UInt64.size) :
    (blinking pin start pace turns).intervals? =
      some (List.replicate (turns - 1) (UInt64.ofNat pace)) := by
  have hgap : ∀ gap ∈ (blinking pin start pace turns).gaps,
      Counter.sub? gap.2 gap.1 = some (UInt64.ofNat pace) := by
    rw [gaps_blinking, List.forall_mem_map]
    intro k hk
    rw [List.mem_range] at hk
    have hnext : pace * (k + 1) = pace * k + pace := Nat.mul_succ pace k
    have hle : pace * (k + 2) ≤ pace * turns := Nat.mul_le_mul_left pace (by omega)
    rw [Nat.mul_add] at hle
    rw [Counter.sub?_eq_some, UInt64.toNat_ofNat_of_lt' (by omega),
      UInt64.toNat_ofNat_of_lt' (by omega), UInt64.toNat_ofNat_of_lt' (by omega)]
    omega
  have hlength : (blinking pin start pace turns).gaps.length = turns - 1 := by
    rw [gaps_blinking, List.length_map, List.length_range]
  rw [intervals?_eq, mapM_eq_some hgap, ← hlength]
  exact congrArg some List.map_const'

end Trace

namespace Wiring

variable {t : Target} {led : PinRef} {k : Decoding} {l : PortLayout} {i : Nat}

/-- In a boot the LED comes on with the last cycle of the initializer. -/
theorem ledTrace_bootShown (h : Wiring t led k l i) (pace : Nat) :
    Trace.ofEvents led (Machine.bootShown t l) =
      Trace.blinking led t.startupCycles pace 0 := by
  have hdigitized := h.digitized_eq (h.digital_reset .powerOn (Lamp.driven false))
  rw [h.pin_eq, Machine.bootShown, Lamp.starting, Lamp.enabling, Lamp.enabling, hdigitized]
  cases t <;> simp [Target.digitalMode?, Lamp.change, Lamp.lit, Lamp.reset, Lamp.driven,
    Trace.ofEvents, Trace.observe, Trace.blinking, Target.startupCycles]

end Wiring

namespace Machine

variable {t : Target} {d : Descriptor} {led : PinRef} {size : UInt64} {l : PortLayout} {i : Nat}
  {turns : Nat} {m : Machine}

/-- A machine whose LED has changed in each of so many turns of the loop since the boot, and whose
    trace has seen that. -/
structure Blinked (t : Target) (d : Descriptor) (led : PinRef) (size : UInt64) (l : PortLayout)
    (i turns : Nat) (m : Machine) : Prop extends OnSchedule t d led size turns m where
  tracking : m.Tracking t d led size l i
  level_eq : m.program.level = decide (turns % 2 = 0)
  trace_eq : m.ledTrace =
    .blinking led t.startupCycles (passCycles d.cyclesPerDelayIteration) turns

theorem Booted.blinked (hsound : d.Sound size) (h : m.Booted t d led size)
    (hwiring : Wiring t led (Build.ofDescriptor d size).decoding l i) :
    m.Blinked t d led size l i 0 := by
  obtain ⟨htracking, hevents⟩ := h.tracking hwiring
  have hjournal : Journal.events m.bus.journal = bootShown t l := hevents
  refine ⟨h.onSchedule hsound, htracking, h.level_eq, ?_⟩
  rw [ledTrace, h.led_eq, hjournal, hwiring.ledTrace_bootShown]

theorem cyclesWithin_of_not_runsWatchdog (hoff : ¬ d.RunsWatchdog t) (turns : Nat) :
    d.cyclesWithin t turns = t.startupCycles + passCycles d.cyclesPerDelayIteration * turns := by
  rw [Descriptor.cyclesWithin, Descriptor.resetsWithin, if_neg hoff, Nat.zero_mul, Nat.add_zero,
    Nat.mul_comm]

/-- With the watchdog off the LED changes in the next turn as well. -/
theorem Blinked.exists_step (h : m.Blinked t d led size l i turns) (hoff : ¬ d.RunsWatchdog t)
    (hroom : d.cyclesWithin t (turns + 1) < UInt64.size) :
    ∃ m', m.step = .ok m' ∧ m'.Blinked t d led size l i (turns + 1) := by
  obtain ⟨m', hperform, hschedule, -⟩ := h.toOnSchedule.exists_step hroom
  have hcycles := h.cycles_eq
  rw [cyclesWithin_of_not_runsWatchdog hoff] at hcycles hroom
  rw [Nat.mul_succ, ← Nat.add_assoc, ← hcycles, ← h.cyclesPerNop_eq] at hroom
  have hexpires : m.expires = false :=
    (h.expires_eq hroom).trans (decide_eq_false fun hresets => hoff hresets.1)
  obtain ⟨b, hafter, htracking, hevents⟩ := h.tracking.exists_perform .step
    (by rwa [cost_step, hexpires, if_neg (by simp), Nat.add_zero])
  obtain rfl : m.after b .step = m' := Except.ok.inj (hafter.symm.trans hperform)
  have hlevel : (!m.program.level) = decide ((turns + 1) % 2 = 0) := by
    rw [h.level_eq, ← decide_not, decide_eq_decide]
    omega
  have hcycle : m.bus.cycles + 2 = UInt64.ofNat
      (t.startupCycles + 2 + passCycles d.cyclesPerDelayIteration * turns) := by
    rw [← UInt64.toNat_inj, UInt64.toNat_add, UInt64.toNat_ofNat', hcycles, Nat.add_right_comm]
    rfl
  refine ⟨_, hafter, hschedule, htracking, ?_, ?_⟩
  · rw [after, hexpires, Bool.false_or]
    exact hlevel
  · rw [ledTrace_after hevents, shown, hexpires, if_neg (by simp), List.append_nil, hlevel, hcycle,
      h.trace_eq, h.tracking.wiring.pin_eq]
    exact Trace.observe_blinking _ _ _ _

/-- Nothing that leaves time, registers and faults alone, and of which the trace takes no notice,
    makes a difference to the LED. -/
theorem Blinked.withBus (h : m.Blinked t d led size l i turns) {b : Bus}
    (hclock : b.clock = m.bus.clock) (hcontents : b.contents = m.bus.contents)
    (hfault : b.chip.fault = m.bus.chip.fault)
    (htrace : (m.withBus b).ledTrace = m.ledTrace) :
    (m.withBus b).Blinked t d led size l i turns := by
  have hready := h.toReady.withBus hclock hcontents hfault
  have hcycles : b.cycles = m.bus.cycles := congrArg Clock.cycles hclock
  refine ⟨⟨hready, h.passes_eq, h.count_eq, ?_, ?_⟩, ⟨hready, h.tracking.wiring, ?_⟩, h.level_eq,
    htrace.trans h.trace_eq⟩
  · change b.cycles.toNat = _
    rw [hcycles, h.cycles_eq]
  · change ∃ start : Clock, start.Started d t ∧ Clock.Elapsed start b.clock _
    rw [hclock]
    exact h.elapsed
  · change b.contents.Shows i _
    rw [hcontents]
    exact h.tracking.shows

theorem Blinked.note (h : m.Blinked t d led size l i turns) (n : Note) :
    (m.withBus (m.bus.note n)).Blinked t d led size l i turns := by
  refine h.withBus rfl rfl rfl ?_
  have hevents : Journal.events (m.bus.note n).journal = Journal.events m.bus.journal :=
    Journal.events_push_note m.bus.journal n
  exact congrArg (Trace.ofEvents m.led) hevents

theorem Blinked.stop (h : m.Blinked t d led size l i turns) :
    m.stop.Blinked t d led size l i turns := by
  refine h.withBus rfl rfl rfl ?_
  exact ledTrace_after (c := .stop) (Bus.view_emit m.bus .stop ▸ View.events_emit m.bus.view .stop)

end Machine

end LedBench.Bench

namespace LedBench.Run

open Bench Chip Firmware

/-- So many cycles are enough for the limit, if there is one. -/
def Reached (maxCycles : Option UInt64) (cycles : Nat) : Prop :=
  ∃ limit ∈ maxCycles, limit.toNat ≤ cycles

/-- The turns of the loop that a run makes within its limits, if the initializer takes `start`
    cycles and each turn `pace`: as many as it may, or the fewest after which enough cycles have
    gone by. -/
def turnsWithin (start pace : Nat) (maxPasses : UInt64) : Option UInt64 → Nat
  | none => maxPasses.toNat
  | some limit => min maxPasses.toNat ((limit.toNat - start) ⌈/⌉ pace)

theorem turnsWithin_le (start pace : Nat) (maxPasses : UInt64) (maxCycles : Option UInt64) :
    turnsWithin start pace maxPasses maxCycles ≤ maxPasses.toNat := by
  cases maxCycles with
  | none => exact Nat.le_refl _
  | some limit => exact Nat.min_le_left _ _

/-- A run that may make more turns than so many ends by then if it has reached its limit. -/
theorem turnsWithin_le_iff {start pace : Nat} {maxPasses : UInt64} {maxCycles : Option UInt64}
    (hpace : 0 < pace) {turns : Nat} (hlt : turns < maxPasses.toNat) :
    turnsWithin start pace maxPasses maxCycles ≤ turns ↔
      Reached maxCycles (start + pace * turns) := by
  cases maxCycles with
  | none => simp [turnsWithin, Reached, hlt]
  | some limit =>
    rw [turnsWithin, min_le_iff, ceilDiv_le_iff_le_mul hpace]
    simp only [Reached, Option.mem_some_iff, exists_eq_left', Nat.not_le.mpr hlt, false_or]
    omega

theorem spent_iff {maxCycles : Option UInt64} {m : Machine} :
    spent maxCycles m = true ↔ Reached maxCycles m.bus.cycles.toNat := by
  cases maxCycles <;> simp [spent, Reached, UInt64.le_iff_toNat_le]

variable {t : Target} {d : Descriptor} {led : PinRef} {size : UInt64} {l : PortLayout} {i : Nat}
  {maxPasses : UInt64} {maxCycles : Option UInt64}

/-- Why a run ends that makes so many turns. -/
def reasonAfter (maxPasses : UInt64) (turns : Nat) : StopReason :=
  if turns = maxPasses.toNat then .maxPasses else .maxCycles

/-- From wherever the run stands it goes on to its last turn. -/
theorem exists_runPasses (hoff : ¬ d.RunsWatchdog t) {last : Nat}
    (hlast : turnsWithin t.startupCycles (passCycles d.cyclesPerDelayIteration) maxPasses
      maxCycles = last)
    (hroom : d.cyclesWithin t last < UInt64.size) {m : Machine} {turns more : Nat}
    (h : m.Blinked t d led size l i turns) (hle : turns ≤ last)
    (hmore : turns + more = maxPasses.toNat) :
    ∃ m', runPasses maxCycles more m = .ok ⟨m', reasonAfter maxPasses last, none⟩ ∧
      m'.Blinked t d led size l i last := by
  have hmax := turnsWithin_le t.startupCycles (passCycles d.cyclesPerDelayIteration) maxPasses
    maxCycles
  induction more generalizing m turns with
  | zero =>
    obtain rfl : turns = last := by omega
    rw [Nat.add_zero] at hmore
    exact ⟨m, by rw [runPasses, reasonAfter, if_pos hmore], h⟩
  | succ more ih =>
    have hspent : spent maxCycles m = true ↔ last ≤ turns := by
      rw [spent_iff, h.cycles_eq, Machine.cyclesWithin_of_not_runsWatchdog hoff, ← hlast]
      exact (turnsWithin_le_iff (passCycles_pos _) (by omega)).symm
    rw [runPasses]
    by_cases hend : last ≤ turns
    · obtain rfl : turns = last := Nat.le_antisymm hle hend
      rw [if_pos (hspent.mpr hend), reasonAfter, if_neg (by omega)]
      exact ⟨m, rfl, h⟩
    · rw [if_neg (mt hspent.mp hend)]
      obtain ⟨m', hstep, hblinked⟩ := h.exists_step hoff
        (Nat.lt_of_le_of_lt (d.cyclesWithin_mono t (by omega)) hroom)
      rw [hstep]
      exact ih hblinked (by omega) (by omega)

/-- The report of such a run. -/
theorem exists_report (hoff : ¬ d.RunsWatchdog t) {m : Machine} {turns : Nat}
    (h : m.Blinked t d led size l i turns) (reason : StopReason) :
    ∃ snapshot : Snapshot, snapshot.ledLevel = decide (turns % 2 = 0) ∧
      (Ending.mk m reason none).report = .ok {
        stopReason := reason
        fault := none
        passes := m.passes
        cycles := m.bus.cycles
        watchdogResets := m.watchdogResets
        toggles := UInt64.ofNat turns
        alternates := true
        intervals :=
          List.replicate (turns - 1) (UInt64.ofNat (passCycles d.cyclesPerDelayIteration))
        events := (Trace.blinking led t.startupCycles (passCycles d.cyclesPerDelayIteration)
          turns).events.toList
        snapshot } := by
  have htrace : Trace.ofEvents m.led m.bus.journal.events = _ := h.trace_eq
  have hlevel : m.ledLevel = .ok (decide (turns % 2 = 0)) := by
    rw [h.tracking.ledLevel_eq, h.level_eq]
  have hpace := two_le_passCycles d.cyclesPerDelayIteration
  have hroom := m.bus.cycles.toNat_lt
  rw [h.cycles_eq, Machine.cyclesWithin_of_not_runsWatchdog hoff] at hroom
  have hcapture : ∃ s, Snapshot.capture m = .ok s ∧ s.ledLevel = decide (turns % 2 = 0) := by
    rw [Snapshot.capture, hlevel]
    exact ⟨_, rfl, rfl⟩
  obtain ⟨s, hcapture, hled⟩ := hcapture
  refine ⟨s, hled, ?_⟩
  rw [Ending.report]
  simp only [htrace, Trace.intervals?_blinking hpace hroom, hcapture, Trace.toggles_blinking,
    Trace.alternates_blinking]
  rfl

/-- Booted with its watchdog off, a wired chip blinks from the boot to the end of the run. -/
theorem exists_fromBoot (hoff : ¬ d.RunsWatchdog t) {m : Machine}
    (h : m.Blinked t d led size l i 0) {last : Nat}
    (hlast : turnsWithin t.startupCycles (passCycles d.cyclesPerDelayIteration) maxPasses
      maxCycles = last)
    (hroom : d.cyclesWithin t last < UInt64.size) :
    ∃ m', m'.Blinked t d led size l i last ∧
      (fromBoot m maxPasses maxCycles).result =
        (Ending.mk m' (reasonAfter maxPasses last) none).report := by
  obtain ⟨m', hruns, hblinked⟩ := exists_runPasses hoff hlast hroom
    (h.note (.running m.target maxPasses)) (Nat.zero_le _) (Nat.zero_add _)
  rw [fromBoot]
  simp only [hruns]
  exact ⟨_, hblinked.stop.note _, rfl⟩

/-- A run whose LED is known starts from the power-up. -/
theorem simulate_eq_of_powerUp (setup : Setup) {m : Machine}
    (hled : (setup.led <|> firmwareLed? t setup.chip) = some led)
    (hboot : Machine.powerUp t setup.chip led = .ok m) (maxPasses : UInt64)
    (maxCycles : Option UInt64) :
    simulate t setup maxPasses maxCycles = fromBoot m maxPasses maxCycles := by
  rw [Machine.powerUp] at hboot
  rw [simulate, hled]
  cases hbus : Bus.ofDescriptor setup.chip with
  | error e =>
    rw [hbus] at hboot
    cases hboot
  | ok bus =>
    rw [hbus] at hboot
    dsimp only at hboot ⊢
    cases hstart : Machine.boot t setup.chip led bus with
    | error s =>
      rw [hstart] at hboot
      cases hboot
    | ok m' =>
      rw [hstart] at hboot
      cases hboot
      rfl

/-- A run with no LED declared watches the firmware's. -/
theorem simulate_eq_fromBoot {m : Machine} (hled : firmwareLed? t d = some led)
    (hboot : Machine.powerUp t d led = .ok m) (maxPasses : UInt64) (maxCycles : Option UInt64) :
    simulate t ⟨d, none⟩ maxPasses maxCycles = fromBoot m maxPasses maxCycles :=
  simulate_eq_of_powerUp ⟨d, none⟩ hled hboot maxPasses maxCycles

/-- On the built-in descriptors the firmware finds its LED, on a pin that it sets up. -/
theorem exists_wired_ofTarget (t : Target) :
    ∃ led, firmwareLed? t (.ofTarget t) = some led ∧ Wired t (.ofTarget t) led ∧
      (Machine.powerUp t (.ofTarget t) led).isOk = true := by
  cases t with
  | pic16f1823 =>
    exact ⟨⟨"portc", 0⟩, rfl, ⟨rfl, ⟨_, rfl, rfl, rfl, .inl ⟨rfl, rfl⟩⟩, rfl⟩, by decide +kernel⟩
  | pic16f628a =>
    exact ⟨⟨"portb", 0⟩, rfl, ⟨rfl, ⟨_, rfl, rfl, rfl, .inr ⟨rfl, rfl⟩⟩, rfl⟩, by decide +kernel⟩

/-- A run of a built-in chip, with no LED declared, makes so many turns of the loop as its limits
    allow. It succeeds if its cycles are a 64-bit number, and then the report is known in full: the
    initializer switches the LED on with its last cycle, and each turn inverts it at its second
    one. -/
theorem simulate_ofTarget (t : Target) (maxPasses : UInt64) (maxCycles : Option UInt64) {n : Nat}
    (hn : turnsWithin t.startupCycles 3002 maxPasses maxCycles = n)
    (hroom : t.startupCycles + 3002 * n < UInt64.size) :
    ∃ r, (simulate t ⟨.ofTarget t, none⟩ maxPasses maxCycles).result = .ok r ∧
      r.passes.toNat = n ∧
      r.cycles.toNat = t.startupCycles + 3002 * n ∧
      r.toggles.toNat = n ∧
      r.alternates = true ∧
      r.intervals = List.replicate (n - 1) 3002 ∧
      r.watchdogResets = 0 ∧
      r.events = ⟨UInt64.ofNat t.startupCycles, true, true⟩ :: (List.range' 1 n).map (fun k =>
        ⟨UInt64.ofNat (t.startupCycles + 2 + 3002 * (k - 1)), k % 2 = 0, false⟩) ∧
      r.snapshot.ledLevel = decide (n % 2 = 0) ∧
      r.stopReason = if n = maxPasses.toNat then .maxPasses else .maxCycles := by
  obtain ⟨led, hled, hwired, hpower⟩ := exists_wired_ofTarget t
  obtain ⟨m, hboot⟩ := Machine.exists_powerUp hpower
  obtain ⟨size, hsound, hbooted⟩ := Machine.booted_of_powerUp hwired.check hboot
  obtain ⟨l, i, -, hwiring⟩ := hwired.exists_wiring hsound
  have hpace : passCycles (Descriptor.ofTarget t).cyclesPerDelayIteration = 3002 := by
    cases t <;> rfl
  have hoff : ¬ (Descriptor.ofTarget t).RunsWatchdog t := by cases t <;> decide
  rw [← hpace] at hn
  have hsimulate : simulate t ⟨.ofTarget t, none⟩ maxPasses maxCycles =
      fromBoot m maxPasses maxCycles := simulate_eq_fromBoot hled hboot maxPasses maxCycles
  obtain ⟨m', hblinked, hrun⟩ := exists_fromBoot hoff (hbooted.blinked hsound hwiring) hn
    (by rwa [Machine.cyclesWithin_of_not_runsWatchdog hoff, hpace])
  obtain ⟨s, hlevel, hreport⟩ := exists_report hoff hblinked (reasonAfter maxPasses n)
  rw [hsimulate, hrun, hreport, hpace]
  have hcycles := hblinked.cycles_eq
  have hresets := hblinked.count_eq
  rw [Machine.cyclesWithin_of_not_runsWatchdog hoff, hpace] at hcycles
  rw [Descriptor.resetsWithin, if_neg hoff] at hresets
  refine ⟨_, rfl, hblinked.passes_eq, hcycles, ?_, rfl, rfl, ?_, ?_, hlevel, rfl⟩
  · exact UInt64.toNat_ofNat_of_lt' (by omega)
  · exact UInt64.toNat_inj.mp hresets
  · rw [List.range'_eq_map_range, List.map_map]
    simp [Trace.blinking, Function.comp_def, Nat.add_comm 1]

/-- A limit of cycles on the boundary between two turns ends the run there. -/
theorem simulate_ofTarget_boundary :
    ∃ r, (simulate .pic16f628a ⟨.ofTarget .pic16f628a, none⟩ 5 (some 6007)).result = .ok r ∧
      r.passes.toNat = 2 ∧ r.cycles.toNat = 6007 ∧ r.stopReason = .maxCycles ∧
      r.events = [⟨3, true, true⟩, ⟨5, false, false⟩, ⟨3007, true, false⟩] := by
  obtain ⟨r, hrun, hpasses, hcycles, -, -, -, -, hevents, -, hreason⟩ :=
    simulate_ofTarget .pic16f628a 5 (some 6007) (n := 2) (by decide) (by decide)
  exact ⟨r, hrun, hpasses, hcycles, hreason, hevents⟩

end LedBench.Run
