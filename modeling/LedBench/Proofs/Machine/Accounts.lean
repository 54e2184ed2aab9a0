import Mathlib.Data.List.Induction
import LedBench.Proofs.Machine.Reports
import LedBench.Proofs.Watchdog.Schedule

namespace LedBench.Bench

open Chip Firmware

namespace Metrics

private theorem ofEvents_concat (events : List Event) (e : Event) :
    ofEvents (events ++ [e]) = (ofEvents events).observe e :=
  List.foldl_append

/-- A watcher counts one event by what it tells. -/
private theorem observe_eq (m : Metrics) (e : Event) :
    (m.observe e).passes = m.passes + .ofNat (([e].filterMap Event.turn?).count .pass) ∧
      (m.observe e).cycles =
        m.cycles + .ofNat (([e].filterMap Event.length?).map UInt64.toNat).sum ∧
      (m.observe e).registerWrites = m.registerWrites + .ofNat ([e].countP Event.isWrite) ∧
      (m.observe e).watchdogResets =
        m.watchdogResets + .ofNat (([e].filterMap Event.turn?).count (.restart .watchdog)) := by
  have hnone : ∀ counted : UInt64, counted = counted + .ofNat 0 :=
    fun counted => (UInt64.add_zero counted).symm
  cases e with
  | passEnd cycles =>
    have hlength : m.cycles + cycles = m.cycles + .ofNat (cycles.toNat + 0) := by
      rw [Nat.add_zero, UInt64.ofNat_toNat]
    exact ⟨rfl, hlength, hnone _, hnone _⟩
  | write addr value => exact ⟨hnone _, hnone _, rfl, hnone _⟩
  | reset cause =>
    cases cause with
    | powerOn => exact ⟨hnone _, hnone _, hnone _, hnone _⟩
    | watchdog => exact ⟨hnone _, hnone _, hnone _, rfl⟩
  | _ => exact ⟨hnone _, hnone _, hnone _, hnone _⟩

/-- The counts of a watcher are those of what it was told, modulo the size of a counter. -/
theorem ofEvents_eq (events : List Event) :
    (ofEvents events).passes = .ofNat ((events.filterMap Event.turn?).count .pass) ∧
      (ofEvents events).cycles =
        .ofNat ((events.filterMap Event.length?).map UInt64.toNat).sum ∧
      (ofEvents events).registerWrites = .ofNat (events.countP Event.isWrite) ∧
      (ofEvents events).watchdogResets =
        .ofNat ((events.filterMap Event.turn?).count (.restart .watchdog)) := by
  induction events using List.reverseRecOn with
  | nil => exact ⟨rfl, rfl, rfl, rfl⟩
  | append_singleton events e ih =>
    obtain ⟨hpasses, hcycles, hwrites, hresets⟩ := ih
    rw [ofEvents_concat, List.filterMap_append, List.filterMap_append, List.countP_append,
      List.count_append, List.count_append, List.map_append, List.sum_append, UInt64.ofNat_add,
      UInt64.ofNat_add, UInt64.ofNat_add, UInt64.ofNat_add, ← hpasses, ← hcycles, ← hwrites,
      ← hresets]
    exact observe_eq (ofEvents events) e

end Metrics

namespace Turn

/-- The cycles of a turn, for a no-op of so many. -/
def cycles (t : Target) (cyclesPerNop : UInt64) : Turn → Nat
  | .pass => passCycles cyclesPerNop
  | .restart _ => t.startupCycles

def nops : Turn → Nat
  | .pass => blinkDelay
  | .restart _ => 0

def writes (t : Target) : Turn → Nat
  | .pass => 1
  | .restart _ => t.startupWriteCount

/-- A sum over turns that does not tell one restart from another. -/
theorem sum_map_eq {f : Turn → Nat} (hf : f (.restart .watchdog) = f (.restart .powerOn))
    (turns : List Turn) :
    (turns.map f).sum = turns.count .pass * f .pass +
      (turns.count (.restart .powerOn) + turns.count (.restart .watchdog)) *
        f (.restart .powerOn) := by
  induction turns with
  | nil => simp
  | cons turn rest ih =>
    rw [List.map_cons, List.sum_cons, ih]
    cases turn with
    | pass =>
      simp [Nat.succ_mul]
      omega
    | restart cause =>
      cases cause <;> simp [Nat.add_mul, hf] <;> omega

end Turn

namespace View

/-- The no-ops of a turn of the loop are those of its wait. -/
theorem nops_turn {v : View} (hsound : v.clock.Sound) (t : Target) (passes : UInt64)
    (hroom : v.clock.cycles.toNat + passCycles v.clock.cyclesPerNop < UInt64.size) :
    (v.turn t passes).clock.nops.toNat = v.clock.nops.toNat + blinkDelay := by
  unfold passCycles at hroom
  obtain ⟨htoggle, hsound'⟩ := elapsed_modify (v := v.emit (.passStart passes)) hsound
    (Nat.lt_of_le_of_lt (by simp [emit]) hroom) t.led.port (· ^^^ t.ledMask)
  have hnops := inert_nops.modify (v.emit (.passStart passes)) t.led.port (· ^^^ t.ledMask)
  rw [turn, clock_pass, (hsound'.delay ?_).2, hnops]
  · rfl
  · rw [htoggle.cycles_eq, htoggle.cyclesPerNop_eq, Nat.add_assoc]
    exact hroom

theorem nops_restart (v : View) (t : Target) (cause : ResetCause) :
    (v.restart t cause).clock.nops = v.clock.nops := by
  rw [restart, inert_nops.startup]
  rfl

end View

namespace Machine

variable {t : Target} {d : Descriptor} {led : PinRef} {size : UInt64} {m : Machine}
  {done : List Turn}

/-- A command costs what its turns cost. -/
theorem Built.cost_eq (h : m.Built t d led size) (b : Bus) (c : Command) :
    m.cost c = ((c.turns m (m.after b c)).map (Turn.cycles t d.cyclesPerDelayIteration)).sum := by
  rw [turns_after, ← h.cyclesPerNop_eq, ← h.target_eq]
  cases c with
  | step => cases hexpires : m.expires <;> simp [cost_step, hexpires, Turn.cycles]
  | reset => rfl
  | burn word => rfl
  | stop => rfl

theorem Built.nops_perform (h : m.Built t d led size) {c : Command}
    (hroom : m.bus.cycles.toNat + m.cost c < UInt64.size) (b : Bus) :
    (m.bus.view.perform t m.passes c).clock.nops.toNat =
      m.bus.nops.toNat + ((c.turns m (m.after b c)).map Turn.nops).sum := by
  rw [turns_after]
  cases c with
  | step =>
    have hnops : (m.bus.view.turn t m.passes).clock.nops.toNat = m.bus.nops.toNat + blinkDelay :=
      View.nops_turn (v := m.bus.view) h.sound.clock t m.passes (room_turn hroom)
    rw [view_perform_step h.sound t hroom]
    cases hexpires : m.expires with
    | false => simpa [Turn.nops] using hnops
    | true => simpa [Turn.nops, View.nops_restart, Clock.release] using hnops
  | reset => exact congrArg UInt64.toNat (View.nops_restart m.bus.view t .powerOn)
  | burn word => rfl
  | stop => rfl

theorem Built.writes_perform (h : m.Built t d led size) {c : Command}
    (hroom : m.bus.cycles.toNat + m.cost c < UInt64.size) (b : Bus) :
    (m.bus.view.perform t m.passes c).writes =
      m.bus.view.writes + ((c.turns m (m.after b c)).map (Turn.writes t)).sum := by
  have hmaps : m.bus.view.build.decoding.startupViolation? t = none := h.build_eq ▸ h.maps
  rw [turns_after]
  cases c with
  | step =>
    have hended : ((m.bus.view.turn t m.passes).endPass m.bus.cyclesPerNop).writes =
        m.bus.view.writes + 1 := by
      rw [View.endPass, View.writes_emit, View.writes_turn hmaps]
      rfl
    have hrelease : ∀ v : View, v.release.writes = v.writes := fun _ => rfl
    rw [view_perform_step h.sound t hroom]
    cases hexpires : m.expires with
    | false => simpa [Turn.writes] using hended
    | true =>
      rw [if_pos rfl, View.writes_restart, hrelease, hended]
      · simp [Turn.writes, Nat.add_assoc]
      · rw [View.build_release, View.build_endPass, View.build_turn]
        exact hmaps
  | reset => exact View.writes_restart hmaps .powerOn
  | burn word => rfl
  | stop => exact View.writes_emit m.bus.view .stop

/-- The lengths that a command tells are those of its turns of the loop. -/
theorem filterMap_length?_reports (m : Machine) (b : Bus) (c : Command) :
    (m.reports c).filterMap Event.length? =
      List.replicate ((c.turns m (m.after b c)).count .pass)
        (UInt64.ofNat (passCycles m.bus.cyclesPerNop)) := by
  rw [turns_after]
  cases c with
  | step =>
    rw [reports]
    cases m.expires <;> rfl
  | reset => rfl
  | burn word => rfl
  | stop => rfl

/-- A machine in service all of whose accounts are those of the turns done since power-up. -/
structure Accounted (t : Target) (d : Descriptor) (led : PinRef) (size : UInt64)
    (done : List Turn) (m : Machine) : Prop extends Ready t d led size m where
  passes_eq : m.passes.toNat = done.count .pass
  resets_eq : m.watchdogResets.toNat = done.count (.restart .watchdog)
  nops_eq : m.bus.nops.toNat = (done.map Turn.nops).sum
  cycles_eq : m.bus.cycles.toNat = (done.map (Turn.cycles t d.cyclesPerDelayIteration)).sum
  writes_eq : m.bus.view.writes = (done.map (Turn.writes t)).sum
  turns_eq : m.bus.view.heard Event.turn? = done
  lengths_eq : m.bus.view.heard Event.length? =
    List.replicate (done.count .pass) (UInt64.ofNat (passCycles d.cyclesPerDelayIteration))

/-- Every command keeps the accounts. -/
theorem Accounted.exists_perform (h : m.Accounted t d led size done) (c : Command)
    (hroom : m.bus.cycles.toNat + m.cost c < UInt64.size) :
    ∃ m', m.perform c = .ok m' ∧ m'.Accounted t d led size (done ++ c.turns m m') := by
  obtain ⟨b, hview, hperform⟩ := h.toReady.exists_perform c hroom
  obtain ⟨hpasses, hresets⟩ := h.sound.counters_after hroom b
  have hcycles := h.cycles_of_perform hroom hperform
  have hnops := h.nops_perform hroom b
  have hwrites := h.writes_perform hroom b
  have hturns := h.heard_perform hroom Event.aloof_turn?
  have hlengths := h.heard_perform hroom Event.aloof_length?
  rw [filterMap_turn?_reports m b] at hturns
  rw [filterMap_length?_reports m b, h.cyclesPerNop_eq] at hlengths
  rw [← hview] at hnops hwrites hturns hlengths
  refine ⟨m.after b c, hperform, h.toReady.after hroom hview, ?_, ?_, ?_, ?_, ?_, ?_, ?_⟩
  · rw [hpasses, h.passes_eq, List.count_append]
  · rw [hresets, h.resets_eq, List.count_append]
  · rw [bus_after, List.map_append, List.sum_append, ← h.nops_eq]
    exact hnops
  · rw [hcycles, h.cycles_eq, h.cost_eq b, List.map_append, List.sum_append]
  · rw [bus_after, hwrites, h.writes_eq, List.map_append, List.sum_append]
  · rw [bus_after, hturns, h.turns_eq]
  · rw [bus_after, hlengths, h.lengths_eq, List.count_append, List.replicate_append_replicate]

/-- The boot itself is a start from the top. -/
theorem Booted.accounted (h : m.Booted t d led size) :
    m.Accounted t d led size [.restart .powerOn] := by
  have hmaps : (View.burned t d size).build.decoding.startupViolation? t = none := by
    have hbuild := h.build_eq
    rw [h.view_eq, View.build_startup] at hbuild
    exact hbuild ▸ h.maps
  refine ⟨h.toReady, ?_, ?_, ?_, h.cycles_eq, ?_, ?_, ?_⟩
  · rw [h.passes_eq]
    rfl
  · rw [h.resets_eq]
    rfl
  · have hnops : m.bus.view.clock.nops = 0 := by
      rw [h.view_eq, View.inert_nops.startup]
      rfl
    exact congrArg UInt64.toNat hnops
  · rw [h.view_eq, View.writes_startup hmaps]
    exact Nat.zero_add _
  · rw [h.view_eq, (View.inert_heard Event.aloof_turn?).startup]
    rfl
  · rw [h.view_eq, (View.inert_heard Event.aloof_length?).startup]
    rfl

/-- The counts of who watches since power-up are those of the machine itself: the turns of the loop
    and the resets by the watchdog, the cycles of those turns and the writes of all. -/
theorem Accounted.metrics_eq (h : m.Accounted t d led size done) :
    (Metrics.ofEvents m.bus.journal.events).passes = m.passes ∧
      (Metrics.ofEvents m.bus.journal.events).watchdogResets = m.watchdogResets ∧
      (Metrics.ofEvents m.bus.journal.events).cycles =
        .ofNat (m.passes.toNat * passCycles d.cyclesPerDelayIteration) ∧
      (Metrics.ofEvents m.bus.journal.events).registerWrites =
        .ofNat (done.map (Turn.writes t)).sum := by
  obtain ⟨hpasses, hcycles, hwrites, hresets⟩ := Metrics.ofEvents_eq m.bus.journal.events
  have hturns : m.bus.journal.events.filterMap Event.turn? = done := h.turns_eq
  have hlengths : m.bus.journal.events.filterMap Event.length? = _ := h.lengths_eq
  have hwritten : m.bus.journal.events.countP Event.isWrite = _ := h.writes_eq
  rw [hturns, ← h.passes_eq, UInt64.ofNat_toNat] at hpasses
  rw [hturns, ← h.resets_eq, UInt64.ofNat_toNat] at hresets
  refine ⟨hpasses, hresets, ?_, by rw [hwrites, hwritten]⟩
  rw [hcycles, hlengths, ← h.passes_eq, List.map_replicate, List.sum_replicate_nat,
    UInt64.toNat_ofNat', ← UInt64.toNat_inj, UInt64.toNat_ofNat', UInt64.toNat_ofNat',
    Nat.mul_mod_mod]

/-- The resets by the watchdog in a run, up to the first command that fails: the steps by whose end
    it has asked for one. -/
def expiries : Machine → List Command → Nat
  | _, [] => 0
  | m, c :: rest =>
    (if c = .step ∧ m.expires = true then 1 else 0) +
      match m.perform c with
      | .ok m' => m'.expiries rest
      | .error _ => 0

/-- A run does a turn of the loop for each step and starts from the top for each reset. -/
theorem Ready.count_turns (h : m.Ready t d led size) {cmds : List Command} (hfits : m.Fits cmds) :
    (m.turns cmds).count .pass = cmds.count .step ∧
      (m.turns cmds).count (.restart .powerOn) = cmds.count .reset ∧
      (m.turns cmds).count (.restart .watchdog) = m.expiries cmds := by
  induction cmds generalizing m with
  | nil => exact ⟨rfl, rfl, rfl⟩
  | cons c rest ih =>
    obtain ⟨hroom, hrest⟩ := hfits
    obtain ⟨b, hview, hperform⟩ := h.exists_perform c hroom
    obtain ⟨hpasses, hresets, hexpiries⟩ := ih (h.after hroom hview) (hrest _ hperform)
    rw [turns, expiries, hperform]
    dsimp only
    rw [List.count_append, List.count_append, List.count_append, hpasses, hresets, hexpiries,
      turns_after]
    cases c with
    | step => cases m.expires <;> simp <;> omega
    | reset => simp; omega
    | burn word => simp
    | stop => simp

/-- The cycles of a run, by its commands and the resets of the watchdog. -/
def cyclesOf (m : Machine) (cmds : List Command) : Nat :=
  cmds.count .step * passCycles m.bus.cyclesPerNop +
    (cmds.count .reset + m.expiries cmds) * m.target.startupCycles

private theorem cost_le_cyclesOf (m : Machine) (c : Command) (rest : List Command) :
    m.cost c ≤ m.cyclesOf (c :: rest) := by
  rw [cyclesOf, expiries]
  cases c with
  | step =>
    rw [cost_step, List.count_cons_self]
    cases m.expires <;> simp [Nat.add_mul] <;> omega
  | reset =>
    rw [cost, List.count_cons_self, Nat.add_mul, Nat.add_mul]
    omega
  | burn word => exact Nat.zero_le _
  | stop => exact Nat.zero_le _

/-- What is left of a run costs what the first command leaves of its cycles. -/
private theorem Ready.cyclesOf_cons (h : m.Ready t d led size) {c : Command} {rest : List Command}
    {m' : Machine} (hready : m'.Ready t d led size) (hperform : m.perform c = .ok m') :
    m.cyclesOf (c :: rest) = m.cost c + m'.cyclesOf rest := by
  rw [cyclesOf, cyclesOf, expiries, hperform, h.cyclesPerNop_eq, h.target_eq,
    hready.cyclesPerNop_eq, hready.target_eq]
  dsimp only
  cases c with
  | step =>
    rw [cost_step, h.cyclesPerNop_eq, h.target_eq]
    cases m.expires <;> simp [Nat.add_mul] <;> omega
  | reset =>
    rw [cost, h.target_eq]
    simp [Nat.add_mul]
    omega
  | burn word => simp [cost]
  | stop => simp [cost]

/-- A run fits whose cycles do. -/
theorem Ready.fits_of_cyclesOf (h : m.Ready t d led size) {cmds : List Command}
    (hroom : m.bus.cycles.toNat + m.cyclesOf cmds < UInt64.size) : m.Fits cmds := by
  induction cmds generalizing m with
  | nil => trivial
  | cons c rest ih =>
    have hcost := m.cost_le_cyclesOf c rest
    have hfirst : m.bus.cycles.toNat + m.cost c < UInt64.size := by omega
    refine ⟨hfirst, ?_⟩
    intro m' hperform
    obtain ⟨b, hview, hafter⟩ := h.exists_perform c hfirst
    obtain rfl : m.after b c = m' := Except.ok.inj (hafter.symm.trans hperform)
    have hready := h.after hfirst hview
    apply ih hready
    rw [h.cycles_of_perform hfirst hperform, Nat.add_assoc, ← h.cyclesOf_cons hready hperform]
    exact hroom

/-- After a boot and `n` steps and `p` resets in any order, `r` of the steps ending in a reset by
    the watchdog, every account is known and all agree: the machine and its watcher have counted
    `n` turns of the loop and `r` resets by the watchdog, the bus the no-ops of `n` turns. The
    watcher's cycles are those of the turns, the bus has spent those of `1 + p + r` initializers
    besides, and a turn is told with one write, an initializer with its own. How the chip decodes
    the addresses is of no matter. The run comes to its end if its cycles together are a 64-bit
    number. -/
theorem accounts_run {t : Target} {d : Descriptor} {led : PinRef} {m : Machine}
    (hcheck : d.check = .ok ()) (hboot : powerUp t d led = .ok m) {cmds : List Command}
    {n p r : Nat} (hn : cmds.count .step = n) (hp : cmds.count .reset = p)
    (hr : m.expiries cmds = r)
    (hroom : n * passCycles d.cyclesPerDelayIteration + (1 + p + r) * t.startupCycles <
      UInt64.size) :
    ∃ m', m.run cmds = .ok m' ∧
      m'.passes.toNat = n ∧
      m'.bus.nops.toNat = blinkDelay * n ∧
      m'.watchdogResets.toNat = r ∧
      m'.bus.cycles.toNat =
        n * passCycles d.cyclesPerDelayIteration + (1 + p + r) * t.startupCycles ∧
      (Metrics.ofEvents m'.bus.journal.events).passes.toNat = n ∧
      (Metrics.ofEvents m'.bus.journal.events).watchdogResets.toNat = r ∧
      (Metrics.ofEvents m'.bus.journal.events).cycles.toNat =
        n * passCycles d.cyclesPerDelayIteration ∧
      (Metrics.ofEvents m'.bus.journal.events).registerWrites.toNat =
        n + (1 + p + r) * t.startupWriteCount := by
  subst hn hp hr
  obtain ⟨size, -, hbooted⟩ := booted_of_powerUp hcheck hboot
  have hfits : m.Fits cmds := by
    apply hbooted.fits_of_cyclesOf
    rw [hbooted.cycles_eq, cyclesOf, hbooted.cyclesPerNop_eq, hbooted.target_eq]
    rw [Nat.add_assoc, Nat.add_mul, Nat.one_mul] at hroom
    omega
  obtain ⟨m', hrun, haccounted⟩ := exists_run_of_step
    (I := fun done m => m.Accounted t d led size (.restart .powerOn :: done))
    (fun done m c h hroom => h.exists_perform c hroom) hbooted.accounted hfits
  obtain ⟨hsteps, hresets, hexpiries⟩ := hbooted.count_turns hfits
  have hpasses : m'.passes.toNat = cmds.count .step := by
    rw [haccounted.passes_eq, ← hsteps]
    exact List.count_cons_of_ne (by simp)
  have hcount : m'.watchdogResets.toNat = m.expiries cmds := by
    rw [haccounted.resets_eq, ← hexpiries]
    exact List.count_cons_of_ne (by simp)
  have hstarts : (Turn.restart .powerOn :: m.turns cmds).count (.restart .powerOn) =
      1 + cmds.count .reset := by
    rw [List.count_cons_self, hresets, Nat.add_comm]
  -- Every account of the bus is such a sum over the turns.
  have hsum : ∀ f : Turn → Nat, f (.restart .watchdog) = f (.restart .powerOn) →
      ((Turn.restart .powerOn :: m.turns cmds).map f).sum =
        cmds.count .step * f .pass +
          (1 + cmds.count .reset + m.expiries cmds) * f (.restart .powerOn) := by
    intro f hf
    rw [Turn.sum_map_eq hf, ← haccounted.passes_eq, ← haccounted.resets_eq, hpasses, hcount,
      hstarts]
  have hcycles := haccounted.cycles_eq.trans (hsum _ rfl)
  have hnops := haccounted.nops_eq.trans (hsum _ rfl)
  obtain ⟨htold, htold', hlength, hwritten⟩ := haccounted.metrics_eq
  rw [hpasses] at hlength
  rw [hsum _ rfl, Turn.writes, Turn.writes, Nat.mul_one] at hwritten
  -- Writes take cycles, so that they can be counted as well.
  have hwrites : cmds.count .step + (1 + cmds.count .reset + m.expiries cmds) *
      t.startupWriteCount < UInt64.size := by
    have hpassed : cmds.count .step ≤
        cmds.count .step * passCycles d.cyclesPerDelayIteration := by
      apply Nat.le_mul_of_pos_right
      unfold passCycles
      omega
    have hstarted := Nat.mul_le_mul_left (1 + cmds.count .reset + m.expiries cmds)
      t.startupWriteCount_le
    omega
  refine ⟨m', hrun, hpasses, ?_, hcount, hcycles, ?_, ?_, ?_, ?_⟩
  · rw [hnops, Turn.nops, Turn.nops, Nat.mul_zero, Nat.add_zero, Nat.mul_comm]
  · rw [htold, hpasses]
  · rw [htold', hcount]
  · rw [hlength]
    exact UInt64.toNat_ofNat_of_lt' (Nat.lt_of_le_of_lt (Nat.le_add_right _ _) hroom)
  · rw [hwritten]
    exact UInt64.toNat_ofNat_of_lt' hwrites

/-- The part whose port and direction registers lie crosswise does not light its LED, but its
    accounts are those of any other: of three turns the second ends in a reset. -/
theorem accounts_run_crossed :
    ∃ m m', powerUp .pic16f1823 .crossed ⟨"portx", 3⟩ = .ok m ∧
      m.run [.step, .step, .step] = .ok m' ∧ m'.bus.cycles.toNat = 9014 ∧
      (Metrics.ofEvents m'.bus.journal.events).cycles.toNat = 9006 ∧
      (Metrics.ofEvents m'.bus.journal.events).registerWrites.toNat = 9 := by
  obtain ⟨m, hboot⟩ := exists_powerUp_crossed
  obtain ⟨size, hsound, hbooted⟩ := booted_of_powerUp check_crossed hboot
  have hfits : m.Fits [.step, .step, .step] := hbooted.fits (by decide)
  obtain ⟨_, -, -, hturns⟩ := (hbooted.onSchedule hsound).exists_run 3 (by decide)
  have hexpiries : m.expiries [.step, .step, .step] = 1 := by
    have hresets : (m.turns [.step, .step, .step]).count (.restart .watchdog) = 1 :=
      congrArg (List.count (Turn.restart .watchdog)) hturns
    rw [← (hbooted.count_turns hfits).2.2, hresets]
  obtain ⟨m', hrun, -, -, -, hcycles, -, -, hlength, hwrites⟩ :=
    accounts_run check_crossed hboot rfl rfl hexpiries (by decide)
  exact ⟨m, m', hboot, hrun, hcycles, hlength, hwrites⟩

end Machine

end LedBench.Bench
