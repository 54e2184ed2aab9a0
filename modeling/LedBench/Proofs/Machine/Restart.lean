import LedBench.Proofs.Bus.Later
import LedBench.Proofs.Bus.Residue
import LedBench.Proofs.Machine.Boot

namespace LedBench.Bench

open Chip Firmware

namespace View

section

variable (g : Lag) (past : List Event) (v : View) (t : Target)

theorem restart_later (cause : ResetCause) :
    (v.later g past).restart t cause = (v.restart t cause).later g past := by
  have hemit : (v.later g past).emit (.reset cause) = (v.emit (.reset cause)).later g past :=
    emit_later g past v (.reset cause)
  rw [restart, hemit, reset_later, startup_later, restart]

theorem turn_later (passes : UInt64) :
    (v.later g past).turn t (passes + g.passes) = (v.turn t passes).later g past := by
  have hemit : (v.later g past).emit (.passStart (passes + g.passes)) =
      (v.emit (.passStart passes)).later g past := emit_later g past v (.passStart passes)
  rw [turn, hemit, pass_later, turn]

theorem endPass_later (cyclesPerNop : UInt64) :
    (v.later g past).endPass cyclesPerNop = (v.endPass cyclesPerNop).later g past :=
  emit_later g past v (.passEnd (UInt64.ofNat (passCycles cyclesPerNop)))

theorem step_later (passes : UInt64) :
    (v.later g past).step t (passes + g.passes) = (v.step t passes).later g past := by
  have hrequested : ∀ w : View,
      (w.later g past).clock.resetRequested = w.clock.resetRequested := fun _ => rfl
  have hper : (v.later g past).clock.cyclesPerNop = v.clock.cyclesPerNop := rfl
  rw [step, turn_later, hrequested, hper, endPass_later, release_later, restart_later,
    ← apply_ite (later g past), step]

/-- A command does later what it would have done before, and shows it with later stamps. -/
theorem perform_later (passes : UInt64) (c : Command) :
    (v.later g past).perform t (passes + g.passes) c = (v.perform t passes c).later g past := by
  cases c with
  | step => exact step_later g past v t passes
  | reset => exact restart_later g past v t .powerOn
  | burn word => exact burn_later g past v word
  | stop => exact emit_later g past v .stop

end

variable {v : View} {t : Target} {size : UInt64} {level : Bool}

theorem Marked.restart (h : v.Marked t size level) (cause : ResetCause) :
    (v.restart t cause).Marked t size true :=
  (Marked.reset (v := v.emit (.reset cause)) h cause).startup

theorem Marked.turn (h : v.Marked t size level) (passes : UInt64) :
    (v.turn t passes).Marked t size (!level) :=
  Marked.pass (v := v.emit (.passStart passes)) h

theorem fuses_restart (v : View) (t : Target) (cause : ResetCause) :
    (v.restart t cause).fuses = v.fuses := by
  rw [restart, inert_fuses.startup]
  rfl

theorem fuses_turn (v : View) (t : Target) (passes : UInt64) :
    (v.turn t passes).fuses = v.fuses := by
  rw [turn, inert_fuses.pass fun _ _ => rfl]
  rfl

theorem fuses_endPass (v : View) (cyclesPerNop : UInt64) :
    (v.endPass cyclesPerNop).fuses = v.fuses := rfl

theorem fuses_perform (v : View) (t : Target) (passes : UInt64) {c : Command}
    (hburn : ∀ word, c ≠ .burn word) : (v.perform t passes c).fuses = v.fuses := by
  cases c with
  | step =>
    rw [perform, step, apply_ite fuses, fuses_restart, fuses_release, fuses_endPass, ite_self,
      fuses_turn]
  | reset => exact fuses_restart v t .powerOn
  | burn word => exact absurd rfl (hburn word)
  | stop => rfl

/-- The chip that a view is of. -/
def chip (v : View) : ChipState :=
  ⟨v.contents.memory, v.contents.ports, v.clock.watchdog, v.configWord, v.fault,
    v.clock.resetRequested⟩

/-- The view of somebody who has only just begun to watch. -/
def unseen (v : View) : View := { v with events := [] }

theorem eq_later_unseen {v w : View} {g : Lag} (hclock : w.clock = v.clock.later g)
    (hcontents : w.contents = v.contents) (hfault : w.fault = v.fault)
    (hword : w.configWord = v.configWord) : w = v.unseen.later g w.events := by
  obtain ⟨clock, contents, fault, word, events⟩ := w
  simp only at hclock hcontents hfault hword
  subst hclock hcontents hfault hword
  simp [later, unseen]

theorem eq_unseen_later_zero (v : View) : v = v.unseen.later ⟨0, 0, 0⟩ v.events :=
  eq_later_unseen (by simp [Clock.later]) rfl rfl rfl

variable {d : Descriptor}

theorem marked_burned (t : Target) (d : Descriptor) (size : UInt64) :
    (burned t d size).Marked t size false := by
  have hmark : (burned t d size).contents.decoding.mark t false = 0 := ite_self 0
  rw [Marked, hmark, DataMemory.marked_zero]
  rfl

/-- A power-on reset finds the ports as a boot does, and the watchdog's count as well. -/
private theorem restart_congr_burned (hbuild : v.build = .ofDescriptor d size)
    (hfuses : v.fuses = (burned t d size).fuses) (passes : UInt64) :
    (v.restart t .powerOn).clock =
        ((burned t d size).startup t).clock.later ⟨v.clock.cycles, v.clock.nops, passes⟩ ∧
      (v.restart t .powerOn).contents.ports = ((burned t d size).startup t).contents.ports := by
  have hports : ((v.emit (.reset .powerOn)).reset .powerOn).contents.ports =
      (burned t d size).contents.ports := by
    have hlayouts : v.contents.ports.map (·.layout) = d.ports :=
      congrArg (fun b => b.decoding.ports) hbuild
    have hpowered : (burned t d size).contents.ports = d.ports.map Port.powered := rfl
    rw [hpowered, ← hlayouts, List.map_map]
    rfl
  have hclock : ((v.emit (.reset .powerOn)).reset .powerOn).clock =
      (burned t d size).clock.later ⟨v.clock.cycles, v.clock.nops, passes⟩ := by
    have henabled : v.clock.watchdog.enabled = (burned t d size).clock.watchdog.enabled :=
      congrArg Fuses.watchdog hfuses
    simp only [build, Build.ofDescriptor, Build.mk.injEq] at hbuild
    obtain ⟨-, hlayout, hperiod, hper⟩ := hbuild
    simp [reset, emit, Clock.reset, Watchdog.clear, henabled, hlayout, hperiod, hper, burned,
      powered, burn, Clock.burn, Watchdog.configure, Clock.later]
  obtain ⟨hstarted, hstarted'⟩ := startup_congr (w := (burned t d size).later _ []) hclock hports t
  rw [startup_later] at hstarted hstarted'
  exact ⟨hstarted, hstarted'⟩

/-- A power-on reset of a chip on which nothing but the program has been at work leaves it as its
    boot left it, only later. -/
theorem restart_powerOn (hsound : d.Sound size) (hbuild : v.build = .ofDescriptor d size)
    (hmaps : (Build.ofDescriptor d size).decoding.startupViolation? t = none)
    (hfault : v.fault = none) (hfuses : v.fuses = (burned t d size).fuses)
    (hmarked : v.Marked t size level) (passes : UInt64) :
    v.restart t .powerOn = ((burned t d size).startup t).unseen.later
      ⟨v.clock.cycles, v.clock.nops, passes⟩ (v.restart t .powerOn).events := by
  obtain ⟨hclock, hports⟩ := restart_congr_burned hbuild hfuses passes
  have hbuild' : (v.restart t .powerOn).build = ((burned t d size).startup t).build := by
    rw [build_restart, build_startup, build_burned t hsound, hbuild]
  -- No reset clears data memory, but the initializer sets the one byte that may be marked.
  have hmemory : (v.restart t .powerOn).contents.memory =
      ((burned t d size).startup t).contents.memory := by
    have hrestarted := hmarked.restart .powerOn
    have hstarted := (marked_burned t d size).startup
    rw [Marked, decoding_eq_of_build hbuild'] at hrestarted
    exact hrestarted.trans hstarted.symm
  have hfuses' : (v.restart t .powerOn).fuses = ((burned t d size).startup t).fuses := by
    rw [fuses_restart, inert_fuses.startup, hfuses]
  have hfault' : (v.restart t .powerOn).fault = ((burned t d size).startup t).fault := by
    rw [fault_restart (hbuild ▸ hmaps), hfault, fault_startup, build_burned t hsound, hmaps]
    rfl
  exact eq_later_unseen hclock (congrArg₂ Contents.mk hmemory hports) hfault'
    (congrArg Fuses.word hfuses')

end View

namespace Machine

variable {t : Target} {d : Descriptor} {led : PinRef} {size : UInt64} {m n : Machine}

/-- All that a machine remembers, its counters and its journal apart. -/
structure State where
  target : Target
  led : PinRef
  chip : ChipState
  cyclesPerNop : UInt64
  level : Bool
  deriving DecidableEq, Repr

def state (m : Machine) : State :=
  ⟨m.target, m.led, m.bus.chip, m.bus.cyclesPerNop, m.program.level⟩

/-- Two machines in service that have shown different things up to some point, and since then the
    same, the second one so much later. The view is that of somebody who saw nothing before. -/
structure Echoes (t : Target) (d : Descriptor) (led : PinRef) (size : UInt64) (g : Lag)
    (first second : List Event) (v : View) (m n : Machine) : Prop where
  ready : m.Ready t d led size
  echo_ready : n.Ready t d led size
  view_eq : m.bus.view = v.later ⟨0, 0, 0⟩ first
  echo_view_eq : n.bus.view = v.later g second
  level_eq : n.program.level = m.program.level
  passes_eq : n.passes = m.passes + g.passes
  cycles_eq : n.bus.cycles.toNat = m.bus.cycles.toNat + g.cycles.toNat

variable {g : Lag} {first second : List Event} {v : View}

theorem Echoes.state_eq (h : Echoes t d led size g first second v m n) : n.state = m.state := by
  have hchip : ∀ b : Bus, b.chip = b.view.chip := fun _ => rfl
  have hper : ∀ b : Bus, b.cyclesPerNop = b.view.clock.cyclesPerNop := fun _ => rfl
  rw [state, state, hchip, hchip, hper, hper, h.view_eq, h.echo_view_eq, h.level_eq,
    h.ready.target_eq, h.ready.led_eq, h.echo_ready.target_eq, h.echo_ready.led_eq]
  rfl

theorem Echoes.events_eq (h : Echoes t d led size g first second v m n) :
    m.bus.journal.events = first ++ v.events ∧
      n.bus.journal.events = second ++ v.events.map (Event.later g) := by
  have hevents : ∀ b : Bus, b.journal.events = b.view.events := fun _ => rfl
  rw [hevents, hevents, h.view_eq, h.echo_view_eq, View.later, View.later, Event.later_zero,
    List.map_id]
  exact ⟨rfl, rfl⟩

theorem expires_eq_of_state (h : n.state = m.state) : n.expires = m.expires := by
  simp only [state, State.mk.injEq] at h
  obtain ⟨-, -, hchip, hper, -⟩ := h
  rw [expires, expires, hchip, hper]

theorem cost_eq_of_state (h : n.state = m.state) (c : Command) : n.cost c = m.cost c := by
  have hexpires := expires_eq_of_state h
  simp only [state, State.mk.injEq] at h
  obtain ⟨htarget, -, -, hper, -⟩ := h
  cases c with
  | step => rw [cost_step, cost_step, hexpires, htarget, hper]
  | reset => rw [cost, cost, htarget]
  | burn word => rfl
  | stop => rfl

/-- Where the later machine has room for a command, both carry it out alike. -/
theorem Echoes.exists_perform (h : Echoes t d led size g first second v m n) (c : Command)
    (hroom : n.bus.cycles.toNat + n.cost c < UInt64.size) :
    ∃ m' n', m.perform c = .ok m' ∧ n.perform c = .ok n' ∧
      Echoes t d led size g first second (v.perform t m.passes c) m' n' := by
  have hcost : n.cost c = m.cost c := cost_eq_of_state h.state_eq c
  have hroom' : m.bus.cycles.toNat + m.cost c < UInt64.size := by
    rw [h.cycles_eq, hcost] at hroom
    omega
  obtain ⟨b, hview, hperform⟩ := h.ready.exists_perform c hroom'
  obtain ⟨b', hview', hperform'⟩ := h.echo_ready.exists_perform c hroom
  refine ⟨_, _, hperform, hperform', h.ready.after hroom' hview,
    h.echo_ready.after hroom hview', ?_, ?_, ?_, ?_, ?_⟩
  · have hpasses : m.passes + (⟨0, 0, 0⟩ : Lag).passes = m.passes := UInt64.add_zero _
    rw [bus_after, hview, h.view_eq, ← View.perform_later, hpasses]
  · rw [bus_after, hview', h.echo_view_eq, h.passes_eq, View.perform_later]
  · have hexpires := expires_eq_of_state h.state_eq
    cases c with
    | step => simp only [after, hexpires, h.level_eq]
    | reset => rfl
    | burn word => exact h.level_eq
    | stop => exact h.level_eq
  · cases c with
    | step =>
      simp only [after, h.passes_eq]
      rw [UInt64.add_assoc, UInt64.add_comm g.passes, UInt64.add_assoc]
    | reset => exact h.passes_eq
    | burn word => exact h.passes_eq
    | stop => exact h.passes_eq
  · rw [h.ready.cycles_of_perform hroom' hperform, h.echo_ready.cycles_of_perform hroom hperform',
      h.cycles_eq, hcost]
    omega

theorem Echoes.exists_run (h : Echoes t d led size g first second v m n) {more : List Command}
    (hfits : n.Fits more) :
    ∃ m' n' v', m.run more = .ok m' ∧ n.run more = .ok n' ∧
      Echoes t d led size g first second v' m' n' := by
  induction more generalizing m n v with
  | nil => exact ⟨m, n, v, rfl, rfl, h⟩
  | cons c rest ih =>
    obtain ⟨m', n', hperform, hperform', h'⟩ := h.exists_perform c hfits.1
    obtain ⟨m'', n'', v'', hrun, hrun', h''⟩ := ih h' (hfits.2 n' hperform')
    refine ⟨m'', n'', v'', ?_, ?_, h''⟩
    · rw [run, hperform]
      exact hrun
    · rw [run, hperform']
      exact hrun'

/-- A machine in service on whose chip nothing but its program has been at work since the boot. -/
structure Undisturbed (t : Target) (d : Descriptor) (led : PinRef) (size : UInt64) (m : Machine) :
    Prop extends Ready t d led size m where
  fuses_eq : m.bus.view.fuses = (View.burned t d size).fuses
  marked : m.bus.view.Marked t size m.program.level

theorem Booted.undisturbed (h : m.Booted t d led size) : m.Undisturbed t d led size := by
  refine ⟨h.toReady, ?_, ?_⟩
  · rw [h.view_eq, View.inert_fuses.startup]
  · rw [h.view_eq, h.level_eq]
    exact (View.marked_burned t d size).startup

theorem Undisturbed.exists_perform (h : m.Undisturbed t d led size) {c : Command}
    (hburn : ∀ word, c ≠ .burn word) (hroom : m.bus.cycles.toNat + m.cost c < UInt64.size) :
    ∃ m', m.perform c = .ok m' ∧ m'.Undisturbed t d led size := by
  obtain ⟨b, hview, hperform⟩ := h.toReady.exists_perform c hroom
  refine ⟨_, hperform, h.toReady.after hroom hview, ?_, ?_⟩
  · rw [bus_after, hview, View.fuses_perform _ t m.passes hburn, h.fuses_eq]
  · rw [bus_after, hview]
    cases c with
    | step =>
      have hturn := (h.marked.turn m.passes).of_contents_eq
        (View.contents_endPass _ m.bus.cyclesPerNop)
      rw [view_perform_step h.sound t hroom, after]
      cases m.expires with
      | false => exact hturn
      | true => exact (hturn.of_contents_eq (View.contents_release _)).restart .watchdog
    | reset => exact h.marked.restart .powerOn
    | burn word => exact absurd rfl (hburn word)
    | stop => exact h.marked

theorem Undisturbed.exists_run (h : m.Undisturbed t d led size) {cmds : List Command}
    (hburn : ∀ word, .burn word ∉ cmds) (hfits : m.Fits cmds) :
    ∃ m', m.run cmds = .ok m' ∧ m'.Undisturbed t d led size := by
  refine exists_run_of_forall (P := fun c => ∀ word, c ≠ .burn word)
    (I := fun _ m => m.Undisturbed t d led size) ?_ h ?_ hfits
  · exact fun _ _ _ hc h hroom => h.exists_perform hc hroom
  · rintro c hc word rfl
    exact hburn word hc

/-- The machine that a power-on reset leaves does what the machine fresh from its boot does. -/
theorem Undisturbed.echoes (h : n.Undisturbed t d led size) (hsound : d.Sound size)
    (hboot : m.Booted t d led size) (hroom : n.bus.cycles.toNat + n.cost .reset < UInt64.size) :
    ∃ n', n.reset = .ok n' ∧ n'.passes = n.passes ∧ n'.bus.nops = n.bus.nops ∧
      n'.watchdogResets = n.watchdogResets ∧
      Echoes t d led size ⟨n.bus.cycles, n.bus.nops, n.passes⟩ m.bus.journal.events
        n'.bus.journal.events m.bus.view.unseen m n' := by
  obtain ⟨b, hview, hperform⟩ := h.toReady.exists_perform .reset hroom
  have hrestarted : b.view = n.bus.view.restart t .powerOn := hview
  have hcycles := h.cycles_of_perform hroom hperform
  refine ⟨n.after b .reset, hperform, rfl, ?_, rfl, ⟨hboot.toReady, h.toReady.after hroom hview,
    View.eq_unseen_later_zero _, ?_, hboot.level_eq.symm, ?_, ?_⟩⟩
  · change b.view.clock.nops = n.bus.nops
    rw [hrestarted, View.restart, View.inert_nops.startup]
    rfl
  · have hsame := View.restart_powerOn hsound h.build_eq h.maps h.fault_eq h.fuses_eq h.marked
      n.passes
    rw [← hrestarted, ← hboot.view_eq] at hsame
    exact hsame
  · rw [hboot.passes_eq]
    exact (UInt64.zero_add n.passes).symm
  · rw [hcycles, hboot.cycles_eq, cost, h.target_eq, Nat.add_comm]

/-- Whatever steps and resets came before, a power-on reset takes a machine back to its state right
    after the boot; the counts of turns, no-ops and resets by the watchdog stay. From there on it
    does and shows what it would have done and shown after the boot, as much later as the reset
    came. -/
theorem reset_of_powerUp {t : Target} {d : Descriptor} {led : PinRef} {m : Machine}
    (hcheck : d.check = .ok ()) (hboot : powerUp t d led = .ok m) {cmds : List Command}
    (hburn : ∀ word, .burn word ∉ cmds) (hfits : m.Fits (cmds ++ [.reset])) :
    ∃ m' n, m.run cmds = .ok m' ∧ m'.reset = .ok n ∧ n.state = m.state ∧
      n.passes = m'.passes ∧ n.bus.nops = m'.bus.nops ∧ n.watchdogResets = m'.watchdogResets ∧
      ∀ more, n.Fits more → ∃ m₁ n₁ shown, m.run more = .ok m₁ ∧ n.run more = .ok n₁ ∧
        n₁.state = m₁.state ∧ m₁.bus.journal.events = m.bus.journal.events ++ shown ∧
        n₁.bus.journal.events = n.bus.journal.events ++
          shown.map (Event.later ⟨m'.bus.cycles, m'.bus.nops, m'.passes⟩) := by
  obtain ⟨size, hsound, hbooted⟩ := booted_of_powerUp hcheck hboot
  obtain ⟨hfirst, hlast⟩ := hfits.of_append
  obtain ⟨m', hrun, hundisturbed⟩ := hbooted.undisturbed.exists_run hburn hfirst
  obtain ⟨n, hreset, hpasses, hnops, hresets, hechoes⟩ :=
    hundisturbed.echoes hsound hbooted (hlast m' hrun).1
  refine ⟨m', n, hrun, hreset, hechoes.state_eq, hpasses, hnops, hresets, ?_⟩
  intro more hmore
  obtain ⟨m₁, n₁, v, hrun₁, hrun₂, hechoes'⟩ := hechoes.exists_run hmore
  obtain ⟨hevents, hevents'⟩ := hechoes'.events_eq
  exact ⟨m₁, n₁, v.events, hrun₁, hrun₂, hechoes'.state_eq, hevents, hevents'⟩

/-- So it is where the program takes a direction register for the LED's port and that port for a
    direction register. -/
theorem reset_of_powerUp_crossed :
    ∃ m m' n m₁ n₁, powerUp .pic16f1823 .crossed ⟨"portx", 3⟩ = .ok m ∧
      m.run [.step, .reset, .step, .step] = .ok m' ∧ m'.reset = .ok n ∧ n.state = m.state ∧
      m.run [.step] = .ok m₁ ∧ n.run [.step] = .ok n₁ ∧ n₁.state = m₁.state := by
  obtain ⟨m, hboot⟩ := exists_powerUp_crossed
  obtain ⟨size, -, hready⟩ := booted_of_powerUp check_crossed hboot
  have hfits : m.Fits ([.step, .reset, .step, .step] ++ [.reset] ++ [.step]) :=
    hready.fits (by decide)
  obtain ⟨hfirst, hlast⟩ := hfits.of_append
  obtain ⟨m', n, hrun, hreset, hstate, -, -, -, hmore⟩ :=
    reset_of_powerUp check_crossed hboot (by simp) hfirst
  have hrun' : m.run ([.step, .reset, .step, .step] ++ [.reset]) = .ok n := by
    rw [run_append hrun, run, show m'.perform .reset = .ok n from hreset]
    rfl
  obtain ⟨m₁, n₁, -, hrun₁, hrun₂, hstate₁, -⟩ := hmore [.step] (hlast n hrun')
  exact ⟨m, m', n, m₁, n₁, hboot, hrun, hreset, hstate, hrun₁, hrun₂, hstate₁⟩

end Machine

end LedBench.Bench
