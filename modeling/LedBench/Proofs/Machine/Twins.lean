import LedBench.Proofs.Bus.Twins
import LedBench.Proofs.Machine.Boot

namespace LedBench.Bench

open Chip Firmware

namespace Machine

/-- A machine that differs from this one in the notes of its log alone. -/
structure Twin (m m' : Machine) : Prop where
  target_eq : m'.target = m.target
  led_eq : m'.led = m.led
  view_eq : m'.bus.view = m.bus.view
  level_eq : m'.program.level = m.program.level
  passes_eq : m'.passes = m.passes
  resets_eq : m'.watchdogResets = m.watchdogResets

/-- A machine on a chip that is built so: something answers wherever its program reaches, no failed
    access is pending, and the changes of its LED were told in order. -/
structure Running (t : Target) (led : PinRef) (k : Build) (m : Machine) : Prop where
  target_eq : m.target = t
  led_eq : m.led = led
  build_eq : m.bus.view.build = k
  maps : k.decoding.startupViolation? t = none
  fault_eq : m.bus.view.fault = none
  inOrder : m.bus.view.InOrder led

variable {t : Target} {led : PinRef} {k : Build} {m m' : Machine}

theorem Twin.withBus (m : Machine) {b : Bus} (hview : b.view = m.bus.view) : m.Twin (m.withBus b) :=
  ⟨rfl, rfl, hview, rfl, rfl, rfl⟩

/-- A program none of whose accesses failed goes on as it is. -/
theorem settle_of_none {σ : Type} (wrap : Blinker Bus → σ) {p : Blinker Bus}
    (h : p.hardware.chip.fault = none) : settle wrap p = .ok p := by
  obtain ⟨⟨⟨memory, ports, watchdog, configWord, fault, resetRequested⟩, pace, cycles, nops,
    journal⟩, level⟩ := p
  obtain rfl : fault = none := h
  rfl

theorem Running.twin (h : m.Running t led k) (htwin : m.Twin m') : m'.Running t led k where
  target_eq := htwin.target_eq.trans h.target_eq
  led_eq := htwin.led_eq.trans h.led_eq
  build_eq := (congrArg View.build htwin.view_eq).trans h.build_eq
  maps := h.maps
  fault_eq := (congrArg View.fault htwin.view_eq).trans h.fault_eq
  inOrder := htwin.view_eq ▸ h.inOrder

theorem Running.stop (h : m.Running t led k) : m.stop.Running t led k where
  target_eq := h.target_eq
  led_eq := h.led_eq
  build_eq := by
    change (m.bus.emit .stop).view.build = k
    rw [Bus.view_emit]
    exact h.build_eq
  maps := h.maps
  fault_eq := h.fault_eq
  inOrder := by
    change (m.bus.emit .stop).view.InOrder led
    rw [Bus.view_emit]
    exact h.inOrder.emit rfl

/-- A machine that runs has come from another one by so many turns of the loop in so many cycles. -/
structure Advanced (t : Target) (led : PinRef) (k : Build) (m : Machine) (turns cycles : Nat)
    (n : Machine) : Prop extends Running t led k n where
  passes_eq : n.passes.toNat = m.passes.toNat + turns
  cycles_eq : n.bus.cycles.toNat = m.bus.cycles.toNat + cycles

theorem startOver_twins (h : m.Running t led k) (htwin : m.Twin m') (cause : ResetCause) :
    (∃ n n', m.startOver cause = .ok n ∧ m'.startOver cause = .ok n' ∧ n.Twin n' ∧
        Advanced t led k m 0 t.startupCycles n) ∨
      ∃ s s', m.startOver cause = .error ⟨.trap, s⟩ ∧ m'.startOver cause = .error ⟨.trap, s'⟩ := by
  have hmaps : m.bus.view.build.decoding.startupViolation? t = none := h.build_eq ▸ h.maps
  have hreset : ∀ b : Bus, ((b.emit (.reset cause)).reset cause).view =
      (b.view.emit (.reset cause)).reset cause := by
    intro b
    rw [Bus.view_reset, Bus.view_emit]
  have hviews : ((m'.bus.emit (.reset cause)).reset cause).view =
      ((m.bus.emit (.reset cause)).reset cause).view := by
    rw [hreset, hreset, htwin.view_eq]
  have hrestart : ∀ n : Machine, n.target = t →
      (n.withBus ((n.bus.emit (.reset cause)).reset cause)).program.restart n.target =
        Blinker.start t ((n.bus.emit (.reset cause)).reset cause) := by
    rintro n rfl
    rfl
  rw [startOver, startOver, hrestart m h.target_eq,
    hrestart m' (htwin.target_eq.trans h.target_eq)]
  rcases Bus.start_twins hviews t with
    ⟨p, p', hp, hp', hmoved, hview, hlevel, hlevel'⟩ | ⟨e, e', he, he'⟩
  · have hrestarted : p.hardware.view = m.bus.view.restart t cause := by
      rw [hmoved.view_eq, hreset, View.restart]
    have hfault : p.hardware.view.fault = none := by
      rw [hrestarted, View.fault_restart hmaps, h.fault_eq]
    have hkept : p.hardware.chip.fault = none := hfault
    have hkept' : p'.hardware.chip.fault = none := (congrArg View.fault hview).trans hfault
    have horder : (m.bus.view.emit (.reset cause)).InOrder led := h.inOrder.emit rfl
    have horder' : ((m.bus.view.emit (.reset cause)).reset cause).InOrder led :=
      horder.tells (View.tells_operate _ (.reset cause)) (UInt64.le_refl _)
    simp only [hp, hp', settle_of_none _ hkept, settle_of_none _ hkept']
    refine .inl ⟨_, _, rfl, rfl, ⟨htwin.target_eq, htwin.led_eq, hview, ?_, htwin.passes_eq,
      htwin.resets_eq⟩, ⟨⟨h.target_eq, h.led_eq, ?_, h.maps, hfault, ?_⟩, rfl, ?_⟩⟩
    · exact hlevel'.trans hlevel.symm
    · exact (congrArg View.build hrestarted).trans ((View.build_restart ..).trans h.build_eq)
    · exact hmoved.inOrder led (by rwa [hreset])
    · refine hmoved.cycles_eq.trans ?_
      rw [Bus.cycles_eq_of_view (hreset m.bus)]
      rfl
  · rw [he, he']
    exact .inr ⟨_, _, rfl, rfl⟩

section Turn

variable {q : Blinker Bus}
  (hq : (m.withBus (m.bus.emit (.passStart m.passes))).program.pass m.target = .ok q)
  (hfault : q.hardware.chip.fault = none)
include hq hfault

/-- A turn that cannot be counted traps. -/
private theorem step_trap_of_pass (hnone : Counter.add? m.passes 1 = none) :
    ∃ s, m.step = .error ⟨.trap, s⟩ := by
  rw [step]
  simp only [show (m.withBus (m.bus.emit (.passStart m.passes))).target = m.target from rfl, hq,
    settle_of_none _ hfault]
  simp only [bind, Except.bind, withBus, hnone]
  exact ⟨_, rfl⟩

/-- What a step does when a turn of the loop has come to its end without a failed access. -/
private theorem step_of_pass {passes used : UInt64}
    (hpasses : Counter.add? m.passes 1 = some passes)
    (hused : Counter.sub? q.hardware.cycles m.bus.cycles = some used) :
    m.step = if q.hardware.chip.resetRequested then
        match Counter.add? m.watchdogResets 1 with
        | none => .error ⟨.trap, { m with
            program := ⟨(q.hardware.emit (.passEnd used)).takeResetRequest.2, q.level⟩
            passes }⟩
        | some count => { m with
            program := ⟨(q.hardware.emit (.passEnd used)).takeResetRequest.2.note
              (.watchdogReset count q.hardware.cycles), q.level⟩
            passes
            watchdogResets := count : Machine }.startOver .watchdog
      else .ok { m with
        program := ⟨(q.hardware.emit (.passEnd used)).takeResetRequest.2, q.level⟩
        passes } := by
  rw [step]
  simp only [show (m.withBus (m.bus.emit (.passStart m.passes))).target = m.target from rfl, hq,
    settle_of_none _ hfault]
  unfold bus at hused ⊢
  simp only [bind, Except.bind, pure, Except.pure, withBus, hpasses, hused]
  rfl

end Turn

theorem Advanced.trans {n o : Machine} {turns cycles more moreCycles : Nat}
    (h : Advanced t led k m turns cycles n) (h' : Advanced t led k n more moreCycles o) :
    Advanced t led k m (turns + more) (cycles + moreCycles) o where
  toRunning := h'.toRunning
  passes_eq := by rw [h'.passes_eq, h.passes_eq, Nat.add_assoc]
  cycles_eq := by rw [h'.cycles_eq, h.cycles_eq, Nat.add_assoc]

/-- A turn of the loop that came to its end without a failed access, on both machines. -/
private theorem exists_pass_twins (h : m.Running t led k) (htwin : m.Twin m') :
    (∃ q q', (m.withBus (m.bus.emit (.passStart m.passes))).program.pass m.target = .ok q ∧
        (m'.withBus (m'.bus.emit (.passStart m'.passes))).program.pass m'.target = .ok q' ∧
        q'.hardware.view = q.hardware.view ∧ q'.level = q.level ∧
        q.hardware.chip.fault = none ∧ q.hardware.view.build = k ∧
        q.hardware.view.InOrder led ∧
        q.hardware.cycles.toNat = m.bus.cycles.toNat + passCycles k.cyclesPerNop) ∨
      ∃ e e', (m.withBus (m.bus.emit (.passStart m.passes))).program.pass m.target = .error e ∧
        (m'.withBus (m'.bus.emit (.passStart m'.passes))).program.pass m'.target = .error e' := by
  have hmaps : m.bus.view.build.decoding.startupViolation? t = none := h.build_eq ▸ h.maps
  have hpace : m.bus.cyclesPerNop = k.cyclesPerNop := congrArg Build.cyclesPerNop h.build_eq
  have hstart : (m.bus.emit (.passStart m.passes)).view = m.bus.view.emit (.passStart m.passes) :=
    Bus.view_emit ..
  have hstart' : (m'.withBus (m'.bus.emit (.passStart m'.passes))).program.hardware.view =
      (m.withBus (m.bus.emit (.passStart m.passes))).program.hardware.view := by
    change (m'.bus.emit (.passStart m'.passes)).view = (m.bus.emit (.passStart m.passes)).view
    rw [hstart, Bus.view_emit, htwin.view_eq, htwin.passes_eq]
  rw [htwin.target_eq, h.target_eq]
  rcases Bus.pass_twins hstart' htwin.level_eq t with
    ⟨q, q', hq, hq', hmoved, hview, hlevel⟩ | hfailed
  · have hviews : q.hardware.view = m.bus.view.turn t m.passes :=
      hmoved.view_eq.trans (congrArg (View.pass t) hstart)
    refine .inl ⟨q, q', hq, hq', hview, hlevel, ?_, ?_, hmoved.inOrder led ?_, ?_⟩
    · have hfault : q.hardware.view.fault = none := by
        rw [hviews, View.fault_turn hmaps, h.fault_eq]
      exact hfault
    · rw [hviews, View.build_turn, h.build_eq]
    · change (m.bus.emit (.passStart m.passes)).view.InOrder led
      rw [hstart]
      exact h.inOrder.emit rfl
    · rw [← hpace]
      exact hmoved.cycles_eq
  · exact .inr hfailed

/-- A turn with a failed access traps. -/
private theorem step_trap_of_failed {e : Bus}
    (he : (m.withBus (m.bus.emit (.passStart m.passes))).program.pass m.target = .error e) :
    ∃ s, m.step = .error ⟨.trap, s⟩ := by
  rw [step]
  simp only [show (m.withBus (m.bus.emit (.passStart m.passes))).target = m.target from rfl, he]
  exact ⟨_, rfl⟩

private theorem view_endPass (b : Bus) (used : UInt64) :
    (b.emit (.passEnd used)).takeResetRequest.2.view = (b.view.emit (.passEnd used)).release := by
  rw [Bus.view_takeResetRequest, Bus.view_emit]

/-- A machine has advanced by a turn once the turn is counted, whatever it notes of it. -/
private theorem advanced_of_pass (h : m.Running t led k) {q : Blinker Bus}
    (hfault : q.hardware.chip.fault = none) (hbuild : q.hardware.view.build = k)
    (horder : q.hardware.view.InOrder led) {cycles : Nat}
    (hcycles : q.hardware.cycles.toNat = m.bus.cycles.toNat + cycles)
    {passes : UInt64} (hpasses : Counter.add? m.passes 1 = some passes) {used : UInt64} {b : Bus}
    (hb : b.view = (q.hardware.view.emit (.passEnd used)).release) (resets : UInt64) :
    Advanced t led k m 1 cycles
      { m with program := ⟨b, q.level⟩, passes, watchdogResets := resets } := by
  have hended := horder.emit (e := .passEnd used) rfl
  refine ⟨⟨h.target_eq, h.led_eq, ?_, h.maps, ?_, ?_⟩, ?_, ?_⟩
  · exact (congrArg View.build hb).trans hbuild
  · exact (congrArg View.fault hb).trans hfault
  · exact hb ▸ ⟨hended.ordered, hended.past⟩
  · exact Counter.add?_eq_some.mp hpasses
  · rw [← hcycles]
    exact congrArg UInt64.toNat (Bus.cycles_eq_of_view hb)

/-- Twins go on as twins from buses that show the same, with the same counts. -/
private theorem Twin.turned (h : m.Twin m') {b b' : Bus} (hview : b'.view = b.view)
    {level level' : Bool} (hlevel : level' = level) (passes resets : UInt64) :
    Twin { m with program := ⟨b, level⟩, passes, watchdogResets := resets }
      { m' with program := ⟨b', level'⟩, passes, watchdogResets := resets } :=
  ⟨h.target_eq, h.led_eq, hview, hlevel, rfl, rfl⟩

/-- Starting over adds the cycles of the initializer. -/
theorem Advanced.startOver_twins {n n' : Machine} {turns cycles : Nat}
    (h : Advanced t led k m turns cycles n) (htwin : n.Twin n') (cause : ResetCause) :
    (∃ o o', n.startOver cause = .ok o ∧ n'.startOver cause = .ok o' ∧ o.Twin o' ∧
        Advanced t led k m turns (cycles + t.startupCycles) o) ∨
      ∃ s s', n.startOver cause = .error ⟨.trap, s⟩ ∧ n'.startOver cause = .error ⟨.trap, s'⟩ := by
  rcases Machine.startOver_twins h.toRunning htwin cause with
    ⟨o, o', ho, ho', htwin', hstarted⟩ | htrap
  · exact .inl ⟨o, o', ho, ho', htwin', h.trans hstarted⟩
  · exact .inr htrap

/-- A step makes a turn of the loop, and starts over as well if the watchdog asks for it. -/
theorem step_twins (h : m.Running t led k) (htwin : m.Twin m') :
    (∃ n n' restarts, m.step = .ok n ∧ m'.step = .ok n' ∧ n.Twin n' ∧ restarts ≤ 1 ∧
        Advanced t led k m 1 (passCycles k.cyclesPerNop + restarts * t.startupCycles) n) ∨
      ∃ s s', m.step = .error ⟨.trap, s⟩ ∧ m'.step = .error ⟨.trap, s'⟩ := by
  rcases exists_pass_twins h htwin with
    ⟨q, q', hq, hq', hview, hlevel, hfault, hbuild, horder, hcycles⟩ | ⟨e, e', he, he'⟩
  case inr =>
    obtain ⟨s, hs⟩ := step_trap_of_failed he
    obtain ⟨s', hs'⟩ := step_trap_of_failed he'
    exact .inr ⟨s, s', hs, hs'⟩
  have hfault' : q'.hardware.chip.fault = none := (congrArg View.fault hview).trans hfault
  cases hpasses : Counter.add? m.passes 1 with
  | none =>
    obtain ⟨s, hs⟩ := step_trap_of_pass hq hfault hpasses
    obtain ⟨s', hs'⟩ := step_trap_of_pass hq' hfault' (by rwa [htwin.passes_eq])
    exact .inr ⟨s, s', hs, hs'⟩
  | some passes =>
  obtain ⟨used, hused⟩ : ∃ used, Counter.sub? q.hardware.cycles m.bus.cycles = some used := by
    rw [← Option.ne_none_iff_exists', Ne, Counter.sub?_eq_none]
    omega
  have hpasses' : Counter.add? m'.passes 1 = some passes := by rwa [htwin.passes_eq]
  have hused' : Counter.sub? q'.hardware.cycles m'.bus.cycles = some used := by
    rwa [Bus.cycles_eq_of_view hview, Bus.cycles_eq_of_view htwin.view_eq]
  have hasked : q'.hardware.chip.resetRequested = q.hardware.chip.resetRequested :=
    congrArg (·.clock.resetRequested) hview
  have hended := view_endPass q.hardware used
  have hended' := view_endPass q'.hardware used
  rw [hview] at hended'
  rw [step_of_pass hq hfault hpasses hused, step_of_pass hq' hfault' hpasses' hused', hasked,
    htwin.resets_eq]
  cases q.hardware.chip.resetRequested with
  | false =>
    have hadvanced := advanced_of_pass h hfault hbuild horder hcycles hpasses hended
      m.watchdogResets
    have hturned := htwin.turned (hended'.trans hended.symm) hlevel passes m.watchdogResets
    exact .inl ⟨_, _, 0, rfl, rfl, hturned, Nat.zero_le _, by simpa using hadvanced⟩
  | true =>
    cases Counter.add? m.watchdogResets 1 with
    | none => exact .inr ⟨_, _, rfl, rfl⟩
    | some count =>
      have hnoted := (Bus.view_note _ (.watchdogReset count q.hardware.cycles)).trans hended
      have hnoted' := (Bus.view_note _ (.watchdogReset count q'.hardware.cycles)).trans hended'
      have hadvanced := advanced_of_pass h hfault hbuild horder hcycles hpasses hnoted count
      have hturned := htwin.turned (hnoted'.trans hnoted.symm) hlevel passes count
      rcases hadvanced.startOver_twins hturned .watchdog with
        ⟨n, n', hn, hn', htwin', hrestarted⟩ | htrap
      · exact .inl ⟨n, n', 1, hn, hn', htwin', Nat.le_refl _, by simpa using hrestarted⟩
      · exact .inr htrap

/-- A chip that can be laid out is powered up with its registers as described. -/
private theorem exists_powered {d : Descriptor} {bus : Bus} (h : Bus.ofDescriptor d = .ok bus) :
    ∃ size, bus.view = .powered d size := by
  unfold Bus.ofDescriptor at h
  split at h
  · cases h
  · rename_i size _
    split at h
    · cases h
    · cases h
      exact ⟨size, rfl⟩

/-- A machine that boots runs on its chip, and no turn of its loop is done. -/
theorem running_of_powerUp {d : Descriptor} (hboot : powerUp t d led = .ok m) :
    ∃ k, m.Running t led k ∧ k.decoding.ports = d.ports ∧
      k.cyclesPerNop = d.cyclesPerDelayIteration ∧ m.passes = 0 := by
  rw [powerUp] at hboot
  split at hboot
  · cases hboot
  rename_i bus hbus
  split at hboot
  · cases hboot
  rename_i n hn
  cases hboot
  obtain ⟨size, hpowered⟩ := exists_powered hbus
  obtain ⟨b, hview, p, hstart, hfault, rfl⟩ := exists_boot hn
  rw [hpowered] at hview
  have hnone : b.view.events.filterMap (Event.change? led) = [] := by
    rw [hview]
    rfl
  have horder : b.view.InOrder led := ⟨by simp [hnone], by simp [hnone]⟩
  rcases Bus.start_twins (rfl : b.view = b.view) t with
    ⟨p', -, hstart', -, hmoved, -, -, -⟩ | ⟨e, -, hstart', -⟩
  · obtain rfl : p = p' := Except.ok.inj (hstart.symm.trans hstart')
    have hkept : p.hardware.view.fault = none := hfault
    have hmaps := hkept
    rw [hmoved.view_eq, View.fault_startup, hview] at hmaps
    have hbuild : p.hardware.view.build = (View.powered d size).build := by
      rw [hmoved.view_eq, View.build_startup, hview]
      rfl
    refine ⟨(View.powered d size).build, ⟨rfl, rfl, hbuild, hmaps, rfl, ?_⟩, ?_, rfl, rfl⟩
    · have horder' := hmoved.inOrder led horder
      exact ⟨horder'.ordered, horder'.past⟩
    · have hlayout : (fun l => (Port.powered l).layout) = id := rfl
      simp [View.powered, View.build, Contents.decoding, Function.comp_def, hlayout]
  · rw [hstart] at hstart'
    cases hstart'

end Machine

end LedBench.Bench
