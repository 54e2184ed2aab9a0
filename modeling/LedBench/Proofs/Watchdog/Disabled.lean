import Mathlib.Data.List.DropRight
import LedBench.Proofs.Machine.Reports
import LedBench.Proofs.Machine.Restart
import LedBench.Proofs.Watchdog.Schedule

namespace LedBench.Chip

/-- The watchdog runs under this configuration word. -/
def Descriptor.EnabledBy (d : Descriptor) (word : UInt16) : Prop :=
  d.watchdog.isEnabled word = true ∧ d.exactPeriod ≠ 0

instance (d : Descriptor) (word : UInt16) : Decidable (d.EnabledBy word) :=
  inferInstanceAs (Decidable (_ ∧ _))

end LedBench.Chip

namespace LedBench.Bench

open Chip Firmware

namespace Command

/-- The configuration word after a command. -/
def word (before : UInt16) : Command → UInt16
  | .burn word => word
  | _ => before

/-- The command takes no time. -/
def isInstant : Command → Bool
  | .burn _ => true
  | .stop => true
  | _ => false

end Command

/-- The configuration word after these commands of a booted machine. -/
def wordAfter (t : Target) (cmds : List Command) : UInt16 := cmds.foldl Command.word t.config.value

/-- A reset by the watchdog is pending after these commands: the last initializer or turn of the
    loop ran under a word that enables the watchdog, and the period is no longer than an
    initializer. -/
def Owes (d : Descriptor) (t : Target) (cmds : List Command) : Prop :=
  d.EnabledBy (wordAfter t (cmds.rdropWhile Command.isInstant)) ∧ d.exactPeriod ≤ t.startupCycles

instance (d : Descriptor) (t : Target) (cmds : List Command) : Decidable (Owes d t cmds) :=
  inferInstanceAs (Decidable (_ ∧ _))

theorem wordAfter_concat (t : Target) (cmds : List Command) (c : Command) :
    wordAfter t (cmds ++ [c]) = c.word (wordAfter t cmds) :=
  List.foldl_append

theorem owes_concat_of_isInstant {d : Descriptor} {t : Target} {cmds : List Command} {c : Command}
    (h : c.isInstant = true) : Owes d t (cmds ++ [c]) ↔ Owes d t cmds := by
  rw [Owes, List.rdropWhile_concat_pos _ _ _ h, Owes]

theorem owes_concat_of_not_isInstant {d : Descriptor} {t : Target} {cmds : List Command}
    {c : Command} (h : c.isInstant = false) :
    Owes d t (cmds ++ [c]) ↔
      d.EnabledBy (wordAfter t cmds) ∧ d.exactPeriod ≤ t.startupCycles := by
  have hword : c.word (wordAfter t cmds) = wordAfter t cmds := by
    cases c with
    | burn word => cases h
    | _ => rfl
  rw [Owes, List.rdropWhile_concat_neg _ _ _ (by simp [h]), wordAfter_concat, hword]

namespace View

/-- Right after a restart a reset is pending if the period ended within the initializer. -/
theorem requested_restart {v : View} (hsound : v.clock.Sound) (t : Target) (cause : ResetCause)
    (hroom : v.clock.cycles.toNat + t.startupCycles < UInt64.size) :
    (v.restart t cause).clock.resetRequested =
      (v.clock.watchdog.enabled &&
        decide (v.clock.watchdog.periodCycles.toNat ≤ t.startupCycles)) := by
  rw [(elapsed_restart hsound t cause hroom).1.requested_eq]
  simp [Clock.reset, Watchdog.clear, Watchdog.due]

end View

namespace Machine

variable {t : Target} {d : Descriptor} {led : PinRef} {size : UInt64} {m : Machine}
  {cmds : List Command}

/-- A machine in service after these commands, with what they tell of its watchdog. -/
structure Guarded (t : Target) (d : Descriptor) (led : PinRef) (size : UInt64)
    (cmds : List Command) (m : Machine) : Prop extends Ready t d led size m where
  fuses_eq : m.bus.view.fuses = ⟨wordAfter t cmds, decide (d.EnabledBy (wordAfter t cmds))⟩
  requested_eq : m.bus.view.clock.resetRequested = decide (Owes d t cmds)

theorem Guarded.enabled_eq (h : m.Guarded t d led size cmds) :
    m.bus.view.clock.watchdog.enabled = decide (d.EnabledBy (wordAfter t cmds)) :=
  congrArg Fuses.watchdog h.fuses_eq

theorem Built.period_eq (hsound : d.Sound size) (h : m.Built t d led size) :
    m.bus.view.clock.watchdog.periodCycles.toNat = d.exactPeriod := by
  have hperiod : m.bus.view.clock.watchdog.periodCycles = d.periodCycles :=
    congrArg Build.periodCycles h.build_eq
  rw [hperiod, hsound.periodCycles_toNat, Descriptor.exactPeriod]

theorem Built.enabled_configure (hsound : d.Sound size) (h : m.Built t d led size)
    (word : UInt16) :
    (m.bus.view.clock.watchdog.configure word).enabled = decide (d.EnabledBy word) := by
  have hlayout : m.bus.view.clock.watchdog.layout = d.watchdog :=
    congrArg Build.watchdog h.build_eq
  have hperiod : 0 < m.bus.view.clock.watchdog.periodCycles ↔ d.exactPeriod ≠ 0 := by
    rw [UInt64.lt_iff_toNat_lt, h.period_eq hsound, UInt64.toNat_zero, Nat.pos_iff_ne_zero]
  rw [Watchdog.configure, hlayout, Bool.eq_iff_iff, Bool.and_eq_true, decide_eq_true_iff,
    decide_eq_true_iff, hperiod, Descriptor.EnabledBy]

theorem Booted.guarded (hsound : d.Sound size) (h : m.Booted t d led size) :
    m.Guarded t d led size [] := by
  have hstarted := View.started_burned hsound t
  refine ⟨h.toReady, ?_, hstarted.requested h.elapsed⟩
  rw [h.view_eq, View.inert_fuses.startup]
  exact congrArg (Fuses.mk _) hstarted.enabled_eq

/-- A period no longer than an initializer ends within any turn of the loop. -/
theorem Built.expires_of_short (hsound : d.Sound size) (h : m.Built t d led size)
    (henabled : m.bus.view.clock.watchdog.enabled = true)
    (hshort : d.exactPeriod ≤ t.startupCycles) : m.expires = true := by
  have hstart : t.startupCycles ≤ 4 := by cases t <;> decide
  have hpace : 0 < m.bus.cyclesPerNop.toNat := h.sound.clock.delay_pos
  have hpass : t.startupCycles ≤ passCycles m.bus.cyclesPerNop := by
    rw [passCycles, blinkDelay]
    omega
  have hperiod := h.period_eq hsound
  have hdue : m.bus.view.clock.watchdog.due (passCycles m.bus.cyclesPerNop) = true :=
    Watchdog.due_iff.mpr ⟨henabled, by omega⟩
  rw [expires, Bool.or_eq_true]
  exact .inr hdue

/-- The pending reset of a machine after a turn of the loop or a start from the top. -/
private theorem Built.requested_perform (hsound : d.Sound size) (h : m.Built t d led size)
    {c : Command} (hc : c.isInstant = false)
    (hroom : m.bus.cycles.toNat + m.cost c < UInt64.size) :
    (m.bus.view.perform t m.passes c).clock.resetRequested =
      (m.bus.view.clock.watchdog.enabled && decide (d.exactPeriod ≤ t.startupCycles)) := by
  have hperiod := h.period_eq hsound
  cases c with
  | step =>
    have hpass := room_turn hroom
    have hrequested := resetRequested_turn h.sound t hpass
    rw [view_perform_step h.sound t hroom]
    cases hexpires : m.expires with
    | false =>
      rw [if_neg (by simp), View.clock_endPass, hrequested, hexpires, eq_comm,
        Bool.and_eq_false_iff, ← Bool.not_eq_true, ← Bool.not_eq_true, decide_eq_true_iff,
        ← not_and_or]
      rintro ⟨henabled, hshort⟩
      rw [h.expires_of_short hsound henabled hshort] at hexpires
      cases hexpires
    | true =>
      rw [cost_step, h.target_eq, hexpires, if_pos rfl] at hroom
      obtain ⟨helapsed, hclock⟩ :=
        View.elapsed_turn (v := m.bus.view) h.sound.clock t m.passes hpass
      rw [if_pos rfl, View.requested_restart]
      · rw [View.clock_release_endPass, Clock.release, helapsed.enabled_eq, helapsed.period_eq,
          hperiod]
      · rw [View.clock_release_endPass]
        exact hclock.release
      · rw [View.clock_release_endPass, Clock.release, helapsed.cycles_eq, Nat.add_assoc]
        exact hroom
  | reset =>
    rw [View.perform, View.requested_restart h.sound.clock, hperiod]
    rwa [cost, h.target_eq] at hroom
  | burn word => cases hc
  | stop => cases hc

/-- Every command of a machine is told of by the commands so far. -/
theorem Guarded.after (hsound : d.Sound size) (h : m.Guarded t d led size cmds) {c : Command}
    (hroom : m.bus.cycles.toNat + m.cost c < UInt64.size) {b : Bus}
    (hview : b.view = m.bus.view.perform t m.passes c) :
    (m.after b c).Guarded t d led size (cmds ++ [c]) := by
  have hlasting : c.isInstant = false →
      (m.bus.view.perform t m.passes c).clock.resetRequested = decide (Owes d t (cmds ++ [c])) := by
    intro hc
    rw [h.requested_perform hsound hc hroom, h.enabled_eq, ← Bool.decide_and,
      decide_eq_decide.mpr (owes_concat_of_not_isInstant hc)]
  refine ⟨h.toReady.after hroom hview, ?_, ?_⟩
  · rw [bus_after, hview, wordAfter_concat]
    cases c with
    | step => exact (View.fuses_perform _ _ _ (by simp)).trans h.fuses_eq
    | reset => exact (View.fuses_perform _ _ _ (by simp)).trans h.fuses_eq
    | burn word => exact congrArg (Fuses.mk word) (h.enabled_configure hsound word)
    | stop => exact h.fuses_eq
  · rw [bus_after, hview]
    cases c with
    | step => exact hlasting rfl
    | reset => exact hlasting rfl
    | burn word => rw [decide_eq_decide.mpr (owes_concat_of_isInstant rfl)]; exact h.requested_eq
    | stop => rw [decide_eq_decide.mpr (owes_concat_of_isInstant rfl)]; exact h.requested_eq

theorem Guarded.exists_run (hsound : d.Sound size) (h : m.Guarded t d led size cmds)
    {more : List Command} (hfits : m.Fits more) :
    ∃ m', m.run more = .ok m' ∧ m'.Guarded t d led size (cmds ++ more) := by
  refine exists_run_of_commands (P := fun _ => True) (I := fun past m => m.Guarded t d led size past)
    ?_ h (fun _ _ => trivial) hfits
  intro past m c _ h hroom
  obtain ⟨b, hview, hperform⟩ := h.exists_perform c hroom
  exact ⟨m.after b c, hperform, h.after hsound hroom hview⟩

/-- With the watchdog off a turn of the loop ends in a reset only if one is pending. -/
theorem Guarded.expires_of_disabled (h : m.Guarded t d led size cmds)
    (hdisabled : m.bus.chip.watchdog.enabled = false) : m.expires = decide (Owes d t cmds) := by
  have hrequested : m.bus.chip.resetRequested = decide (Owes d t cmds) := h.requested_eq
  rw [expires, Watchdog.due_of_disabled hdisabled, Bool.or_false, hrequested]

theorem Guarded.exists_step_of_disabled (h : m.Guarded t d led size cmds)
    (hroom : m.bus.cycles.toNat + m.cost .step < UInt64.size)
    (hdisabled : m.bus.chip.watchdog.enabled = false) :
    ∃ m', m.step = .ok m' ∧
      m'.watchdogResets.toNat = m.watchdogResets.toNat + (if Owes d t cmds then 1 else 0) ∧
      m'.bus.journal.events.count (.reset .watchdog) =
        m.bus.journal.events.count (.reset .watchdog) + if Owes d t cmds then 1 else 0 := by
  obtain ⟨b, hview, hperform⟩ := h.toReady.exists_perform .step hroom
  obtain ⟨-, hresets⟩ := h.sound.counters_after hroom b
  have hheard := h.heard_perform hroom Event.aloof_turn?
  rw [← hview, filterMap_turn?_reports m b] at hheard
  have hcount : (Command.turns m (m.after b .step) .step).count (.restart .watchdog) =
      if Owes d t cmds then 1 else 0 := by
    rw [turns_after, h.expires_of_disabled hdisabled]
    by_cases howes : Owes d t cmds <;> simp [howes]
  refine ⟨m.after b .step, hperform, by rw [hresets, hcount], ?_⟩
  change b.journal.events.filterMap Event.turn? = m.bus.journal.events.filterMap Event.turn? ++ _
    at hheard
  rw [bus_after, Event.count_reset, Event.count_reset, hheard, List.count_append, hcount]

/-- After a boot and any steps, resets and burns a turn of the loop that is entered with the
    watchdog off does not end in a reset by it, neither in the machine's count nor for those who
    watch, but for one case: a period no longer than the initializer, and a word that was burned
    since the last step or reset, or since the boot, and replaced one under which the watchdog ran.
    The reset that it had asked for by then is carried out. -/
theorem resets_step_of_disabled {t : Target} {d : Descriptor} {led : PinRef} {m : Machine}
    (hcheck : d.check = .ok ()) (hboot : powerUp t d led = .ok m) {cmds : List Command}
    (hfits : m.Fits (cmds ++ [.step])) :
    ∃ m' m'', m.run cmds = .ok m' ∧ m'.step = .ok m'' ∧
      m'.bus.chip.watchdog.enabled = decide (d.EnabledBy (wordAfter t cmds)) ∧
      (m'.bus.chip.watchdog.enabled = false →
        m''.watchdogResets.toNat =
            m'.watchdogResets.toNat + (if Owes d t cmds then 1 else 0) ∧
          m''.bus.journal.events.count (.reset .watchdog) =
            m'.bus.journal.events.count (.reset .watchdog) + if Owes d t cmds then 1 else 0) := by
  obtain ⟨size, hsound, hbooted⟩ := booted_of_powerUp hcheck hboot
  obtain ⟨hfirst, hlast⟩ := hfits.of_append
  obtain ⟨m', hrun, hguarded⟩ := (hbooted.guarded hsound).exists_run hsound hfirst
  have hroom := (hlast m' hrun).1
  obtain ⟨b, hview, hperform⟩ := hguarded.toReady.exists_perform .step hroom
  refine ⟨m', m'.after b .step, hrun, hperform, hguarded.enabled_eq, ?_⟩
  intro hdisabled
  obtain ⟨m'', hstep, hresets⟩ := hguarded.exists_step_of_disabled hroom hdisabled
  obtain rfl : m'.after b .step = m'' := Except.ok.inj (hperform.symm.trans hstep)
  exact hresets

/-- With a period of 4000 cycles nothing is pending when the watchdog is switched off after a turn
    of the loop. -/
theorem resets_step_of_disabled_guarded :
    ∃ m m' m'', powerUp .pic16f1823 (.guarded 4000) ⟨"portc", 0⟩ = .ok m ∧
      m.run [.step, .burn 0x3FFF] = .ok m' ∧ m'.bus.chip.watchdog.enabled = false ∧
      m'.step = .ok m'' ∧ m''.watchdogResets.toNat = m'.watchdogResets.toNat := by
  have hcheck : (Descriptor.guarded 4000).check = .ok () := by decide +kernel
  have hbooted : ∃ m, powerUp .pic16f1823 (.guarded 4000) ⟨"portc", 0⟩ = .ok m :=
    exists_powerUp (by decide +kernel)
  obtain ⟨m, hboot⟩ := hbooted
  obtain ⟨size, -, hready⟩ := booted_of_powerUp hcheck hboot
  have hfits : m.Fits ([.step, .burn 0x3FFF] ++ [.step]) := hready.fits (by decide)
  obtain ⟨m', m'', hrun, hstep, henabled, hresets⟩ :=
    resets_step_of_disabled hcheck hboot hfits
  have hdisabled : m'.bus.chip.watchdog.enabled = false := henabled.trans (by decide)
  exact ⟨m, m', m'', hboot, hrun, hdisabled, hstep, (hresets hdisabled).1⟩

/-- With a period of 4 cycles, as many as the initializer takes, the watchdog asks for a reset
    during the boot. Switched off before the first turn of the loop it resets the machine at the end
    of that turn all the same. -/
theorem watchdogResets_disabled_guarded :
    ∃ m m' m'', powerUp .pic16f1823 (.guarded 4) ⟨"portc", 0⟩ = .ok m ∧
      m.run [.burn 0x3FFF] = .ok m' ∧ m'.bus.chip.watchdog.enabled = false ∧
      m'.watchdogResets.toNat = 0 ∧ m'.step = .ok m'' ∧ m''.watchdogResets.toNat = 1 := by
  have hcheck : (Descriptor.guarded 4).check = .ok () := by decide +kernel
  have hbooted : ∃ m, powerUp .pic16f1823 (.guarded 4) ⟨"portc", 0⟩ = .ok m :=
    exists_powerUp (by decide +kernel)
  obtain ⟨m, hboot⟩ := hbooted
  obtain ⟨size, hsound, hready⟩ := booted_of_powerUp hcheck hboot
  have hfits : m.Fits ([.burn 0x3FFF] ++ [.step]) := hready.fits (by decide)
  obtain ⟨hfirst, hlast⟩ := hfits.of_append
  obtain ⟨m', hrun, hguarded⟩ := (hready.guarded hsound).exists_run hsound hfirst
  have hdisabled : m'.bus.chip.watchdog.enabled = false := hguarded.enabled_eq.trans (by decide)
  obtain ⟨m'', hstep, hresets, -⟩ :=
    hguarded.exists_step_of_disabled (hlast m' hrun).1 hdisabled
  have hburned : m.withBus (m.bus.burn 0x3FFF) = m' := Except.ok.inj hrun
  have hnone : m'.watchdogResets.toNat = 0 := by
    rw [← hburned]
    exact congrArg UInt64.toNat hready.resets_eq
  refine ⟨m, m', m'', hboot, hrun, hdisabled, hnone, hstep, ?_⟩
  rw [hresets, hnone]
  decide

end Machine

end LedBench.Bench
