import LedBench.Proofs.Led.Tracking
import LedBench.Proofs.Trace.Runs
import LedBench.Proofs.Watchdog.Schedule

namespace LedBench.Bench

open Chip Firmware

/-- How the trace of a pin stands: the toggles counted, and whether it takes the next change for
    one of a restart. -/
structure Tally where
  toggles : Nat
  restarting : Bool
  deriving DecidableEq, Repr

def Trace.tally (t : Trace) : Tally := ⟨t.toggles, t.restarting⟩

namespace Tally

/-- The trace after the pin went from one level to another. -/
def change (before after : Bool) (y : Tally) : Tally :=
  if before = after then y
  else ⟨y.toggles + if y.restarting then 0 else 1, y.restarting && !after⟩

theorem change_self (level : Bool) (y : Tally) : y.change level level = y := if_pos rfl

/-- The trace after the initializer found the pin so and made it digital. -/
def start (found digital : Lamp) (y : Tally) : Tally :=
  ((y.change found.lit digital.lit).change digital.lit digital.latch).change digital.latch true

/-- The trace after a turn of the program, on a chip whose LED stays lit through a watchdog's
    restart or does not. -/
def after (staysLit : Bool) (level : Bool) (y : Tally) : Turn → Tally
  | .pass => y.change level (!level)
  | .restart cause => ⟨y.toggles, cause = .watchdog && level && staysLit⟩

/-- The trace after turns in order. -/
def follow (staysLit : Bool) : Bool → Tally → List Turn → Tally
  | _, y, [] => y
  | level, y, turn :: rest => follow staysLit (turn.level level) (y.after staysLit level turn) rest

theorem follow_append (staysLit level : Bool) (y : Tally) (first second : List Turn) :
    follow staysLit level y (first ++ second) =
      follow staysLit (first.foldl Turn.level level) (follow staysLit level y first) second := by
  induction first generalizing level y with
  | nil => rfl
  | cons turn rest ih => exact ih (turn.level level) (y.after staysLit level turn)

/-- From this standing some turn of the loop is missed. -/
def Misses (staysLit : Bool) : Bool → Bool → List Turn → Prop
  | _, _, [] => False
  | level, restarting, .pass :: rest =>
    restarting = true ∨ Misses staysLit (!level) (restarting && level) rest
  | level, _, .restart cause :: rest =>
    Misses staysLit true (cause = .watchdog && level && staysLit) rest

/-- Every turn of the loop is counted once or missed. -/
theorem toggles_follow (staysLit level : Bool) (y : Tally) (turns : List Turn) :
    (follow staysLit level y turns).toggles ≤ y.toggles + turns.count .pass ∧
      ((follow staysLit level y turns).toggles = y.toggles + turns.count .pass ↔
        ¬ Misses staysLit level y.restarting turns) := by
  induction turns generalizing level y with
  | nil => simp [follow, Misses]
  | cons turn rest ih =>
    cases turn with
    | pass =>
      have hafter : y.after staysLit level .pass =
          ⟨y.toggles + if y.restarting then 0 else 1, y.restarting && level⟩ := by
        cases level <;> simp [after, change]
      obtain ⟨hle, hiff⟩ := ih (!level) (y.after staysLit level .pass)
      rw [hafter] at hle hiff
      rw [follow, Turn.level, hafter, Misses, List.count_cons_self]
      cases hrestarting : y.restarting with
      | true =>
        rw [hrestarting] at hle hiff
        simp only [if_true, Nat.add_zero, true_or, not_true, iff_false] at hle ⊢
        omega
      | false =>
        rw [hrestarting] at hle hiff
        simp only [Bool.false_eq_true, if_false, false_or] at hle hiff ⊢
        rw [Nat.add_assoc, Nat.add_comm 1] at hle hiff
        exact ⟨hle, hiff⟩
    | restart cause =>
      have hcount : (Turn.restart cause :: rest).count .pass = rest.count .pass := by simp
      rw [follow, Turn.level, Misses, hcount]
      exact ih true (y.after staysLit level (.restart cause))

end Tally

/-- Somewhere the loop goes on after a restart by the watchdog that found the LED on. -/
def ResumesLit (level : Bool) (turns : List Turn) : Prop :=
  ∃ done rest, turns = done ++ .restart .watchdog :: .pass :: rest ∧
    done.foldl Turn.level level = true

theorem resumesLit_cons {level : Bool} {turn : Turn} {rest : List Turn} :
    ResumesLit level (turn :: rest) ↔
      (turn = .restart .watchdog ∧ level = true ∧ ∃ more, rest = .pass :: more) ∨
        ResumesLit (turn.level level) rest := by
  constructor
  · rintro ⟨done, more, hturns, hlevel⟩
    cases done with
    | nil =>
      obtain ⟨rfl, rfl⟩ := List.cons.inj hturns
      exact .inl ⟨rfl, hlevel, more, rfl⟩
    | cons first done =>
      obtain ⟨rfl, rfl⟩ := List.cons.inj hturns
      exact .inr ⟨done, more, rfl, hlevel⟩
  · rintro (⟨rfl, hlevel, more, rfl⟩ | ⟨done, more, rfl, hlevel⟩)
    · exact ⟨[], more, rfl, hlevel⟩
    · exact ⟨turn :: done, more, rfl, hlevel⟩

/-- A turn is missed if the trace expects a restart's change when the loop goes on, at once or after
    some later restart. -/
theorem Tally.misses_iff (staysLit level restarting : Bool) (turns : List Turn) :
    Misses staysLit level restarting turns ↔
      (restarting = true ∧ ∃ rest, turns = .pass :: rest) ∨
        (staysLit = true ∧ ResumesLit level turns) := by
  induction turns generalizing level restarting with
  | nil => simp [Misses, ResumesLit]
  | cons turn rest ih =>
    rw [resumesLit_cons]
    cases turn with
    | pass =>
      rw [Misses, ih, Turn.level]
      cases restarting <;> simp
    | restart cause =>
      rw [Misses, ih, Turn.level]
      cases cause <;> cases level <;> cases staysLit <;> simp

namespace Trace

/-- What a trace of this pin makes of these events, however it stood before. -/
def Hears (pin : PinRef) (events : List Event) (f : Tally → Tally) : Prop :=
  ∀ t : Trace, t.pin = pin → (events.foldl observe t).tally = f t.tally

variable {pin : PinRef} {f g : Tally → Tally}

theorem hears_nil : Hears pin [] id := fun _ _ => rfl

theorem Hears.append {first second : List Event} (hfirst : Hears pin first f)
    (hsecond : Hears pin second g) : Hears pin (first ++ second) fun y => g (f y) := by
  intro t hpin
  rw [List.foldl_append, hsecond _ ((pin_foldl_observe t first).trans hpin), hfirst t hpin]

theorem Hears.cons {e : Event} {rest : List Event} (he : ∀ t : Trace, t.observe e = t)
    (hrest : Hears pin rest f) : Hears pin (e :: rest) f := by
  intro t hpin
  rw [List.foldl_cons, he]
  exact hrest t hpin

theorem Hears.cons_reset {cause : ResetCause} {rest : List Event} (hrest : Hears pin rest f) :
    Hears pin (.reset cause :: rest) fun y => f ⟨y.toggles, true⟩ := by
  intro t hpin
  rw [List.foldl_cons]
  exact hrest _ hpin

/-- A change of the pin is counted unless the trace takes it for one of a restart. -/
theorem hears_pin (id : String) {before after : Bool} (hne : before ≠ after) (cycle : UInt64) :
    Hears ⟨id, 0⟩ [.pin id 0 after cycle] (Tally.change before after) := by
  intro t hpin
  have hself : id = t.pin.port ∧ (0 : UInt8) = t.pin.bit := by
    rw [hpin]
    exact ⟨rfl, rfl⟩
  rw [List.foldl_cons, List.foldl_nil, observe, if_pos hself, Tally.change, if_neg hne]
  cases hrestarting : t.restarting <;> simp [tally, toggles, hrestarting]

theorem hears_change (l : PortLayout) (before after : Lamp) (cycle : UInt64) :
    Hears ⟨l.id, 0⟩ (Lamp.change l before after cycle) (Tally.change before.lit after.lit) := by
  rw [Lamp.change]
  split
  · rename_i heq
    intro t _
    rw [List.foldl_nil, Tally.change, if_pos heq]
  · rename_i hne
    exact hears_pin l.id hne cycle

theorem hears_enabling (t : Target) (l : PortLayout) (s : Lamp) (cycle : UInt64) :
    Hears ⟨l.id, 0⟩ (Lamp.enabling t l s cycle) fun y =>
      (y.change s.lit s.latch).change s.latch true := by
  have houtput : ({ s with output := true } : Lamp).lit = s.latch := Bool.and_true _
  have hfirst := hears_change l s { s with output := true } (cycle + 1)
  have hsecond := hears_change l { s with output := true } (Lamp.driven true) (cycle + 3)
  rw [houtput] at hfirst hsecond
  exact (hfirst.cons fun _ => rfl).append (hsecond.cons fun _ => rfl)

theorem hears_starting (t : Target) (l : PortLayout) (s : Lamp) (cycle : UInt64) :
    Hears ⟨l.id, 0⟩ (Lamp.starting t l s cycle) (Tally.start s (s.digitized t l)) := by
  unfold Lamp.starting
  cases hmode : t.digitalMode? with
  | some addr =>
    exact ((hears_change l s (s.digitized t l) (cycle + 1)).cons fun _ => rfl).append
      (hears_enabling t l (s.digitized t l) (cycle + 1))
  | none =>
    have hself : s.digitized t l = s := by rw [Lamp.digitized, hmode]
    have hstart : Tally.start s s = fun y => (y.change s.lit s.latch).change s.latch true := by
      funext y
      rw [Tally.start, Tally.change_self]
    rw [hself, hstart]
    exact hears_enabling t l s cycle

end Trace

/-- The LED stays lit through a restart by the watchdog: its pin is an output from the reset on, and
    the initializer leaves its latch alone. -/
def Lamp.staysLit (t : Target) (l : PortLayout) : Bool :=
  decide (l.reset.tris &&& 1 = 0) && !aliased t l

namespace Wiring

variable {t : Target} {led : PinRef} {k : Decoding} {l : PortLayout} {i : Nat}

/-- No restart is counted, but a trace that saw no change in one still expects it. -/
theorem hears_restarting (h : Wiring t led k l i) (cause : ResetCause) (level : Bool)
    (cycle : UInt64) :
    Trace.Hears led (Lamp.restarting t l cause (Lamp.driven level) cycle) fun y =>
      y.after (Lamp.staysLit t l) level (.restart cause) := by
  rw [h.pin_eq]
  intro trace hpin
  have hall := (Trace.hears_change l (Lamp.driven level) ((Lamp.driven level).reset l cause)
    cycle).append (Trace.hears_starting t l ((Lamp.driven level).reset l cause) cycle)
  rw [h.digitized_eq (h.digital_reset cause (Lamp.driven level))] at hall
  have hreset : Trace.Hears ⟨l.id, 0⟩ (.reset cause :: _) _ := hall.cons_reset
  rw [Lamp.restarting, List.cons_append, hreset trace hpin]
  simp only [Tally.start, Tally.after, Lamp.staysLit, Lamp.reset, Lamp.driven, Lamp.lit]
  cases cause <;> cases level <;> cases Lamp.aliased t l <;>
    cases decide (l.reset.tris &&& 1 = 0) <;> simp [Tally.change]

/-- The boot is not counted. -/
theorem tally_bootShown (h : Wiring t led k l i) :
    (Trace.ofEvents led (Machine.bootShown t l)).tally = ⟨0, false⟩ := by
  have hstart := Trace.hears_starting t l ((Lamp.driven false).reset l .powerOn) 0
  rw [h.digitized_eq (h.digital_reset .powerOn (Lamp.driven false)), ← h.pin_eq] at hstart
  rw [Trace.ofEvents, Machine.bootShown, List.cons_append, List.cons_append, List.nil_append]
  rw [((hstart.cons_reset).cons fun _ => rfl) { pin := led } rfl]
  simp [Tally.start, Tally.change, Lamp.lit, Lamp.reset, Trace.tally, Trace.toggles]

end Wiring

namespace Machine

variable {t : Target} {d : Descriptor} {led : PinRef} {size : UInt64} {l : PortLayout} {i : Nat}
  {m : Machine}

/-- What a trace of the LED makes of a command follows from the turns that it made the program
    do. -/
theorem Tracking.hears_shown (h : m.Tracking t d led size l i) (b : Bus) (c : Command) :
    Trace.Hears led (m.shown l c) fun y =>
      Tally.follow (Lamp.staysLit t l) m.program.level y (c.turns m (m.after b c)) := by
  rw [turns_after]
  cases c with
  | step =>
    have hpass : Trace.Hears led [.passStart m.passes,
        .write m.target.led.port (!m.program.level).toUInt8,
        .pin l.id 0 (!m.program.level) (m.bus.cycles + 2),
        .passEnd (UInt64.ofNat (passCycles m.bus.cyclesPerNop))]
        fun y => y.after (Lamp.staysLit t l) m.program.level .pass := by
      have hne : m.program.level ≠ !m.program.level := by cases m.program.level <;> simp
      have hpin := (Trace.hears_pin l.id hne (m.bus.cycles + 2)).append
        (Trace.hears_nil.cons (e := .passEnd (UInt64.ofNat (passCycles m.bus.cyclesPerNop)))
          fun _ => rfl)
      rw [h.wiring.pin_eq]
      exact (hpin.cons fun _ => rfl).cons fun _ => rfl
    rw [shown]
    cases m.expires with
    | false =>
      rw [if_neg (by simp), if_neg (by simp), List.append_nil]
      exact hpass
    | true =>
      rw [if_pos rfl, if_pos rfl, h.target_eq]
      rw [h.target_eq] at hpass
      exact hpass.append (h.wiring.hears_restarting .watchdog (!m.program.level) _)
  | reset =>
    rw [shown, h.target_eq]
    exact h.wiring.hears_restarting .powerOn m.program.level _
  | burn word => exact Trace.hears_nil
  | stop => exact Trace.hears_nil.cons fun _ => rfl

/-- The trace of the LED pin since before the boot. -/
def ledTrace (m : Machine) : Trace := Trace.ofEvents m.led (Journal.events m.bus.journal)

theorem pin_ledTrace (m : Machine) : m.ledTrace.pin = m.led :=
  Trace.pin_foldl_observe { pin := m.led } _

/-- The trace goes on with what the command showed. -/
theorem ledTrace_after {b : Bus} {c : Command} {events : List Event}
    (hevents : b.view.events = m.bus.view.events ++ events) :
    (m.after b c).ledTrace = events.foldl Trace.observe m.ledTrace := by
  have hjournal : Journal.events (m.after b c).bus.journal =
      Journal.events m.bus.journal ++ events := by
    rw [bus_after]
    exact hevents
  have hled : (m.after b c).led = m.led := by cases c <;> rfl
  rw [ledTrace, hled, hjournal, Trace.ofEvents, List.foldl_append]
  rfl

/-- A machine whose trace has followed these turns. -/
structure Traced (t : Target) (d : Descriptor) (led : PinRef) (size : UInt64) (l : PortLayout)
    (i : Nat) (done : List Turn) (m : Machine) : Prop extends Driven t d led size l i done m where
  passes_eq : m.passes.toNat = done.count .pass
  tally_eq : m.ledTrace.tally = Tally.follow (Lamp.staysLit t l) true ⟨0, false⟩ done

theorem Traced.exists_perform {done : List Turn} (h : m.Traced t d led size l i done) (c : Command)
    (hroom : m.bus.cycles.toNat + m.cost c < UInt64.size) :
    ∃ m', m.perform c = .ok m' ∧ m'.Traced t d led size l i (done ++ c.turns m m') := by
  obtain ⟨b, hperform, htracking, hevents⟩ := h.toTracking.exists_perform c hroom
  refine ⟨_, hperform, h.toDriven.after htracking, ?_, ?_⟩
  · rw [(h.sound.counters_after hroom b).1, h.passes_eq, List.count_append]
  · rw [ledTrace_after hevents, h.hears_shown b c _ (m.pin_ledTrace.trans h.led_eq),
      Tally.follow_append, ← h.level_eq, ← h.tally_eq]

theorem Booted.traced (h : m.Booted t d led size)
    (hwiring : Wiring t led (Build.ofDescriptor d size).decoding l i) :
    m.Traced t d led size l i [] := by
  obtain ⟨htracking, hevents⟩ := h.tracking hwiring
  refine ⟨⟨htracking, h.level_eq⟩, by rw [h.passes_eq]; rfl, ?_⟩
  have hjournal : Journal.events m.bus.journal = bootShown t l := hevents
  rw [ledTrace, h.led_eq, hjournal, hwiring.tally_bootShown, Tally.follow]

theorem Traced.toggles_iff {turns : List Turn} (h : m.Traced t d led size l i turns) :
    m.ledTrace.toggles ≤ m.passes.toNat ∧
      (m.ledTrace.toggles = m.passes.toNat ↔
        ¬ (Lamp.staysLit t l = true ∧ ResumesLit true turns)) := by
  have htoggles : m.ledTrace.toggles =
      (Tally.follow (Lamp.staysLit t l) true ⟨0, false⟩ turns).toggles :=
    congrArg Tally.toggles h.tally_eq
  obtain ⟨hle, hiff⟩ := Tally.toggles_follow (Lamp.staysLit t l) true ⟨0, false⟩ turns
  rw [Tally.misses_iff] at hiff
  rw [htoggles, h.passes_eq]
  simpa using And.intro hle hiff

/-- On a wired chip a trace of the LED counts at most the turns of the loop, and all of them unless
    the loop goes on after a restart by the watchdog that found the LED on and left it on. -/
theorem toggles_eq_passes_iff {t : Target} {d : Descriptor} {led : PinRef} {m : Machine}
    (hwired : Wired t d led) (hboot : powerUp t d led = .ok m) {l : PortLayout}
    (hport : d.port? led.port = some l) {cmds : List Command} (hfits : m.Fits cmds) :
    ∃ m', m.run cmds = .ok m' ∧ m'.ledTrace.toggles ≤ m'.passes.toNat ∧
      (m'.ledTrace.toggles = m'.passes.toNat ↔
        ¬ (Lamp.staysLit t l = true ∧ ResumesLit true (m.turns cmds))) := by
  obtain ⟨size, hsound, hbooted⟩ := booted_of_powerUp hwired.check hboot
  obtain ⟨l', i, hport', hwiring⟩ := hwired.exists_wiring hsound
  obtain rfl : l' = l := Option.some.inj (hport'.symm.trans hport)
  obtain ⟨m', hrun, htraced⟩ := exists_run_of_step
    (fun done m c (h : m.Traced t d led size l' i done) => h.exists_perform c)
    (hbooted.traced hwiring) hfits
  exact ⟨m', hrun, htraced.toggles_iff⟩

/-- On a part whose pins are inputs after a reset no turn is missed, though the watchdog resets it
    now and then. -/
theorem toggles_eq_passes_iff_guarded :
    ∃ m m', powerUp .pic16f1823 (.guarded 4000) ⟨"portc", 0⟩ = .ok m ∧
      m.run [.step, .step, .step] = .ok m' ∧ m'.ledTrace.toggles = m'.passes.toNat := by
  have hbooted : ∃ m, powerUp .pic16f1823 (.guarded 4000) ⟨"portc", 0⟩ = .ok m :=
    exists_powerUp (by decide +kernel)
  obtain ⟨m, hboot⟩ := hbooted
  obtain ⟨size, -, hready⟩ := booted_of_powerUp wired_guarded.check hboot
  have hfits : m.Fits [.step, .step, .step] := hready.fits (by decide)
  obtain ⟨m', hrun, -, hiff⟩ := toggles_eq_passes_iff wired_guarded hboot rfl hfits
  exact ⟨m, m', hboot, hrun, hiff.mpr fun h => absurd h.1 (by decide)⟩

end Machine

/-- The same part with one port, on which the LED's pin is an output after a reset. -/
def outputLed : Descriptor :=
  { Descriptor.guarded 4000 with
    ports := [
      { id := "portc", width := 6, port := 0x00E, tris := 0x08E, lat := some 0x10E,
        ansel := some 0x18E, reset := { tris := 0x3E, ansel := 0x0F } }] }

namespace Machine

/-- There the watchdog's reset after the second turn leaves the LED lit, and the third turn is
    missed. -/
theorem toggles_outputLed :
    ∃ m m', powerUp .pic16f1823 outputLed ⟨"portc", 0⟩ = .ok m ∧
      m.run [.step, .step, .step] = .ok m' ∧ m'.passes.toNat = 3 ∧ m'.ledTrace.toggles = 2 := by
  have hwired : Wired .pic16f1823 outputLed ⟨"portc", 0⟩ :=
    ⟨rfl, ⟨_, rfl, rfl, rfl, .inl ⟨rfl, rfl⟩⟩, rfl⟩
  have hbooted : ∃ m, powerUp .pic16f1823 outputLed ⟨"portc", 0⟩ = .ok m :=
    exists_powerUp (by decide +kernel)
  obtain ⟨m, hboot⟩ := hbooted
  obtain ⟨size, hsound, hready⟩ := booted_of_powerUp hwired.check hboot
  obtain ⟨l, i, hport, hwiring⟩ := hwired.exists_wiring hsound
  have hfits : m.Fits [.step, .step, .step] := hready.fits (by decide)
  obtain ⟨m', hrun, -, hturns⟩ := (hready.onSchedule hsound).exists_run 3 (by decide)
  obtain ⟨n, hrun', htraced⟩ := exists_run_of_step
    (fun done m c (h : m.Traced _ _ _ size l i done) => h.exists_perform c)
    (hready.traced hwiring) hfits
  obtain rfl : m' = n := Except.ok.inj (hrun.symm.trans hrun')
  have hdone : m.turns [.step, .step, .step] = [.pass, .pass, .restart .watchdog, .pass] := hturns
  obtain rfl := Option.some.inj hport
  rw [hdone] at htraced
  exact ⟨m, m', hboot, hrun, htraced.passes_eq, congrArg Tally.toggles htraced.tally_eq⟩

end Machine

end LedBench.Bench
