import LedBench.Proofs.Led.Program
import LedBench.Proofs.Machine.Boot

namespace LedBench.Bench

open Chip Firmware

namespace Machine

variable {t : Target} {d : Descriptor} {led : PinRef} {size : UInt64} {l : PortLayout} {i : Nat}
  {m : Machine}

/-- A machine in service whose LED pin, bit 0 of the `i`-th port, is as the program last
    drove it. -/
structure Tracking (t : Target) (d : Descriptor) (led : PinRef) (size : UInt64) (l : PortLayout)
    (i : Nat) (m : Machine) : Prop extends Ready t d led size m where
  wiring : Wiring t led (Build.ofDescriptor d size).decoding l i
  shows : m.bus.contents.Shows i (Lamp.driven m.program.level)

theorem Tracking.ledLevel_eq (h : m.Tracking t d led size l i) :
    m.ledLevel = .ok m.program.level := by
  rw [ledLevel, h.led_eq, h.wiring.pinLevel_eq h.decoding_eq h.shows, Lamp.lit, Lamp.driven,
    Bool.and_true]

/-- What a command of a machine in service shows. -/
def shown (m : Machine) (l : PortLayout) : Command → List Event
  | .step =>
    [.passStart m.passes, .write m.target.led.port (!m.program.level).toUInt8,
      .pin l.id 0 (!m.program.level) (m.bus.cycles + 2),
      .passEnd (UInt64.ofNat (passCycles m.bus.cyclesPerNop))] ++
    if m.expires then
      Lamp.restarting m.target l .watchdog (Lamp.driven !m.program.level)
        (m.bus.view.turn m.target m.passes).clock.cycles
    else []
  | .reset => Lamp.restarting m.target l .powerOn (Lamp.driven m.program.level) m.bus.cycles
  | .burn _ => []
  | .stop => [.stop]

private theorem Tracking.shows_perform (h : m.Tracking t d led size l i) (c : Command)
    (hroom : m.bus.cycles.toNat + m.cost c < UInt64.size) {b : Bus}
    (hview : b.view = m.bus.view.perform t m.passes c) :
    b.view.contents.Shows i (Lamp.driven (m.after b c).program.level) ∧
      b.view.events = m.bus.view.events ++ m.shown l c := by
  have hdecoding : m.bus.view.contents.decoding = _ := h.decoding_eq
  rw [hview]
  cases c with
  | step =>
    obtain ⟨hturn, hevents⟩ := View.shows_turn h.wiring hdecoding h.shows m.passes
    have hended : ((m.bus.view.turn t m.passes).endPass m.bus.cyclesPerNop).events =
        m.bus.view.events ++ [.passStart m.passes, .write t.led.port (!m.program.level).toUInt8,
          .pin l.id 0 (!m.program.level) (m.bus.cycles + 2),
          .passEnd (UInt64.ofNat (passCycles m.bus.cyclesPerNop))] := by
      rw [View.endPass, View.events_emit, hevents]
      simp [Bus.view, Bus.clock]
    rw [view_perform_step h.sound t hroom, Machine.after, shown, h.target_eq]
    cases hexpires : m.expires with
    | false =>
      simp only [Bool.false_eq_true, if_false, Bool.false_or, List.append_nil]
      rw [View.contents_endPass, hended]
      exact ⟨hturn, rfl⟩
    | true =>
      have hcontents : ((m.bus.view.turn t m.passes).endPass m.bus.cyclesPerNop).release.contents =
            (m.bus.view.turn t m.passes).contents := by
        rw [View.contents_release, View.contents_endPass]
      have hbuild : (m.bus.view.turn t m.passes).contents.decoding =
          (Build.ofDescriptor d size).decoding := by
        rw [← hdecoding]
        exact View.decoding_eq_of_build (View.build_turn m.bus.view t m.passes)
      rw [← hcontents] at hbuild hturn
      obtain ⟨hrestart, hevents'⟩ :=
        View.shows_restart h.wiring hbuild h.maps hturn .watchdog
      simp only [if_true, Bool.true_or, hevents', View.events_release, hended,
        View.clock_release_endPass, Clock.release, List.append_assoc]
      exact ⟨hrestart, trivial⟩
  | reset =>
    obtain ⟨hrestart, hevents⟩ := View.shows_restart h.wiring hdecoding h.maps h.shows .powerOn
    rw [View.perform, shown, h.target_eq]
    exact ⟨hrestart, hevents⟩
  | burn word => exact ⟨h.shows, (List.append_nil _).symm⟩
  | stop => exact ⟨h.shows, rfl⟩

/-- Every command keeps the pin as the program drove it. -/
theorem Tracking.exists_perform (h : m.Tracking t d led size l i) (c : Command)
    (hroom : m.bus.cycles.toNat + m.cost c < UInt64.size) :
    ∃ b : Bus, m.perform c = .ok (m.after b c) ∧ (m.after b c).Tracking t d led size l i ∧
      b.view.events = m.bus.view.events ++ m.shown l c := by
  obtain ⟨b, hview, hperform⟩ := h.toReady.exists_perform c hroom
  obtain ⟨hshows, hevents⟩ := h.shows_perform c hroom hview
  refine ⟨b, hperform, ⟨h.toReady.after hroom hview, h.wiring, ?_⟩, hevents⟩
  rw [bus_after]
  exact hshows

/-- A machine whose program has done these turns since it was last started from the top. -/
structure Driven (t : Target) (d : Descriptor) (led : PinRef) (size : UInt64) (l : PortLayout)
    (i : Nat) (done : List Turn) (m : Machine) : Prop extends Tracking t d led size l i m where
  level_eq : m.program.level = done.foldl Turn.level true

theorem Driven.after {done : List Turn} (h : m.Driven t d led size l i done) {b : Bus} {c : Command}
    (htracking : (m.after b c).Tracking t d led size l i) :
    (m.after b c).Driven t d led size l i (done ++ c.turns m (m.after b c)) := by
  refine ⟨htracking, ?_⟩
  rw [level_after, h.level_eq, List.foldl_append]

theorem Driven.exists_perform {done : List Turn} (h : m.Driven t d led size l i done) (c : Command)
    (hroom : m.bus.cycles.toNat + m.cost c < UInt64.size) :
    ∃ m', m.perform c = .ok m' ∧ m'.Driven t d led size l i (done ++ c.turns m m') := by
  obtain ⟨b, hperform, htracking, -⟩ := h.toTracking.exists_perform c hroom
  exact ⟨m.after b c, hperform, h.after htracking⟩

/-- What a boot shows: the LED comes on. -/
def bootShown (t : Target) (l : PortLayout) : List Event :=
  [.start, .reset .powerOn] ++ Lamp.starting t l ((Lamp.driven false).reset l .powerOn) 0

theorem Booted.tracking (h : m.Booted t d led size)
    (hwiring : Wiring t led (Build.ofDescriptor d size).decoding l i) :
    m.Tracking t d led size l i ∧ m.bus.view.events = bootShown t l := by
  have hdecoding : (View.burned t d size).contents.decoding =
      (Build.ofDescriptor d size).decoding := by
    have hbuild := h.build_eq
    rw [h.view_eq, View.build_startup] at hbuild
    exact congrArg Build.decoding hbuild
  have hfresh : (View.burned t d size).contents.reset .powerOn =
      (View.burned t d size).contents := by
    have hpowered : (Port.reset · .powerOn) ∘ Port.powered = Port.powered := rfl
    simp [View.burned, View.powered, View.burn, View.emit, Contents.reset, hpowered]
  have hshows := Contents.shows_reset_powerOn (hdecoding ▸ hwiring.places) (Lamp.driven false)
  rw [hfresh] at hshows
  obtain ⟨hstarted, hevents⟩ := View.shows_startup hwiring hdecoding h.maps hshows
    (hwiring.digital_reset .powerOn _)
  rw [← h.view_eq] at hstarted hevents
  refine ⟨⟨h.toReady, hwiring, ?_⟩, hevents⟩
  rw [h.level_eq]
  exact hstarted

end Machine

end LedBench.Bench
