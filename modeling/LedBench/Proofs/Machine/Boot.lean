import LedBench.Chip.Builtin
import LedBench.Proofs.Machine.Ready

namespace LedBench.Chip

/-- The 14-pin part at a cycle for each microsecond, with a watchdog of that period which the
    firmware's configuration word leaves running. -/
def Descriptor.guarded (periodUs : UInt64) : Descriptor :=
  { pic16f1823 with
    instructionClockHz := 1000000
    watchdog := { mask := 0x0018, enabledWhen := [0], periodUs } }

/-- The same part, but for its only port: where the firmware expects the port register lies a
    direction register, and where it expects that one, the port register. -/
def Descriptor.crossed : Descriptor :=
  { Descriptor.guarded 4000 with
    ports := [
      { id := "portx", width := 6, port := 0x08E, tris := 0x00E, lat := none, ansel := none,
        reset := {} }] }

theorem Descriptor.port?_eq_none_iff {d : Descriptor} {id : String} :
    d.port? id = none ↔ ∀ l ∈ d.ports, l.id ≠ id := by
  simp [port?]

/-- A port that shares its name with no other is found by this name alone. -/
theorem Descriptor.port?_eq_some_iff {d : Descriptor} {l : PortLayout} (hl : l ∈ d.ports)
    (hunique : ∀ l' ∈ d.ports, l'.id = l.id → l' = l) {id : String} :
    d.port? id = some l ↔ l.id = id := by
  constructor
  · intro h
    have hid := List.find?_some h
    exact of_decide_eq_true hid
  · rintro rfl
    cases hfind : d.port? l.id with
    | none => exact absurd rfl (Descriptor.port?_eq_none_iff.mp hfind l hl)
    | some l' =>
      have hid := List.find?_some hfind
      rw [hunique l' (List.mem_of_find?_eq_some hfind) (of_decide_eq_true hid)]

end LedBench.Chip

namespace LedBench.Bench

open Chip Firmware

namespace View

/-- The view of a chip about to run the initializer for the first time. -/
def burned (t : Target) (d : Descriptor) (size : UInt64) : View :=
  (((powered d size).burn t.config.value).emit .start).emit (.reset .powerOn)

theorem build_burned (t : Target) {d : Descriptor} {size : UInt64} (hsound : d.Sound size) :
    (burned t d size).build = .ofDescriptor d size := by
  rw [burned, build_emit, build_emit, build_burn, build_powered hsound]

theorem clock_sound_burned (t : Target) {d : Descriptor} {size : UInt64} (hsound : d.Sound size) :
    (burned t d size).clock.Sound :=
  (clock_sound_powered hsound).burn t.config.value

/-- The initializer of a boot is seen by the watchdog as the sum of its cycles. -/
theorem elapsed_startup_burned (t : Target) {d : Descriptor} {size : UInt64}
    (hsound : d.Sound size) :
    Clock.Elapsed (burned t d size).clock ((burned t d size).startup t).clock t.startupCycles ∧
      ((burned t d size).startup t).clock.Sound := by
  refine elapsed_startup (clock_sound_burned t hsound) t ?_
  rw [show (burned t d size).clock.cycles.toNat = 0 from rfl]
  cases t <;> decide

end View

namespace Machine

/-- A machine fresh from a boot: it is in service, no turn is done, and the LED is on as far as the
    program knows. -/
structure Booted (t : Target) (d : Descriptor) (led : PinRef) (size : UInt64) (m : Machine) :
    Prop extends Ready t d led size m where
  view_eq : m.bus.view = (View.burned t d size).startup t
  level_eq : m.program.level = true
  passes_eq : m.passes = 0
  resets_eq : m.watchdogResets = 0
  elapsed : Clock.Elapsed (View.burned t d size).clock m.bus.clock t.startupCycles

theorem Booted.cycles_eq {t : Target} {d : Descriptor} {led : PinRef} {size : UInt64} {m : Machine}
    (h : m.Booted t d led size) : m.bus.cycles.toNat = t.startupCycles :=
  h.elapsed.cycles_eq.trans (Nat.zero_add _)

theorem Booted.fits {t : Target} {d : Descriptor} {led : PinRef} {size : UInt64} {m : Machine}
    (h : m.Booted t d led size) {cmds : List Command}
    (hroom : t.startupCycles +
      cmds.length * (passCycles d.cyclesPerDelayIteration + t.startupCycles) < UInt64.size) :
    m.Fits cmds :=
  h.fits_of_room (by rwa [h.cycles_eq])

/-- The machine that a run of the initializer leaves, unless an access failed or it trapped. -/
def ofStart (t : Target) (led : PinRef) :
    Except Bus (Blinker Bus) → Except (Stopped SimulationError Bus) Machine
  | .error b => .error ⟨.trap, b⟩
  | .ok p =>
    match p.hardware.chip.fault with
    | none => .ok { target := t, led, program := ⟨p.hardware.takeFault.2, p.level⟩ }
    | some addr => .error ⟨.refused (.memoryViolation addr), p.hardware.takeFault.2⟩

section Refused

variable {t : Target} {d : Descriptor} {led : PinRef}

theorem boot_of_name_ne (hname : d.name.map Char.toLower ≠ t.name) (bus : Bus) :
    boot t d led bus = .error ⟨.refused (.chipMismatch t d.name), bus⟩ := if_pos hname

theorem boot_of_address_ne (hname : d.name.map Char.toLower = t.name)
    (hword : d.configWord.address ≠ t.config.address) (bus : Bus) :
    boot t d led bus =
      .error ⟨.refused (.configAddress t.config.address d.configWord.address), bus⟩ := by
  rw [boot, if_neg (not_not_intro hname), if_pos hword]

theorem boot_of_port?_eq_none (hname : d.name.map Char.toLower = t.name)
    (hword : d.configWord.address = t.config.address) (hport : d.port? led.port = none)
    (bus : Bus) : boot t d led bus = .error ⟨.refused (.unknownPort led.port), bus⟩ := by
  rw [boot, if_neg (not_not_intro hname), if_neg (not_not_intro hword), hport]

end Refused

/-- A boot that nothing has refused runs the initializer on a chip that has been burned and powered
    up. -/
theorem boot_of_port?_eq_some {t : Target} {d : Descriptor} {led : PinRef}
    (hname : d.name.map Char.toLower = t.name)
    (hword : d.configWord.address = t.config.address) {l : PortLayout}
    (hport : d.port? led.port = some l) (bus : Bus) :
    ∃ b : Bus, b.view = ((bus.view.burn t.config.value).emit .start).emit (.reset .powerOn) ∧
      boot t d led bus = ofStart t led (Blinker.start t b) := by
  have hstarted : ∀ run : Except Bus (Blinker Bus),
      (match run with
        | .error b => .error ⟨.trap, b⟩
        | .ok p => do
          let p ← settle Blinker.hardware p
          pure { target := t, led, program := p }) = ofStart t led run := by
    intro run
    cases run with
    | error b => rfl
    | ok p =>
      dsimp only
      rw [settle_eq, ofStart]
      cases p.hardware.chip.fault <;> rfl
  rw [boot, if_neg (not_not_intro hname), if_neg (not_not_intro hword), hport]
  refine ⟨_, ?_, hstarted _⟩
  rw [Bus.view_emit, Bus.view_emit, Bus.view_note, Bus.view_burn]
  split
  · rfl
  · rw [Bus.view_note]

/-- A boot is refused, or it runs the initializer on a chip that has been burned and powered up. -/
theorem boot_cases (t : Target) (d : Descriptor) (led : PinRef) (bus : Bus) :
    (∃ e, boot t d led bus = .error ⟨.refused e, bus⟩) ∨
      ∃ b : Bus, b.view = ((bus.view.burn t.config.value).emit .start).emit (.reset .powerOn) ∧
        boot t d led bus = ofStart t led (Blinker.start t b) := by
  by_cases hname : d.name.map Char.toLower = t.name
  · by_cases hword : d.configWord.address = t.config.address
    · cases hport : d.port? led.port with
      | none => exact .inl ⟨_, boot_of_port?_eq_none hname hword hport bus⟩
      | some l => exact .inr (boot_of_port?_eq_some hname hword hport bus)
    · exact .inl ⟨_, boot_of_address_ne hname hword bus⟩
  · exact .inl ⟨_, boot_of_name_ne hname bus⟩

/-- A boot that succeeds has run the initializer without a fault. -/
theorem exists_boot {t : Target} {d : Descriptor} {led : PinRef} {m : Machine} {bus : Bus}
    (hboot : boot t d led bus = .ok m) :
    ∃ b : Bus, b.view = ((bus.view.burn t.config.value).emit .start).emit (.reset .powerOn) ∧
      ∃ p, Blinker.start t b = .ok p ∧ p.hardware.chip.fault = none ∧
        m = { target := t, led, program := ⟨p.hardware.takeFault.2, p.level⟩ } := by
  obtain ⟨e, hrefused⟩ | ⟨b, hview, hstarted⟩ := boot_cases t d led bus
  · rw [hrefused] at hboot
    cases hboot
  · rw [hstarted] at hboot
    cases hstart : Blinker.start t b with
    | error b' =>
      rw [hstart] at hboot
      cases hboot
    | ok p =>
      rw [hstart, ofStart] at hboot
      cases hfault : p.hardware.chip.fault with
      | none =>
        rw [hfault] at hboot
        cases hboot
        exact ⟨b, hview, p, hstart, hfault, rfl⟩
      | some addr =>
        rw [hfault] at hboot
        cases hboot

theorem exists_powerUp {t : Target} {d : Descriptor} {led : PinRef}
    (h : (powerUp t d led).isOk = true) : ∃ m, powerUp t d led = .ok m := by
  cases hboot : powerUp t d led with
  | ok m => exact ⟨m, rfl⟩
  | error e =>
    rw [hboot] at h
    cases h

/-- Once the initializer of a boot has run without a fault the machine is in service. -/
theorem booted_of_start {t : Target} {d : Descriptor} {led : PinRef} {size : UInt64}
    (hsound : d.Sound size) {b : Bus} (hburned : b.view = .burned t d size) {p : Blinker Bus}
    (hstart : Blinker.start t b = .ok p) (hfault : p.hardware.chip.fault = none) :
    ({ target := t, led, program := ⟨p.hardware.takeFault.2, p.level⟩ } : Machine).Booted
      t d led size := by
  have htakes := Bus.start_takes
    (by rw [Bus.clock_eq_of_view hburned]; exact View.clock_sound_burned t hsound) t
  rw [hstart, hburned] at htakes
  obtain ⟨-, hstarted, hlevel⟩ := htakes
  have hnone : ((View.burned t d size).startup t).fault = none := by
    rw [← hstarted]
    exact hfault
  have hview : p.hardware.takeFault.2.view = (View.burned t d size).startup t := by
    rw [Bus.view_takeFault, hstarted, View.settle_eq_self hnone]
  obtain ⟨helapsed, hclock⟩ := View.elapsed_startup_burned t hsound
  rw [← Bus.clock_eq_of_view hview] at helapsed hclock
  have hbuild : p.hardware.takeFault.2.view.build = .ofDescriptor d size := by
    rw [hview, View.build_startup, View.build_burned t hsound]
  have hmaps : (Build.ofDescriptor d size).decoding.startupViolation? t = none := by
    rw [View.fault_startup, View.build_burned t hsound] at hnone
    exact hnone
  exact ⟨⟨⟨⟨hclock, Nat.zero_le _, Nat.zero_le _⟩, rfl, rfl, hbuild, hmaps⟩, rfl⟩, hview, hlevel,
    rfl, rfl, helapsed⟩

/-- A boot that succeeds on a checked chip leaves the machine in service. -/
theorem booted_of_powerUp {t : Target} {d : Descriptor} {led : PinRef} {m : Machine}
    (hcheck : d.check = .ok ()) (hboot : powerUp t d led = .ok m) :
    ∃ size, d.Sound size ∧ m.Booted t d led size := by
  obtain ⟨size, hsound⟩ := Descriptor.check_eq_ok_iff.mp hcheck
  obtain ⟨bus, hbus, hpowered⟩ := Bus.exists_ofDescriptor hsound
  rw [powerUp, hbus] at hboot
  dsimp only at hboot
  split at hboot
  · cases hboot
  rename_i m' hm'
  cases hboot
  obtain ⟨b, hview, p, hstart, hfault, rfl⟩ := exists_boot hm'
  have hburned : b.view = .burned t d size := by
    rw [hview, hpowered]
    rfl
  exact ⟨size, hsound, booted_of_start hsound hburned hstart hfault⟩

theorem check_crossed : Descriptor.crossed.check = .ok () := by decide +kernel

theorem exists_powerUp_crossed : ∃ m, powerUp .pic16f1823 .crossed ⟨"portx", 3⟩ = .ok m :=
  exists_powerUp (by decide +kernel)

end Machine

end LedBench.Bench
