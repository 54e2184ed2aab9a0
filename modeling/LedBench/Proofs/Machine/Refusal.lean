import LedBench.Proofs.Bus.Faults
import LedBench.Proofs.Bus.Residue
import LedBench.Proofs.Machine.Boot

namespace LedBench.Firmware

/-- The registers that the initializer accesses, in the order of its first access to each. -/
def Target.reach : Target → List UInt16
  | .pic16f1823 => [0x18E, 0x08E, 0x00E]
  | .pic16f628a => [0x086, 0x006]

theorem Target.map_addr_startup (t : Target) : t.startup.map Instr.addr = t.reach := by
  cases t <;> simp [startup, digitalMode?, direction, led, reach, Instr.addr]

end LedBench.Firmware

namespace LedBench.Chip

open Firmware

/-- The chip goes by the name of the part, ASCII letters of either case standing for each other. -/
def Descriptor.Named (d : Descriptor) (t : Target) : Prop :=
  d.name.map Char.toLower = t.name.map Char.toLower

theorem Descriptor.named_iff {d : Descriptor} {t : Target} :
    d.Named t ↔ d.name.map Char.toLower = t.name := by
  have hlower : t.name.map Char.toLower = t.name := by cases t <;> decide +kernel
  rw [Named, hlower]

/-- The 14-pin part sold with its name in capitals and half a bank of memory, so that the registers
    of its only port, which cannot be analog, are all that it has. -/
def Descriptor.narrow : Descriptor :=
  { pic16f1823 with
    name := "PIC16F1823"
    dataMemory := "256B"
    ports := [
      { id := "portc", width := 6, port := 0x00E, tris := 0x08E, lat := none, ansel := none,
        reset := {} }] }

end LedBench.Chip

namespace LedBench.Bench

open Chip Firmware

theorem Decoding.startupViolation?_eq (k : Decoding) (t : Target) :
    k.startupViolation? t = k.firstViolation? t.reach := by
  rw [firstViolation?, ← t.map_addr_startup, List.findSome?_map]
  rfl

/-- What keeps the firmware for a part from running on a chip with so much data memory, the LED on
    such a pin. Each reason supposes that none of those before it applies. -/
inductive Misfit (t : Target) (d : Descriptor) (led : PinRef) (size : UInt64) :
    SimulationError → Prop where
  | name (hname : ¬ d.Named t) : Misfit t d led size (.chipMismatch t d.name)
  | word (hname : d.Named t) (hword : d.configWord.address ≠ t.config.address) :
    Misfit t d led size (.configAddress t.config.address d.configWord.address)
  | port (hname : d.Named t) (hword : d.configWord.address = t.config.address)
    (hport : ∀ l ∈ d.ports, l.id ≠ led.port) : Misfit t d led size (.unknownPort led.port)
  | register (hname : d.Named t) (hword : d.configWord.address = t.config.address)
    (hport : ¬ ∀ l ∈ d.ports, l.id ≠ led.port) {addr : UInt16}
    (hreach : (Build.ofDescriptor d size).decoding.firstViolation? t.reach = some addr) :
    Misfit t d led size (.memoryViolation addr)

namespace Machine

/-- The chip holds the firmware's configuration word and has done nothing but run the
    initializer. -/
structure Fresh (t : Target) (d : Descriptor) (m : Machine) : Prop where
  configWord_eq : m.bus.chip.configWord = t.config.value
  enabled_eq : m.bus.chip.watchdog.enabled =
    (d.watchdog.isEnabled t.config.value && 0 < d.periodCycles)
  passes_eq : m.passes = 0
  resets_eq : m.watchdogResets = 0
  nops_eq : m.bus.nops = 0
  cycles_eq : m.bus.cycles.toNat = t.startupCycles

variable {t : Target} {d : Descriptor} {led : PinRef} {size : UInt64} {m : Machine}

theorem Booted.fresh (h : m.Booted t d led size) : m.Fresh t d where
  configWord_eq := by
    have hfuses := View.inert_fuses.startup (View.burned t d size) t
    rw [← h.view_eq] at hfuses
    exact congrArg Fuses.word hfuses
  enabled_eq := h.elapsed.enabled_eq
  passes_eq := h.passes_eq
  resets_eq := h.resets_eq
  nops_eq := by
    have hnops := View.inert_nops.startup (View.burned t d size) t
    rw [← h.view_eq] at hnops
    exact hnops
  cycles_eq := h.cycles_eq

/-- On a chip that suits the firmware as far as its description goes, the initializer decides. -/
theorem boot_of_port (hsound : d.Sound size) {bus : Bus} (hpowered : bus.view = .powered d size)
    (hname : d.Named t) (hword : d.configWord.address = t.config.address)
    (hport : ¬ ∀ l ∈ d.ports, l.id ≠ led.port) :
    match (Build.ofDescriptor d size).decoding.firstViolation? t.reach with
    | none => ∃ m, boot t d led bus = .ok m ∧ m.Booted t d led size
    | some addr => ∃ s, boot t d led bus = .error ⟨.refused (.memoryViolation addr), s⟩ := by
  rw [← Descriptor.port?_eq_none_iff, ← Ne, Option.ne_none_iff_exists'] at hport
  obtain ⟨l, hl⟩ := hport
  obtain ⟨b, hview, hboot⟩ :=
    boot_of_port?_eq_some (Descriptor.named_iff.mp hname) hword hl bus
  have hburned : b.view = .burned t d size := by
    rw [hview, hpowered]
    rfl
  have hclock : b.clock.Sound := by
    rw [Bus.clock_eq_of_view hburned]
    exact View.clock_sound_burned t hsound
  have hroom : b.cycles.toNat + t.startupCycles < UInt64.size := by
    rw [Bus.cycles_eq_of_view hburned,
      show (View.burned t d size).clock.cycles.toNat = 0 from rfl]
    cases t <;> decide
  obtain ⟨p, hstart, hrun, -⟩ := (Bus.start_takes hclock t).ok hroom
  have hfault : p.hardware.chip.fault =
      (Build.ofDescriptor d size).decoding.firstViolation? t.reach := by
    rw [← Decoding.startupViolation?_eq, ← View.build_burned t hsound, ← hburned]
    refine (congrArg View.fault hrun).trans ((View.fault_startup b.view t).trans ?_)
    rw [hburned]
    rfl
  rw [hboot, hstart, ofStart, ← hfault]
  cases hviolation : p.hardware.chip.fault with
  | none => exact ⟨_, rfl, booted_of_start hsound hburned hstart hviolation⟩
  | some addr => exact ⟨_, rfl⟩

/-- Whatever keeps the firmware from running is what a boot reports. -/
theorem boot_of_misfit (hsound : d.Sound size) {bus : Bus} (hpowered : bus.view = .powered d size)
    {e : SimulationError} (h : Misfit t d led size e) :
    ∃ s, boot t d led bus = .error ⟨.refused e, s⟩ ∧
      ((∀ addr, e ≠ .memoryViolation addr) → s = bus) := by
  cases h with
  | name hname =>
    rw [Descriptor.named_iff] at hname
    exact ⟨bus, boot_of_name_ne hname bus, fun _ => rfl⟩
  | word hname hword =>
    rw [Descriptor.named_iff] at hname
    exact ⟨bus, boot_of_address_ne hname hword bus, fun _ => rfl⟩
  | port hname hword hport =>
    rw [Descriptor.named_iff] at hname
    rw [← Descriptor.port?_eq_none_iff] at hport
    exact ⟨bus, boot_of_port?_eq_none hname hword hport bus, fun _ => rfl⟩
  | register hname hword hport hreach =>
    have hboot := boot_of_port hsound hpowered hname hword hport
    rw [hreach] at hboot
    obtain ⟨s, hboot⟩ := hboot
    exact ⟨s, hboot, fun hother => absurd rfl (hother _)⟩

/-- A boot that nothing stands against leaves the machine in service. -/
theorem exists_booted (hsound : d.Sound size) {bus : Bus} (hpowered : bus.view = .powered d size)
    (h : ∀ e, ¬ Misfit t d led size e) :
    ∃ m, boot t d led bus = .ok m ∧ m.Booted t d led size := by
  have hname : d.Named t := by_contra fun hname => h _ (.name hname)
  have hword : d.configWord.address = t.config.address :=
    by_contra fun hword => h _ (.word hname hword)
  have hport : ¬ ∀ l ∈ d.ports, l.id ≠ led.port := fun hport => h _ (.port hname hword hport)
  have hboot := boot_of_port hsound hpowered hname hword hport
  cases hreach : (Build.ofDescriptor d size).decoding.firstViolation? t.reach with
  | none =>
    rw [hreach] at hboot
    exact hboot
  | some addr => exact absurd (.register hname hword hport hreach) (h _)

/-- A boot is refused for what keeps the firmware from running and for nothing else. -/
theorem boot_eq_error_iff (hsound : d.Sound size) {bus : Bus}
    (hpowered : bus.view = .powered d size) {e : SimulationError} :
    (∃ s, boot t d led bus = .error ⟨.refused e, s⟩) ↔ Misfit t d led size e := by
  constructor
  · rintro ⟨s, hrefused⟩
    -- A boot has one outcome: that of whatever is amiss, or success where nothing is.
    by_cases hamiss : ∃ e', Misfit t d led size e'
    · obtain ⟨e', hmisfit⟩ := hamiss
      obtain ⟨s', hboot, -⟩ := boot_of_misfit hsound hpowered hmisfit
      cases hboot.symm.trans hrefused
      exact hmisfit
    · obtain ⟨m, hboot, -⟩ := exists_booted hsound hpowered (not_exists.mp hamiss)
      cases hboot.symm.trans hrefused
  · intro hmisfit
    obtain ⟨s, hboot, -⟩ := boot_of_misfit hsound hpowered hmisfit
    exact ⟨s, hboot⟩

theorem boot_eq_ok_iff (hsound : d.Sound size) {bus : Bus} (hpowered : bus.view = .powered d size) :
    (∃ m, boot t d led bus = .ok m) ↔ ∀ e, ¬ Misfit t d led size e := by
  constructor
  · rintro ⟨m, hok⟩ e hmisfit
    obtain ⟨s, hboot, -⟩ := boot_of_misfit hsound hpowered hmisfit
    cases hboot.symm.trans hok
  · intro hfits
    obtain ⟨m, hboot, -⟩ := exists_booted hsound hpowered hfits
    exact ⟨m, hboot⟩

/-- A boot on a chip that passes the checks is refused for a reason exactly if that is the first
    thing amiss: the chip's name, else the address of its configuration word, else the port of the
    LED, which must have just that name, else a register of the initializer at which nothing
    answers, the first in the order of access. With nothing amiss, and only then, it succeeds: the
    firmware's configuration word is burned, and no turn, no reset by the watchdog and no no-op is
    counted, nor any cycle but those of the initializer. A boot refused for one of the first three
    reasons has not touched the chip, and nobody was told anything. -/
theorem boot_refused_iff {d : Descriptor} {size : UInt64} (hcheck : d.check = .ok ())
    (hsize : Size.parse d.dataMemory = .ok size) (t : Target) (led : PinRef) :
    ∃ bus, Bus.ofDescriptor d = .ok bus ∧
      (∀ e, (∃ s, boot t d led bus = .error ⟨.refused e, s⟩) ↔ Misfit t d led size e) ∧
      ((∃ m, boot t d led bus = .ok m) ↔ ∀ e, ¬ Misfit t d led size e) ∧
      (∀ m, boot t d led bus = .ok m → m.Fresh t d) ∧
      ∀ e s, boot t d led bus = .error ⟨.refused e, s⟩ → (∀ addr, e ≠ .memoryViolation addr) →
        s = bus ∧ s.journal.events = [] := by
  obtain ⟨size', hsound⟩ := Descriptor.check_eq_ok_iff.mp hcheck
  obtain rfl : size' = size := Except.ok.inj (hsound.parse.symm.trans hsize)
  obtain ⟨bus, hbus, hpowered⟩ := Bus.exists_ofDescriptor hsound
  refine ⟨bus, hbus, fun e => boot_eq_error_iff hsound hpowered, boot_eq_ok_iff hsound hpowered,
    ?_, ?_⟩
  · intro m hok
    have hfits := (boot_eq_ok_iff hsound hpowered).mp ⟨m, hok⟩
    obtain ⟨m', hboot, hbooted⟩ := exists_booted hsound hpowered hfits
    cases hboot.symm.trans hok
    exact hbooted.fresh
  · intro e s hrefused hother
    have hmisfit := (boot_eq_error_iff hsound hpowered).mp ⟨s, hrefused⟩
    obtain ⟨s', hboot, hunmoved⟩ := boot_of_misfit hsound hpowered hmisfit
    cases hboot.symm.trans hrefused
    obtain rfl := hunmoved hother
    exact ⟨rfl, congrArg View.events hpowered⟩

/-- The capitals in its name do not keep the firmware from the narrow part, but of the registers
    that the initializer reaches the first lies past the end of memory. With the LED on a port that
    the part does not have it comes to the initializer no more. -/
theorem boot_refused_iff_narrow :
    ∃ bus s, Bus.ofDescriptor .narrow = .ok bus ∧
      boot .pic16f1823 .narrow ⟨"portc", 0⟩ bus =
        .error ⟨.refused (.memoryViolation 0x18E), s⟩ ∧
      boot .pic16f1823 .narrow ⟨"portb", 0⟩ bus = .error ⟨.refused (.unknownPort "portb"), bus⟩ := by
  have hcheck : Descriptor.narrow.check = .ok () := by decide +kernel
  have hsize : Size.parse Descriptor.narrow.dataMemory = .ok 256 := by decide +kernel
  have hname : Descriptor.narrow.Named .pic16f1823 := Descriptor.named_iff.mpr (by decide +kernel)
  obtain ⟨bus, hbus, hrefused, -⟩ := boot_refused_iff hcheck hsize .pic16f1823 ⟨"portc", 0⟩
  obtain ⟨bus', hbus', hrefused', -, -, hunmoved⟩ :=
    boot_refused_iff hcheck hsize .pic16f1823 ⟨"portb", 0⟩
  obtain rfl : bus = bus' := Except.ok.inj (hbus.symm.trans hbus')
  obtain ⟨s, hregister⟩ := (hrefused (.memoryViolation 0x18E)).mpr
    (.register hname rfl (by decide +kernel) (by decide +kernel))
  obtain ⟨_, hport⟩ := (hrefused' (.unknownPort "portb")).mpr
    (.port hname rfl (by decide +kernel))
  obtain ⟨rfl, -⟩ := hunmoved _ _ hport (by simp)
  exact ⟨_, s, hbus, hregister, hport⟩

end Machine

end LedBench.Bench
