import LedBench.Manifest
import LedBench.Proofs.Bus.PinChanges
import LedBench.Proofs.Bus.Task
import LedBench.Proofs.Connection.Grammar
import LedBench.Proofs.Run.Faultless

namespace LedBench.Chip

open Text

/-- A port name that can stand in front of the point of a connection. -/
structure PortLayout.Connectable (l : PortLayout) : Prop where
  id_ne_empty : l.id ≠ ""
  dot_not_mem : '.' ∉ l.id.toList
  isBlank : ∀ c ∈ l.id.toList, isBlank c = false

/-- The reference to a pin of a port by the name that the chip declares. -/
def PortLayout.pin (l : PortLayout) (bit : UInt8) : PinRef := ⟨l.id, bit⟩

theorem PortLayout.Connectable.spellable {l : PortLayout} (h : l.Connectable) {bit : UInt8}
    (hbit : bit < 8) : (l.pin bit).Spellable where
  port_ne_empty := h.id_ne_empty
  dot_not_mem := h.dot_not_mem
  isBlank_head := fun c hc => h.isBlank c (List.mem_of_mem_head? hc)
  bit_lt := hbit

/-- The 14-pin part with the names of its ports in capitals. -/
def Descriptor.capital : Descriptor :=
  { pic16f1823 with ports := pic16f1823.ports.map fun l => { l with id := l.id.map Char.toUpper } }

end LedBench.Chip

namespace LedBench

/-- The LED of a manifest is the first of its devices that is one. -/
theorem Manifest.led_of_device {system : Manifest} {dev : Device} {pin : PinRef}
    (hfirst : system.devices.find? (·.kind = "led") = some dev) (hpin : dev.pin = .ok pin) :
    system.led = .ok (some pin) := by
  rw [led, hfirst]
  dsimp only
  rw [hpin]
  rfl

end LedBench

namespace LedBench.Bench

open Chip Firmware

/-- A bus shows at a pin the bit of the port laid out so. -/
def Bus.Exposes (b : Bus) (l : PortLayout) (pin : PinRef) : Prop :=
  ∃ p ∈ b.chip.ports, p.layout = l ∧ b.pinLevel pin = .ok (p.level pin.bit)

theorem Bus.exposes_of_port? {b : Bus} {d : Descriptor} {l : PortLayout} {pin : PinRef}
    (hports : b.contents.decoding.ports = d.ports) (hport : d.port? pin.port = some l)
    (hbit : pin.bit < 8) : b.Exposes l pin := by
  rw [Descriptor.port?, ← hports] at hport
  obtain ⟨p, hp, hlayout⟩ := Contents.exists_port?_of_layout hport
  refine ⟨p, List.mem_of_find?_eq_some hp, hlayout, ?_⟩
  rw [pinLevel, hp]
  exact if_pos hbit

namespace Machine

variable {t : Target} {d : Descriptor} {led : PinRef}

/-- The initializer does not ask for a port by its name. -/
theorem ofStart_ne_unknownPort (t : Target) (led : PinRef) (run : Except Bus (Blinker Bus))
    (id : String) (s : Bus) : ofStart t led run ≠ .error ⟨.refused (.unknownPort id), s⟩ := by
  intro hrun
  cases run with
  | error b => cases hrun
  | ok p =>
    rw [ofStart] at hrun
    cases hfault : p.hardware.chip.fault with
    | none =>
      rw [hfault] at hrun
      cases hrun
    | some addr =>
      rw [hfault] at hrun
      cases hrun

/-- A boot does not ask in vain for a port that is there. -/
theorem boot_ne_unknownPort {l : PortLayout} (hport : d.port? led.port = some l) (bus : Bus)
    (id : String) (s : Bus) : boot t d led bus ≠ .error ⟨.refused (.unknownPort id), s⟩ := by
  by_cases hname : d.name.map Char.toLower = t.name
  · by_cases hword : d.configWord.address = t.config.address
    · obtain ⟨b, -, hstarted⟩ := boot_of_port?_eq_some hname hword hport bus
      rw [hstarted]
      exact ofStart_ne_unknownPort t led _ id s
    · rw [boot_of_address_ne hname hword]
      simp
  · rw [boot_of_name_ne hname]
    simp

end Machine

/-- A reference leads to a port of a chip: wherever it is looked up, this is the port that is
    found. -/
structure LeadsTo (d : Descriptor) (l : PortLayout) (pin : PinRef) : Prop where
  port : d.port? pin.port = some l
  boot : ∀ t bus id s, Machine.boot t d pin bus ≠ .error ⟨.refused (.unknownPort id), s⟩
  bus : ∃ b, Bus.ofDescriptor d = .ok b ∧
    ∀ tasks b', b.carryOut tasks = .ok b' → b'.Exposes l pin
  machine : ∀ t m, Machine.powerUp t d pin = .ok m →
    ∀ cmds m', m.run cmds = .ok m' → m'.led = pin ∧ m'.bus.Exposes l pin

/-- On a chip that passes the checks every lookup finds the port that the description has. -/
theorem leadsTo_iff {d : Descriptor} (hcheck : d.check = .ok ()) {l : PortLayout} {pin : PinRef}
    (hbit : pin.bit < 8) : LeadsTo d l pin ↔ d.port? pin.port = some l := by
  refine ⟨LeadsTo.port, fun hport => ⟨hport, ?_, ?_, ?_⟩⟩
  · exact fun t bus id s => Machine.boot_ne_unknownPort hport bus id s
  · obtain ⟨size, hsound⟩ := Descriptor.check_eq_ok_iff.mp hcheck
    obtain ⟨b, hbus, -, hreached⟩ := Bus.exists_reached hsound
    refine ⟨b, hbus, fun tasks b' hrun => ?_⟩
    have hdecoding := (hreached.of_carryOut hsound hrun).decoding_eq
    exact Bus.exposes_of_port? (congrArg Decoding.ports hdecoding) hport hbit
  · intro t m hboot cmds m' hrun
    obtain ⟨size, -, hbooted⟩ := Machine.booted_of_powerUp hcheck hboot
    obtain ⟨m'', hrun', hready⟩ := hbooted.exists_run (hbooted.fits_iff.mpr ⟨m', hrun⟩)
    cases hrun'.symm.trans hrun
    exact ⟨hready.led_eq, Bus.exposes_of_port? hready.ports_eq hport hbit⟩

/-- The connection to a declared pin of a chip that passes the checks, by the name of its port and
    its number there, is read as the pin of that number and of the port so named in lower case. It
    leads to the declared port exactly if the name has no capitals: ports are looked up by the very
    name that the chip declares. Then a manifest's LED that is so connected is never refused for an
    unknown port, and its level is that of the pin, whatever was done with the chip. The name must
    be one that can stand in front of a point, and no other port may have it. -/
theorem connection_leadsTo_iff {d : Descriptor} (hcheck : d.check = .ok ()) {l : PortLayout}
    (hl : l ∈ d.ports) (hconnectable : l.Connectable)
    (hunique : ∀ l' ∈ d.ports, l'.id = l.id → l' = l) {bit : UInt8} (hbit : bit < l.width)
    {dev : Device} (hdev : dev.connection = (l.pin bit).text) :
    dev.pin = .ok (l.pin bit).lowered ∧
      (∀ system : Manifest, system.devices.find? (·.kind = "led") = some dev →
        system.led = .ok (some (l.pin bit).lowered)) ∧
      (LeadsTo d l (l.pin bit).lowered ↔ ∀ c ∈ l.id.toList, c.isUpper = false) := by
  obtain ⟨size, hsound⟩ := Descriptor.check_eq_ok_iff.mp hcheck
  have hbyte : bit < 8 := UInt8.lt_of_lt_of_le hbit (hsound.ports.width l hl).2
  have hpin : dev.pin = .ok (l.pin bit).lowered := by
    rw [Device.pin, hdev, (hconnectable.spellable hbyte).parse_text]
  refine ⟨hpin, fun system hfirst => Manifest.led_of_device hfirst hpin, ?_⟩
  rw [leadsTo_iff hcheck (show (l.pin bit).lowered.bit < 8 from hbyte),
    Descriptor.port?_eq_some_iff hl hunique]
  have hport : l.id = (l.pin bit).lowered.port ↔ (l.pin bit).lowered = l.pin bit :=
    ⟨fun h => congrArg (PinRef.mk · bit) h.symm, fun h => (congrArg PinRef.port h).symm⟩
  exact hport.trans PinRef.lowered_eq_self_iff

/-- The name of port C of the 14-pin part leads there. -/
theorem connection_leadsTo_iff_pic16f1823 :
    ∃ l, pic16f1823.ports[1]? = some l ∧ PinRef.parse "portc.0" = .ok ⟨"portc", 0⟩ ∧
      LeadsTo pic16f1823 l ⟨"portc", 0⟩ := by
  obtain ⟨l, hl, hport⟩ : ∃ l, pic16f1823.ports[1]? = some l ∧
      l = ⟨"portc", 6, 0x00E, 0x08E, some 0x10E, some 0x18E, ⟨0x3F, 0x0F⟩⟩ := ⟨_, rfl, rfl⟩
  have hcheck : pic16f1823.check = .ok () := by decide +kernel
  have hconnectable : l.Connectable := by
    subst hport
    exact ⟨by simp, by simp, by simp [Text.isBlank_of_visible]⟩
  have hunique : ∀ l' ∈ pic16f1823.ports, l'.id = l.id → l' = l := by
    subst hport
    decide
  have hbit : (0 : UInt8) < l.width := by
    subst hport
    decide
  have htext : (Device.mk "led1" "led" "portc.0").connection = (l.pin 0).text := by
    subst hport
    decide
  have hlowered : (l.pin 0).lowered = ⟨"portc", 0⟩ := by
    subst hport
    decide +kernel
  obtain ⟨hread, -, hleads⟩ :=
    connection_leadsTo_iff hcheck (List.mem_of_getElem? hl) hconnectable hunique hbit htext
  rw [hlowered] at hread hleads
  exact ⟨l, hl, hread, hleads.mpr (by simp [hport])⟩

/-- With its name in capitals the same port is out of reach: the connection to its first pin is read
    as one to a port that the chip does not have. -/
theorem port_unreached_capital :
    Descriptor.capital.check = .ok () ∧
    ∃ l ∈ Descriptor.capital.ports, l.Connectable ∧
      (∀ l' ∈ Descriptor.capital.ports, l'.id = l.id → l' = l) ∧ 0 < l.width ∧
      (l.pin 0).text = "PORTC.0" ∧ PinRef.parse "PORTC.0" = .ok ⟨"portc", 0⟩ ∧
      Descriptor.capital.port? "portc" = none ∧
      ∃ bus, Bus.ofDescriptor .capital = .ok bus ∧
        Machine.boot .pic16f1823 .capital ⟨"portc", 0⟩ bus =
          .error ⟨.refused (.unknownPort "portc"), bus⟩ ∧
        bus.pinLevel ⟨"portc", 0⟩ = .error (.refused (.unknownPort "portc")) := by
  have hcheck : Descriptor.capital.check = .ok () := by decide +kernel
  have hnone : Descriptor.capital.port? "portc" = none := by decide +kernel
  obtain ⟨size, hsound⟩ := Descriptor.check_eq_ok_iff.mp hcheck
  obtain ⟨bus, hbus, -, hreached⟩ := Bus.exists_reached hsound
  have hlost : bus.chip.port? "portc" = none := by
    have hports : bus.chip.contents.decoding.ports = Descriptor.capital.ports :=
      congrArg Decoding.ports hreached.decoding_eq
    rw [← Option.map_eq_none_iff, Contents.map_layout_port?, hports]
    exact hnone
  refine ⟨hcheck, ⟨"PORTC", 6, 0x00E, 0x08E, some 0x10E, some 0x18E, ⟨0x3F, 0x0F⟩⟩,
    by decide +kernel, ⟨by simp, by simp, by simp [Text.isBlank_of_visible]⟩, by decide +kernel,
    by decide, by decide +kernel, by decide +kernel, hnone, bus, hbus, ?_, ?_⟩
  · exact Machine.boot_of_port?_eq_none (by decide +kernel) rfl hnone bus
  · rw [Bus.pinLevel, hlost]

end LedBench.Bench
