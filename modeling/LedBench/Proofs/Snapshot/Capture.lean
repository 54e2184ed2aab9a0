import Mathlib.Data.List.Nodup
import LedBench.Proofs.Machine.Meddling
import LedBench.Proofs.Run.Faultless
import LedBench.Proofs.Snapshot.RegisterMap

namespace LedBench.Chip

/-- What a port has registers for. -/
inductive Register where
  | port
  | tris
  | lat
  | ansel
  deriving DecidableEq, Repr

namespace Register

def all : List Register := [port, tris, lat, ansel]

theorem mem_all (r : Register) : r ∈ all := by
  cases r <;> decide

def name : Register → String
  | port => "port"
  | tris => "tris"
  | lat => "lat"
  | ansel => "ansel"

/-- Where the port has the register, if it has it. -/
def address? (l : PortLayout) : Register → Option UInt16
  | port => some l.port
  | tris => some l.tris
  | lat => l.lat
  | ansel => l.ansel

theorem dot_not_mem_name (r : Register) : '.' ∉ r.name.toList := by
  cases r <;> decide

theorem name_inj {r r' : Register} (h : r.name = r'.name) : r = r' := by
  cases r <;> cases r' <;> first | rfl | exact absurd h (by decide)

end Register

namespace PortLayout

variable {l l' : PortLayout} {r r' : Register} {a : UInt16}

/-- The name of a register among those of all ports. -/
def key (l : PortLayout) (r : Register) : String := l.id ++ "." ++ r.name

/-- The names of the registers that the port has. -/
def keys (l : PortLayout) : List String :=
  (Register.all.filter fun r => (r.address? l).isSome).map l.key

/-- No register's name has a dot, so the last dot of a key stands after the port's name, whatever
    that is. -/
theorem key_inj : l.key r = l'.key r' ↔ l.id = l'.id ∧ r = r' := by
  constructor
  · intro h
    have hchars : r.name.toList.reverse ++ '.' :: l.id.toList.reverse =
        r'.name.toList.reverse ++ '.' :: l'.id.toList.reverse := by
      simpa [key] using congrArg (fun s => s.toList.reverse) h
    have hpos : ∀ r : Register, ∀ c ∈ r.name.toList.reverse, decide (c ≠ '.') = true := by
      intro r c hc
      refine decide_eq_true ?_
      rintro rfl
      exact r.dot_not_mem_name (List.mem_reverse.mp hc)
    have hname := congrArg (List.takeWhile fun c => decide (c ≠ '.')) hchars
    have hid := congrArg (List.dropWhile fun c => decide (c ≠ '.')) hchars
    rw [List.takeWhile_append_of_pos (hpos r), List.takeWhile_append_of_pos (hpos r')] at hname
    rw [List.dropWhile_append_of_pos (hpos r), List.dropWhile_append_of_pos (hpos r')] at hid
    constructor
    · exact String.toList_injective (by simpa using hid)
    · exact Register.name_inj (String.toList_injective (by simpa using hname))
  · rintro ⟨hid, rfl⟩
    rw [key, key, hid]

theorem mem_registers_iff_address? : a ∈ l.registers ↔ ∃ r, Register.address? l r = some a := by
  rw [Bench.Port.mem_registers_iff]
  constructor
  · rintro (rfl | rfl | h | h)
    · exact ⟨.port, rfl⟩
    · exact ⟨.tris, rfl⟩
    · exact ⟨.lat, h.symm⟩
    · exact ⟨.ansel, h.symm⟩
  · rintro ⟨r, h⟩
    cases r with
    | port => exact .inl (Option.some.inj h).symm
    | tris => exact .inr (.inl (Option.some.inj h).symm)
    | lat => exact .inr (.inr (.inl h.symm))
    | ansel => exact .inr (.inr (.inr h.symm))

theorem mem_keys_iff {name : String} :
    name ∈ l.keys ↔ ∃ r a, Register.address? l r = some a ∧ l.key r = name := by
  simp [keys, Register.mem_all, Option.isSome_iff_exists]

theorem length_keys (l : PortLayout) : l.keys.length = l.registers.length := by
  cases hlat : l.lat <;> cases hansel : l.ansel <;>
    simp [keys, Register.all, registers, Register.address?, hlat, hansel]

theorem nodup_keys (l : PortLayout) : l.keys.Nodup := by
  have hall : Register.all.Nodup := by decide
  exact (hall.filter _).map fun r r' h => (key_inj.mp h).2

/-- All registers of some ports have names of their own exactly if the ports have. -/
theorem nodup_flatMap_keys_iff {ls : List PortLayout} :
    (ls.flatMap keys).Nodup ↔ (ls.map (·.id)).Nodup := by
  rw [List.nodup_flatMap, List.Nodup, List.pairwise_map]
  constructor
  · rintro ⟨-, h⟩
    refine h.imp ?_
    intro l l' hdisjoint hid
    have hport : ∀ l : PortLayout, l.key .port ∈ l.keys := fun l =>
      mem_keys_iff.mpr ⟨.port, l.port, rfl, rfl⟩
    have hsame : l.key .port = l'.key .port := key_inj.mpr ⟨hid, rfl⟩
    exact hdisjoint (hport l) (hsame ▸ hport l')
  · intro h
    refine ⟨fun l _ => l.nodup_keys, h.imp ?_⟩
    intro l l' hid name hl hl'
    obtain ⟨r, a, -, rfl⟩ := mem_keys_iff.mp hl
    obtain ⟨r', a', -, hkey⟩ := mem_keys_iff.mp hl'
    exact hid (key_inj.mp hkey).1.symm

end PortLayout

/-- Where no name is given twice each port is the first of its name. -/
theorem Descriptor.port?_of_nodup {d : Descriptor} (h : (d.ports.map (·.id)).Nodup)
    {l : PortLayout} (hl : l ∈ d.ports) : d.port? l.id = some l :=
  (port?_eq_some_iff hl fun _ hl' hid => List.inj_on_of_nodup_map h hl' hl hid).mpr rfl

/-- The 18-pin part, where port A has port B's name and a latch register, and its pins are
    outputs. -/
def Descriptor.namesake : Descriptor :=
  { pic16f628a with
    ports := [
      { id := "portb", width := 8, port := 0x006, tris := 0x086, lat := none, ansel := none,
        reset := {} },
      { id := "portb", width := 8, port := 0x005, tris := 0x085, lat := some 0x105, ansel := none,
        reset := { tris := 0 } }] }

end LedBench.Chip

namespace LedBench.Bench

open Chip Firmware

namespace Port

variable {p : Port} {r : Register} {a : UInt16}

/-- What a read of a register sees. -/
def value (p : Port) : Register → UInt8
  | .port => p.portValue
  | .tris => p.tris
  | .lat => p.lat
  | .ansel => p.ansel

theorem read?_address? (hnodup : p.layout.registers.Nodup) (h : r.address? p.layout = some a) :
    p.read? a = some (p.value r) := by
  cases r with
  | port =>
    cases h
    exact read?_port p
  | tris =>
    cases h
    exact read?_tris hnodup
  | lat => exact read?_lat hnodup h
  | ansel => exact read?_ansel hnodup h

theorem mem_named_iff {e : String × UInt8} :
    e ∈ p.named ↔
      ∃ r a, Register.address? p.layout r = some a ∧ e = (p.layout.key r, p.value r) := by
  have hnamed : p.named =
      Register.all.filterMap fun r => (r.address? p.layout).map fun _ =>
        (p.layout.key r, p.value r) := by
    cases hlat : p.layout.lat <;> cases hansel : p.layout.ansel <;>
      simp [named, ansel?, Register.all, Register.address?, PortLayout.key, Register.name, value,
        hlat, hansel]
  simp [hnamed, Register.mem_all, eq_comm]

end Port

namespace ChipState

variable {s : ChipState} {p : Port} {r : Register} {a : UInt16}

/-- The registers that a snapshot shows, port by port. -/
def named (s : ChipState) : List (String × UInt8) :=
  s.ports.flatMap fun p => ((s.port? p.layout.id).map Port.named).getD []

theorem mem_named_iff {e : String × UInt8} :
    e ∈ s.named ↔ ∃ p, s.port? p.layout.id = some p ∧ e ∈ p.named := by
  rw [named, List.mem_flatMap]
  constructor
  · rintro ⟨q, -, he⟩
    cases hport : s.port? q.layout.id with
    | none =>
      rw [hport] at he
      cases he
    | some p =>
      rw [hport] at he
      have hid : p.layout.id = q.layout.id := by simpa using List.find?_some hport
      exact ⟨p, hid ▸ hport, he⟩
  · rintro ⟨p, hport, he⟩
    refine ⟨p, List.mem_of_find?_eq_some hport, ?_⟩
    rwa [hport]

/-- Where no address is given twice a register is read at its address. -/
theorem read?_address? (hnodup : (s.contents.decoding.ports.flatMap PortLayout.registers).Nodup)
    (hp : p ∈ s.ports) (h : r.address? p.layout = some a) : s.read? a = some (p.value r) := by
  obtain ⟨i, hi⟩ := List.mem_iff_getElem?.mp hp
  have hregisters : p.layout.registers.Nodup :=
    (List.nodup_flatMap.mp hnodup).1 _ (List.mem_map_of_mem hp)
  have howner : s.contents.owner? a = some i :=
    Contents.owner?_eq_of_nodup hnodup hi (PortLayout.mem_registers_iff_address?.mpr ⟨r, h⟩)
  rw [Contents.read?_eq_load?, Contents.load?, howner]
  dsimp only
  rw [show s.contents.ports[i]? = some p from hi, Option.bind_some,
    Port.read?_address? hregisters h]

theorem mem_named_iff_read?
    (hnodup : (s.contents.decoding.ports.flatMap PortLayout.registers).Nodup)
    {name : String} {value : UInt8} :
    (name, value) ∈ s.named ↔
      ∃ p r a, s.port? p.layout.id = some p ∧ Register.address? p.layout r = some a ∧
        p.layout.key r = name ∧ s.read? a = some value := by
  rw [mem_named_iff]
  constructor
  · rintro ⟨p, hport, he⟩
    obtain ⟨r, a, haddr, he⟩ := Port.mem_named_iff.mp he
    cases he
    exact ⟨p, r, a, hport, haddr, rfl,
      read?_address? hnodup (List.mem_of_find?_eq_some hport) haddr⟩
  · rintro ⟨p, r, a, hport, haddr, rfl, hread⟩
    rw [read?_address? hnodup (List.mem_of_find?_eq_some hport) haddr] at hread
    cases hread
    exact ⟨p, hport, Port.mem_named_iff.mpr ⟨r, a, haddr, rfl⟩⟩

/-- The map of what is shown has the registers of each port that is the first of its name, with what
    reads of them yield. -/
theorem mem_ofList_named_iff
    (hnodup : (s.contents.decoding.ports.flatMap PortLayout.registers).Nodup)
    {name : String} {value : UInt8} :
    (name, value) ∈ RegisterMap.ofList s.named ↔
      ∃ l r a, s.contents.decoding.ports.find? (·.id = l.id) = some l ∧
        Register.address? l r = some a ∧ l.key r = name ∧ s.read? a = some value := by
  rw [RegisterMap.mem_ofList_iff ?_, mem_named_iff_read? hnodup]
  · constructor
    · rintro ⟨p, r, a, hport, haddr, hkey, hread⟩
      refine ⟨p.layout, r, a, ?_, haddr, hkey, hread⟩
      rw [← Contents.map_layout_port?, hport, Option.map_some]
    · rintro ⟨l, r, a, hfirst, haddr, hkey, hread⟩
      obtain ⟨p, hport, rfl⟩ := Contents.exists_port?_of_layout hfirst
      exact ⟨p, r, a, hport, haddr, hkey, hread⟩
  · -- Two ports that are shown under one name are the first of that name.
    intro name v w hv hw
    obtain ⟨p, r, a, hport, haddr, rfl, hread⟩ := (mem_named_iff_read? hnodup).mp hv
    obtain ⟨q, r', a', hport', haddr', hkey, hread'⟩ := (mem_named_iff_read? hnodup).mp hw
    obtain ⟨hid, rfl⟩ := PortLayout.key_inj.mp hkey
    obtain rfl : q = p := Option.some.inj (hport'.symm.trans (hid ▸ hport))
    obtain rfl : a' = a := Option.some.inj (haddr'.symm.trans haddr)
    exact Option.some.inj (hread.symm.trans hread')

end ChipState

theorem Snapshot.registers_of_capture {m : Machine} {s : Snapshot} (h : capture m = .ok s) :
    s.registers = .ofList m.bus.chip.named := by
  rw [capture] at h
  cases hlevel : m.ledLevel with
  | error e =>
    rw [hlevel] at h
    cases h
  | ok level =>
    rw [hlevel] at h
    cases h
    rfl

theorem Snapshot.ordered_registers {m : Machine} {s : Snapshot} (h : capture m = .ok s) :
    s.registers.Ordered := by
  rw [registers_of_capture h]
  exact RegisterMap.ordered_ofList _

namespace Machine

variable {t : Target} {d : Descriptor} {led : PinRef} {size : UInt64} {m : Machine} {s : Snapshot}

/-- However the machine came to its state, its snapshot shows the ports of the descriptor that are
    the first of their names. -/
theorem Built.mem_registers_iff (h : m.Built t d led size) (hsound : d.Sound size)
    (hs : Snapshot.capture m = .ok s) (name : String) (value : UInt8) :
    (name, value) ∈ s.registers ↔
      ∃ l r a, d.port? l.id = some l ∧ Register.address? l r = some a ∧ l.key r = name ∧
        m.bus.peek? a = some value := by
  have hports : m.bus.chip.contents.decoding.ports = d.ports := h.ports_eq
  have hnodup : (m.bus.chip.contents.decoding.ports.flatMap PortLayout.registers).Nodup := by
    rw [hports]
    exact hsound.ports.nodup
  rw [Snapshot.registers_of_capture hs, ChipState.mem_ofList_named_iff hnodup, hports]
  exact Iff.rfl

/-- Each register of such a port has one entry, with the value that a read of it yields. -/
theorem Built.exists_value (h : m.Built t d led size) (hsound : d.Sound size)
    (hs : Snapshot.capture m = .ok s) {l : PortLayout} (hfirst : d.port? l.id = some l)
    {r : Register} {a : UInt16} (haddr : r.address? l = some a) :
    ∃ value, m.bus.peek? a = some value ∧ ∀ w, (l.key r, w) ∈ s.registers ↔ w = value := by
  have hmaps : m.bus.contents.decoding.Maps a := by
    refine .inl ⟨l, ?_, PortLayout.mem_registers_iff_address?.mpr ⟨r, haddr⟩⟩
    rw [h.ports_eq]
    exact List.mem_of_find?_eq_some hfirst
  obtain ⟨value, hvalue⟩ := Option.isSome_iff_exists.mp (Contents.load?_isSome_iff.mpr hmaps)
  have hpeek : m.bus.peek? a = some value := (Contents.read?_eq_load? _ _).trans hvalue
  refine ⟨value, hpeek, ?_⟩
  intro w
  rw [h.mem_registers_iff hsound hs]
  constructor
  · rintro ⟨l', r', a', hfirst', haddr', hkey, hpeek'⟩
    obtain ⟨hid, rfl⟩ := PortLayout.key_inj.mp hkey
    obtain rfl : l' = l := Option.some.inj (hfirst'.symm.trans (hid ▸ hfirst))
    obtain rfl : a' = a := Option.some.inj (haddr'.symm.trans haddr)
    exact Option.some.inj (hpeek'.symm.trans hpeek)
  · rintro rfl
    exact ⟨l, r, a, hfirst, haddr, rfl, hpeek⟩

/-- The snapshot has an entry for each register of the chip exactly if its ports have different
    names. -/
theorem Built.length_registers_iff (h : m.Built t d led size) (hsound : d.Sound size)
    (hs : Snapshot.capture m = .ok s) :
    s.registers.length = (d.ports.flatMap PortLayout.registers).length ↔
      (d.ports.map (·.id)).Nodup := by
  have hsub : s.registers.map Prod.fst ⊆ d.ports.flatMap PortLayout.keys := by
    intro name hname
    obtain ⟨⟨_, value⟩, he, rfl⟩ := List.mem_map.mp hname
    obtain ⟨l, r, a, hfirst, haddr, hkey, -⟩ := (h.mem_registers_iff hsound hs _ value).mp he
    exact List.mem_flatMap.mpr
      ⟨l, List.mem_of_find?_eq_some hfirst, PortLayout.mem_keys_iff.mpr ⟨r, a, haddr, hkey⟩⟩
  have hlength : (d.ports.flatMap PortLayout.registers).length =
      (d.ports.flatMap PortLayout.keys).length := by
    simp only [List.length_flatMap, PortLayout.length_keys]
  rw [hlength, (Snapshot.ordered_registers hs).length_eq_iff hsub,
    PortLayout.nodup_flatMap_keys_iff]
  refine and_iff_left_of_imp ?_
  intro hnodup name hname
  obtain ⟨l, hl, hkey⟩ := List.mem_flatMap.mp hname
  obtain ⟨r, a, haddr, rfl⟩ := PortLayout.mem_keys_iff.mp hkey
  obtain ⟨value, -, hvalue⟩ :=
    h.exists_value hsound hs (Descriptor.port?_of_nodup hnodup hl) haddr
  exact List.mem_map.mpr ⟨(l.key r, value), (hvalue value).mpr rfl, rfl⟩

/-- A boot and what is done after it, tried out together. -/
private theorem exists_endure (hboot : powerUp t d led = .ok m) (acts : List Act)
    (P : Machine → Prop) [DecidablePred P]
    (h : ((powerUp t d led).toOption.bind (·.endure acts)).any (fun m' => decide (P m')) = true) :
    ∃ m', m.endure acts = some m' ∧ P m' := by
  rw [hboot, Option.any_eq_true] at h
  obtain ⟨m', hacts, hend⟩ := h
  exact ⟨m', hacts, of_decide_eq_true hend⟩

/-- A chip that passes the checks is shown in full, once it has booted with its LED on one of eight
    bits: whatever is then done with the machine or by hand on its bus, a snapshot can be taken. Its
    names ascend, so that each has one value; under each name it shows the register of the first
    port of that name, with what a read of its address yields. Where the ports have different names,
    these are all registers of the chip, and it is only there that the snapshot has as many. -/
theorem registers_capture_of_powerUp {t : Target} {d : Descriptor} {led : PinRef} {m m' : Machine}
    (hcheck : d.check = .ok ()) (hboot : powerUp t d led = .ok m) (hbit : led.bit < 8)
    {acts : List Act} (hacts : m.endure acts = some m') :
    ∃ s, Snapshot.capture m' = .ok s ∧ s.registers.Ordered ∧
      (∀ name value, (name, value) ∈ s.registers ↔
        ∃ l r a, d.port? l.id = some l ∧ Register.address? l r = some a ∧ l.key r = name ∧
          m'.bus.peek? a = some value) ∧
      ((d.ports.map (·.id)).Nodup → ∀ l ∈ d.ports, ∀ r a, Register.address? l r = some a →
        ∃ value, m'.bus.peek? a = some value ∧ ∀ w, (l.key r, w) ∈ s.registers ↔ w = value) ∧
      (s.registers.length = (d.ports.flatMap PortLayout.registers).length ↔
        (d.ports.map (·.id)).Nodup) := by
  obtain ⟨size, hsound, hbooted⟩ := booted_of_powerUp hcheck hboot
  obtain ⟨l, hport⟩ := exists_port_of_powerUp hboot
  have hbuilt : m'.Built t d led size := hbooted.toBuilt.of_endure hacts
  obtain ⟨level, hlevel⟩ := hbuilt.exists_ledLevel hport hbit
  obtain ⟨s, hs⟩ := exists_capture hlevel
  refine ⟨s, hs, Snapshot.ordered_registers hs, hbuilt.mem_registers_iff hsound hs, ?_,
    hbuilt.length_registers_iff hsound hs⟩
  intro hnodup l hl r a haddr
  exact hbuilt.exists_value hsound hs (Descriptor.port?_of_nodup hnodup hl) haddr

/-- The 14-pin part has eight registers. After a power-on reset that reports a failed access, a latch
    of port A written by hand shows what was written, but for the bits without a pin. -/
theorem registers_capture_of_powerUp_pic16f1823 :
    ∃ m m' s, powerUp .pic16f1823 pic16f1823 ⟨"portc", 0⟩ = .ok m ∧
      m.endure [.bus (.write 0xFFFF 0), .command .reset, .bus (.poke 0x10C 0xD5)] = some m' ∧
      Snapshot.capture m' = .ok s ∧ s.registers.length = 8 ∧
      ("porta.lat", 0x15) ∈ s.registers := by
  have hcheck : Descriptor.check pic16f1823 = .ok () := by decide +kernel
  have hbooted : ∃ m, powerUp .pic16f1823 pic16f1823 ⟨"portc", 0⟩ = .ok m :=
    exists_powerUp (by decide +kernel)
  obtain ⟨m, hboot⟩ := hbooted
  obtain ⟨m', hacts, hpeek⟩ := exists_endure hboot
    [.bus (.write 0xFFFF 0), .command .reset, .bus (.poke 0x10C 0xD5)]
    (fun m' => m'.bus.peek? 0x10C = some 0x15) (by decide +kernel)
  have hnodup : (pic16f1823.ports.map (·.id)).Nodup := by decide
  obtain ⟨s, hs, -, hmem, -, hlength⟩ :=
    registers_capture_of_powerUp hcheck hboot (by decide) hacts
  refine ⟨m, m', s, hboot, hacts, hs, hlength.mpr hnodup, (hmem _ _).mpr ?_⟩
  exact ⟨pic16f1823.ports[0], .lat, 0x10C, by decide, rfl, by decide, hpeek⟩

/-- Of two ports of one name the checks let pass, the second is not shown: its latch register is
    missing, although all other registers of that name read the same on both ports. -/
theorem registers_capture_namesake :
    ∃ l ∈ Descriptor.namesake.ports, Register.address? l .lat = some 0x105 ∧
      Descriptor.namesake.check = .ok () ∧
      ∃ m m' s, powerUp .pic16f628a .namesake ⟨"portb", 0⟩ = .ok m ∧
        m.endure [.bus (.poke 0x006 0)] = some m' ∧ Snapshot.capture m' = .ok s ∧
        m'.bus.peek? 0x105 = some 0 ∧ ∀ value, (l.key .lat, value) ∉ s.registers := by
  have hcheck : Descriptor.namesake.check = .ok () := by decide +kernel
  have hbooted : ∃ m, powerUp .pic16f628a .namesake ⟨"portb", 0⟩ = .ok m :=
    exists_powerUp (by decide +kernel)
  obtain ⟨m, hboot⟩ := hbooted
  obtain ⟨m', hacts, hpeek, hlevel, hregisters⟩ := exists_endure hboot [.bus (.poke 0x006 0)]
    (fun m' => m'.bus.peek? 0x105 = some 0 ∧ m'.ledLevel = .ok false ∧
      RegisterMap.ofList m'.bus.chip.named = [("portb.port", 0), ("portb.tris", 0)])
    (by decide +kernel)
  obtain ⟨s, hs⟩ := exists_capture hlevel
  refine ⟨_, List.mem_of_getElem? (show Descriptor.namesake.ports[1]? = _ from rfl), rfl, hcheck,
    m, m', s, hboot, hacts, hs, hpeek, ?_⟩
  intro value
  rw [Snapshot.registers_of_capture hs, hregisters]
  simp [PortLayout.key, Register.name]

end Machine

end LedBench.Bench
