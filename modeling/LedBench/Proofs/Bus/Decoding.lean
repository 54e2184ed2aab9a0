import LedBench.Chip.Builtin
import LedBench.Proofs.Bus.Task
import LedBench.Proofs.Chip.FirstDefect

namespace LedBench.Chip

/-- The address of a register by its place: which port it belongs to, and which of the port's
    registers it is, in the order port, direction, latch, analog select. -/
def Descriptor.registerAt? (d : Descriptor) (place : Nat × Nat) : Option UInt16 :=
  d.ports[place.1]?.bind (·.registers[place.2]?)

theorem Descriptor.registerAt?_eq_some_iff {d : Descriptor} {i k : Nat} {addr : UInt16} :
    d.registerAt? (i, k) = some addr ↔
      ∃ l, d.ports[i]? = some l ∧ l.registers[k]? = some addr := by
  simp [registerAt?, Option.bind_eq_some_iff]

theorem Descriptor.registerAt?_eq_none_of_forall {d : Descriptor} {addr : UInt16}
    (h : ∀ l ∈ d.ports, addr ∉ l.registers) (place : Nat × Nat) :
    d.registerAt? place ≠ some addr := by
  intro hplace
  obtain ⟨l, hl, haddr⟩ := registerAt?_eq_some_iff.mp hplace
  exact h l (List.mem_of_getElem? hl) (List.mem_of_getElem? haddr)

/-- A part of which three rules are broken: the second port shares an address with the first and has
    another outside the memory, and the third is too wide. -/
def Descriptor.crowded : Descriptor :=
  { pic16f628a with
    dataMemory := "256B"
    ports := [
      { id := "porta", width := 8, port := 0x005, tris := 0x085, lat := none, ansel := none,
        reset := {} },
      { id := "portb", width := 8, port := 0x006, tris := 0x005, lat := some 0x106, ansel := none,
        reset := {} },
      { id := "portc", width := 9, port := 0x007, tris := 0x087, lat := none, ansel := none,
        reset := {} }] }

end LedBench.Chip

namespace LedBench.Bench

open Chip Firmware

namespace Bus

/-- The port at a place, and nothing else, answers at an address: it is read there, and a write
    changes nothing but this port. -/
structure AnsweredByPort (b : Bus) (i : Nat) (addr : UInt16) (p : Port) : Prop where
  port : b.chip.ports[i]? = some p
  peek : ∃ byte, p.read? addr = some byte ∧ b.peek? addr = some byte
  poke : ∀ value, ∃ q b', p.write? addr value = some q ∧ b.poke? addr value = some b' ∧
    b'.contents = { b.contents with ports := b.contents.ports.set i q }

/-- The data memory, and nothing else, answers at an address. -/
structure AnsweredByMemory (b : Bus) (addr : UInt16) : Prop where
  peek : ∃ byte, b.chip.memory.read? addr = some byte ∧ b.peek? addr = some byte
  poke : ∀ value, ∃ memory b', b.chip.memory.write? addr value = some memory ∧
    b.poke? addr value = some b' ∧ b'.contents = { b.contents with memory }

/-- Nothing answers at an address. An access of the program to it is a fault, which is kept unless
    there is one already. -/
structure Unanswered (b : Bus) (addr : UInt16) : Prop where
  peek : b.peek? addr = none
  poke : ∀ value, b.poke? addr value = none
  read : ∀ byte b', b.read addr = .ok (byte, b') →
    byte = 0 ∧ b'.chip.fault = (b.chip.fault <|> some addr)
  write : ∀ value b', b.write addr value = .ok b' →
    b'.chip.fault = (b.chip.fault <|> some addr)

/-- What answers on a bus is settled by the address: below the memory's size a register that is the
    only one there, or the memory where there is none, and nothing from that size on. -/
structure Decodes (b : Bus) (d : Descriptor) (size : UInt64) : Prop where
  within : ∀ addr : UInt16, addr.toNat < size.toNat →
    (∃! place, d.registerAt? place = some addr ∧ ∃ p, b.AnsweredByPort place.1 addr p) ∨
      ((∀ place, d.registerAt? place ≠ some addr) ∧ b.AnsweredByMemory addr)
  beyond : ∀ addr : UInt16, size.toNat ≤ addr.toNat → b.Unanswered addr
  declared : ∀ l ∈ d.ports, ∀ addr ∈ l.registers,
    (b.peek? addr).isSome = true ∧ ∀ value, (b.poke? addr value).isSome = true

variable {b : Bus} {addr : UInt16} {value : UInt8} {i : Nat}

/-- A poke stores its byte, if something answers, and reports it. -/
theorem exists_poke? {c : Contents} (hstore : b.contents.store? addr value = some c) :
    ∃ b', b.poke? addr value = some b' ∧ b'.contents = c := by
  have hview := view_poke? b addr value
  rw [View.poke?, show b.view.contents.store? addr value = some c from hstore,
    Option.map_some, Option.map_eq_some_iff] at hview
  obtain ⟨b', hpoke, hview⟩ := hview
  exact ⟨b', hpoke, contents_eq_of_view hview⟩

theorem isSome_poke?_iff :
    (b.poke? addr value).isSome = true ↔ b.contents.decoding.Maps addr := by
  have hview := congrArg Option.isSome (view_poke? b addr value)
  rw [Option.isSome_map, View.poke?, Option.isSome_map] at hview
  rw [hview]
  exact Contents.store?_isSome_iff

theorem isSome_peek?_iff : (b.peek? addr).isSome = true ↔ b.contents.decoding.Maps addr := by
  rw [peek?_eq_load?, Contents.load?_isSome_iff]

/-- The owner of an address answers there. -/
theorem answeredByPort_of_owner? {p : Port} (hp : b.chip.ports[i]? = some p)
    (howner : b.contents.owner? addr = some i) : b.AnsweredByPort i addr p := by
  obtain ⟨p', hp', hclaims⟩ := Contents.of_owner?_eq_some howner
  obtain rfl : p = p' := Option.some.inj (hp.symm.trans hp')
  refine ⟨hp, ?_, ?_⟩
  · obtain ⟨byte, hread⟩ := Option.isSome_iff_exists.mp (Port.read?_isSome_of_claims hclaims)
    refine ⟨byte, hread, ?_⟩
    rw [peek?_eq_load?, Contents.load?, howner]
    dsimp only
    rw [hp', Option.bind_some, hread]
  · intro value
    obtain ⟨q, hwrite⟩ := Option.isSome_iff_exists.mp (Port.write?_isSome_of_claims hclaims value)
    have hstore : b.contents.store? addr value =
        some { b.contents with ports := b.contents.ports.set i q } := by
      rw [Contents.store?, howner]
      dsimp only
      rw [hp', Option.bind_some, hwrite, Option.map_some]
    obtain ⟨b', hpoke, hcontents⟩ := exists_poke? hstore
    exact ⟨q, b', hwrite, hpoke, hcontents⟩

/-- An address inside the memory that no port claims is the memory's. -/
theorem answeredByMemory_of_owner? (howner : b.contents.owner? addr = none)
    (haddr : addr.toNat < b.contents.memory.cells.size) : b.AnsweredByMemory addr := by
  have hread : b.chip.memory.read? addr = some b.contents.memory.cells[addr.toNat] :=
    Array.getElem?_eq_getElem haddr
  refine ⟨⟨_, hread, ?_⟩, ?_⟩
  · rw [peek?_eq_load?, Contents.load?, howner]
    exact hread
  · intro value
    have hsome : (b.chip.memory.write? addr value).isSome = true := by
      rw [DataMemory.write?_isSome, hread]
      rfl
    obtain ⟨memory, hwrite⟩ := Option.isSome_iff_exists.mp hsome
    have hstore : b.contents.store? addr value = some { b.contents with memory } := by
      rw [Contents.store?, howner]
      dsimp only
      rw [show b.contents.memory.write? addr value = some memory from hwrite, Option.map_some]
    obtain ⟨b', hpoke, hcontents⟩ := exists_poke? hstore
    exact ⟨memory, b', hwrite, hpoke, hcontents⟩

theorem unanswered_of_not_maps (hsound : b.clock.Sound)
    (hmaps : ¬ b.contents.decoding.Maps addr) : b.Unanswered addr := by
  have hload : b.peek? addr = none := by
    rw [← Option.not_isSome_iff_eq_none, isSome_peek?_iff]
    exact hmaps
  have hviolation : b.view.build.decoding.violation? addr = some addr := if_neg hmaps
  refine ⟨hload, ?_, ?_, ?_⟩
  · intro value
    rw [← Option.not_isSome_iff_eq_none, isSome_poke?_iff]
    exact hmaps
  · intro byte b' hread
    have htakes := read_takes hsound addr
    rw [hread] at htakes
    obtain ⟨-, hbyte, hview⟩ := htakes
    refine ⟨?_, ?_⟩
    · rw [show byte = b.view.load addr from hbyte, View.load,
        show b.view.contents.load? addr = none from (peek?_eq_load? b addr).symm.trans hload]
      rfl
    · have hfault := congrArg View.fault hview
      rw [View.fault_read, hviolation] at hfault
      exact hfault
  · intro value b' hwrite
    have htakes := write_takes hsound addr value
    rw [hwrite] at htakes
    have hfault := congrArg View.fault htakes.2
    rw [View.fault_write, hviolation] at hfault
    exact hfault

variable {d : Descriptor} {size : UInt64}

/-- What was done with the bus of a chip that passes the checks does not change what answers. -/
theorem Reached.decodes (hsound : d.Sound size) (h : b.Reached d size) : b.Decodes d size := by
  have hports : b.contents.decoding.ports = d.ports := congrArg Decoding.ports h.decoding_eq
  have hsize : b.contents.memory.cells.size = size.toNat := congrArg Decoding.size h.decoding_eq
  have hnodup : (b.contents.decoding.ports.flatMap PortLayout.registers).Nodup := by
    rw [hports]
    exact hsound.ports.nodup
  have howned {i : Nat} {l : PortLayout} (hl : d.ports[i]? = some l) {addr : UInt16}
      (haddr : addr ∈ l.registers) :
      b.contents.owner? addr = some i ∧ ∃ p, b.AnsweredByPort i addr p := by
    rw [← hports] at hl
    obtain ⟨p, hp, rfl⟩ := Contents.exists_port_of_place hl
    have howner := Contents.owner?_eq_of_nodup hnodup hp haddr
    exact ⟨howner, p, answeredByPort_of_owner? hp howner⟩
  refine ⟨?_, ?_, ?_⟩
  · intro addr hlt
    cases howner : b.contents.owner? addr with
    | none =>
      have hfree := Contents.owner?_eq_none_iff.mp howner
      rw [hports] at hfree
      exact .inr ⟨Descriptor.registerAt?_eq_none_of_forall hfree,
        answeredByMemory_of_owner? howner (by rwa [hsize])⟩
    | some i =>
      obtain ⟨p, hp, hclaims⟩ := Contents.of_owner?_eq_some howner
      have hl : d.ports[i]? = some p.layout := by
        rw [← hports]
        exact Contents.place_of_port hp
      have haddr : addr ∈ p.layout.registers := Port.claims_iff.mp hclaims
      obtain ⟨k, hk⟩ := List.mem_iff_getElem?.mp haddr
      refine .inl ⟨(i, k), ⟨Descriptor.registerAt?_eq_some_iff.mpr ⟨_, hl, hk⟩, p,
        answeredByPort_of_owner? hp howner⟩, ?_⟩
      -- Another place of the address is in the same port, of which no address is given twice.
      rintro ⟨j, n⟩ ⟨hplace, -⟩
      obtain ⟨l, hl', hn⟩ := Descriptor.registerAt?_eq_some_iff.mp hplace
      obtain rfl : i = j :=
        Option.some.inj (howner.symm.trans (howned hl' (List.mem_of_getElem? hn)).1)
      obtain rfl : p.layout = l := Option.some.inj (hl.symm.trans hl')
      have hregisters : p.layout.registers.Nodup :=
        (List.pairwise_flatMap.mp hsound.ports.nodup).1 _ (List.mem_of_getElem? hl)
      obtain ⟨hlength, -⟩ := List.getElem?_eq_some_iff.mp hk
      rw [(List.getElem?_inj hlength hregisters).mp (hk.trans hn.symm)]
  · intro addr hle
    refine unanswered_of_not_maps h.sound ?_
    rw [h.decoding_eq]
    rintro (⟨l, hl, haddr⟩ | hlt)
    · exact absurd (hsound.ports.inside l hl addr haddr) (Nat.not_lt.mpr hle)
    · exact absurd hlt (Nat.not_lt.mpr hle)
  · intro l hl addr haddr
    have hmaps : b.contents.decoding.Maps addr := by
      rw [h.decoding_eq]
      exact .inl ⟨l, hl, haddr⟩
    exact ⟨isSome_peek?_iff.mpr hmaps, fun value => isSome_poke?_iff.mpr hmaps⟩

/-- The checks accept a descriptor whose memory size can be read exactly if it is sound: the clock
    runs, a no-op takes time, there is a port, the watchdog's period can be counted, the memory can
    be addressed, and the ports have one to eight pins each and every register inside the memory at
    an address of its own. Any other descriptor is refused for its first defect. On the bus of an
    accepted one, whatever was done with it, every address below the memory's size is that of
    exactly one register of exactly one port, or else of the memory; any other address is a fault;
    and every declared register can be read and written. -/
theorem check_decodes {d : Descriptor} {size : UInt64}
    (hparse : Size.parse d.dataMemory = .ok size) :
    (d.check = .ok () ↔ d.Sound size) ∧
      (∀ e, d.check = .error (.refused e) ↔ d.FirstDefect size e) ∧
      (¬ d.Sound size → ∃ e, d.check = .error (.refused e)) ∧
      (d.check = .ok () → ∃ b, ofDescriptor d = .ok b ∧
        ∀ tasks b', b.carryOut tasks = .ok b' → b'.Decodes d size) := by
  have haccepted := Descriptor.check_eq_ok_iff_sound hparse
  refine ⟨haccepted, fun e => Descriptor.check_eq_error_iff hparse, ?_, ?_⟩
  · intro hunsound
    rcases Descriptor.check_cases hparse with hok | hrefused
    · exact absurd (haccepted.mp hok) hunsound
    · exact hrefused
  · intro hok
    have hsound := haccepted.mp hok
    obtain ⟨b, hbus, -, hreached⟩ := exists_reached hsound
    exact ⟨b, hbus, fun tasks b' hrun => (hreached.of_carryOut hsound hrun).decodes hsound⟩

/-- The analog select of the 14-pin part's second port is the only register at its address, the byte
    behind it belongs to the memory, and nothing answers past 4 KiB. Of three broken rules the one
    is reported whose register comes first. -/
theorem check_decodes_pic16f1823 :
    (∃ b, ofDescriptor pic16f1823 = .ok b ∧
      (∃! place, pic16f1823.registerAt? place = some 0x18E ∧
        ∃ p, b.AnsweredByPort place.1 0x18E p) ∧
      b.AnsweredByMemory 0x18F ∧ b.Unanswered 0x1000) ∧
    Descriptor.crowded.check = .error (.refused (.mappedTwice 0x005)) := by
  constructor
  · obtain ⟨-, -, -, hbus⟩ :=
      check_decodes (show Size.parse pic16f1823.dataMemory = .ok 4096 by decide +kernel)
    obtain ⟨b, hbus, hdecodes⟩ := hbus (by decide +kernel)
    have hdecodes := hdecodes [] b rfl
    refine ⟨b, hbus, ?_, ?_, hdecodes.beyond 0x1000 (by decide)⟩
    · rcases hdecodes.within 0x18E (by decide) with hregister | ⟨hfree, -⟩
      · exact hregister
      · exact absurd rfl (hfree (1, 3))
    · rcases hdecodes.within 0x18F (by decide) with ⟨⟨i, k⟩, ⟨hplace, -⟩, -⟩ | ⟨-, hmemory⟩
      · obtain ⟨l, hl, haddr⟩ := Descriptor.registerAt?_eq_some_iff.mp hplace
        have hfree : ∀ l ∈ pic16f1823.ports, (0x18F : UInt16) ∉ l.registers := by decide +kernel
        exact absurd (List.mem_of_getElem? haddr) (hfree l (List.mem_of_getElem? hl))
      · exact hmemory
  · obtain ⟨-, hrefused, -⟩ :=
      check_decodes (show Size.parse Descriptor.crowded.dataMemory = .ok 256 by decide +kernel)
    refine (hrefused _).mpr (.ports (by decide) (by decide) (by decide) (by decide) (by decide)
      ⟨[_], _, _, rfl, ?_, .registers (by decide)
        (.mappedTwice (show _ = [0x006] ++ _ :: _ from rfl) ?_ (by decide) (by decide))⟩)
    · exact ⟨by simp, by simp [PortLayout.registers], by decide⟩
    · exact ⟨by simp, by simp, by simp [PortLayout.registers]⟩

end Bus

end LedBench.Bench
