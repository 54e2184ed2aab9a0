import LedBench.Proofs.Bus.PinChanges
import LedBench.Proofs.Bus.Task

namespace LedBench.Bench

open Chip Firmware

/-- Whether a byte has a bit. -/
def hasBit (x bit : UInt8) : Bool := x &&& (1 <<< bit) ≠ 0

section Bits

variable {bit : UInt8} (hbit : bit < 8) (x y : UInt8)

include hbit

theorem hasBit_eq_getLsbD : hasBit x bit = x.toBitVec.getLsbD bit.toNat := by
  have hzero := Port.and_shift_eq_zero_iff x hbit
  cases hget : x.toBitVec.getLsbD bit.toNat with
  | false => exact decide_eq_false (not_not_intro (hzero.mpr hget))
  | true =>
    refine decide_eq_true fun h => ?_
    rw [hget] at hzero
    exact Bool.noConfusion (hzero.mp h)

theorem hasBit_and : hasBit (x &&& y) bit = (hasBit x bit && hasBit y bit) := by
  simp only [hasBit_eq_getLsbD hbit, UInt8.toBitVec_and, BitVec.getLsbD_and]

theorem hasBit_or : hasBit (x ||| y) bit = (hasBit x bit || hasBit y bit) := by
  simp only [hasBit_eq_getLsbD hbit, UInt8.toBitVec_or, BitVec.getLsbD_or]

theorem hasBit_xor : hasBit (x ^^^ y) bit = (hasBit x bit ^^ hasBit y bit) := by
  simp only [hasBit_eq_getLsbD hbit, UInt8.toBitVec_xor, BitVec.getLsbD_xor]

theorem hasBit_not : hasBit (~~~ x) bit = !hasBit x bit := by
  have hlt : bit.toNat < 8 := UInt8.lt_iff_toNat_lt.mp hbit
  simp [hasBit_eq_getLsbD hbit, hlt]

end Bits

/-- A byte is told by its bits. -/
theorem eq_iff_hasBit {x y : UInt8} : x = y ↔ ∀ bit < 8, hasBit x bit = hasBit y bit := by
  constructor
  · rintro rfl bit _
    rfl
  · intro h
    rw [← UInt8.toBitVec_inj]
    refine BitVec.eq_of_getLsbD_eq fun n hn => ?_
    have hbyte : (UInt8.ofNat n).toNat = n := Nat.mod_eq_of_lt (by omega)
    have hlt : UInt8.ofNat n < 8 := by
      rw [UInt8.lt_iff_toNat_lt, hbyte]
      exact hn
    have hsame := h _ hlt
    rwa [hasBit_eq_getLsbD hlt, hasBit_eq_getLsbD hlt, hbyte] at hsame

/-- How a pin of a port is set up. -/
inductive PinMode where
  /-- The port does not have the pin. -/
  | missing
  | input
  /-- An output whose level the program cannot read back. -/
  | analog
  | digital
  deriving DecidableEq

/-- How bits of a register are changed in place. -/
inductive Change where
  | set
  | toggle

namespace Change

def handling (addr : UInt16) (mask : UInt8) : Change → Handling
  | .set => .setBits addr mask
  | .toggle => .toggleBits addr mask

def apply (mask : UInt8) (c : Change) (value : UInt8) : UInt8 :=
  match c with
  | .set => value ||| mask
  | .toggle => value ^^^ mask

/-- The bit that a change makes of one, where the mask has it. -/
def made (before : Bool) : Change → Bool
  | .set => true
  | .toggle => !before

/-- What reads 0 takes over the bit of the mask either way. -/
theorem made_false (c : Change) : c.made false = true := by cases c <;> simp [made]

theorem hasBit_apply {bit : UInt8} (hbit : bit < 8) (c : Change) (mask value : UInt8) :
    hasBit (c.apply mask value) bit =
      if hasBit mask bit then c.made (hasBit value bit) else hasBit value bit := by
  cases c with
  | set =>
    rw [apply, hasBit_or hbit, made]
    cases hasBit mask bit <;> simp
  | toggle =>
    rw [apply, hasBit_xor hbit, made]
    cases hasBit mask bit <;> simp

end Change

theorem View.handle_change (v : View) (addr : UInt16) (mask : UInt8) (c : Change) :
    v.handle (c.handling addr mask) = v.modify addr (c.apply mask) := by
  cases c <;> rfl

namespace Port

def mode (p : Port) (bit : UInt8) : PinMode :=
  if !hasBit p.mask bit then .missing
  else if hasBit p.tris bit then .input
  else if hasBit p.ansel bit then .analog
  else .digital

/-- The port after a change in place of its port register. -/
def change (c : Change) (p : Port) (mask : UInt8) : Port :=
  { p with lat := c.apply mask p.portValue &&& p.mask }

/-- All that the port holds for a pin is 0. -/
structure Void (p : Port) (bit : UInt8) : Prop where
  level : p.level bit = false
  lat : hasBit p.lat bit = false
  tris : hasBit p.tris bit = false
  ansel : hasBit p.ansel bit = false

/-- What a change with such a mask makes of a pin. Only a digital output minds what it was. -/
def ChangesPin (c : Change) (mask : UInt8) (p q : Port) (bit : UInt8) : Prop :=
  match p.mode bit with
  | .missing => p.Void bit ∧ q.Void bit
  | .input => p.level bit = false ∧ q.level bit = false ∧ hasBit q.lat bit = hasBit mask bit
  | .analog => q.level bit = hasBit mask bit
  | .digital =>
    q.level bit = if hasBit mask bit then c.made (p.level bit) else p.level bit

/-- What a change with such a mask makes of a port: its latch alone is another. -/
structure Changes (c : Change) (mask : UInt8) (p q : Port) : Prop where
  layout_eq : q.layout = p.layout
  tris_eq : q.tris = p.tris
  ansel_eq : q.ansel = p.ansel
  pin : ∀ bit < 8, ChangesPin c mask p q bit

variable {p : Port} {bit : UInt8} {c : Change} {mask : UInt8}

theorem mode_change (bit : UInt8) : (p.change c mask).mode bit = p.mode bit := rfl

theorem hasBit_mask (p : Port) (bit : UInt8) :
    hasBit p.mask bit = !decide (p.mode bit = .missing) := by
  rw [mode]
  cases hasBit p.mask bit <;> cases hasBit p.tris bit <;> cases hasBit p.ansel bit <;> simp

/-- An output shows its latch, and no other pin shows anything. -/
theorem level_eq (hbit : bit < 8) :
    p.level bit = (decide (p.mode bit = .analog ∨ p.mode bit = .digital) && hasBit p.lat bit) := by
  have hlevel : p.level bit = hasBit p.pins bit := rfl
  rw [hlevel, pins, hasBit_and hbit, hasBit_and hbit, hasBit_not hbit, mode]
  cases hasBit p.mask bit <;> cases hasBit p.tris bit <;> cases hasBit p.ansel bit <;> simp

/-- The program reads back what a digital output shows, and 0 from any other pin. -/
theorem hasBit_portValue (hbit : bit < 8) :
    hasBit p.portValue bit = (decide (p.mode bit = .digital) && hasBit p.lat bit) := by
  rw [portValue, hasBit_and hbit, hasBit_and hbit, hasBit_and hbit, hasBit_not hbit,
    hasBit_not hbit, mode]
  cases hasBit p.mask bit <;> cases hasBit p.tris bit <;> cases hasBit p.ansel bit <;> simp

/-- The bit of the latch after a change. -/
theorem hasBit_lat_change (hbit : bit < 8) (p : Port) (c : Change) (mask : UInt8) :
    hasBit (p.change c mask).lat bit =
      match p.mode bit with
      | .missing => false
      | .input | .analog => hasBit mask bit
      | .digital => if hasBit mask bit then c.made (hasBit p.lat bit) else hasBit p.lat bit := by
  rw [change, hasBit_and hbit, c.hasBit_apply hbit, hasBit_portValue hbit, hasBit_mask]
  cases p.mode bit <;> cases hasBit mask bit <;> simp [Change.made_false]

/-- A port as its history has left it holds nothing for a pin that it does not have. -/
theorem void_recalled {h : History} {l : PortLayout} (hbit : bit < 8)
    (hmode : (recalled h l).mode bit = .missing) : (recalled h l).Void bit := by
  have hmask : hasBit l.pinMask bit = false := by
    have hmask := hasBit_mask (recalled h l) bit
    rw [hmode] at hmask
    exact hmask
  refine ⟨?_, ?_, ?_, ?_⟩
  · rw [level_eq hbit, hmode]
    simp
  · simp [recalled, History.lat, hasBit_and hbit, hmask]
  · simp [recalled, History.tris, hasBit_and hbit, hmask]
  · simp [recalled, History.ansel, hasBit_and hbit, hmask]

theorem Void.change (hbit : bit < 8) (h : p.Void bit) (hmode : p.mode bit = .missing) :
    (p.change c mask).Void bit where
  level := by
    rw [level_eq hbit, mode_change, hmode]
    simp
  lat := by rw [hasBit_lat_change hbit, hmode]
  tris := h.tris
  ansel := h.ansel

/-- A change in place does to each pin what its mode asks for. -/
theorem changes_change (hvoid : ∀ bit < 8, p.mode bit = .missing → p.Void bit) (c : Change)
    (mask : UInt8) : Changes c mask p (p.change c mask) := by
  refine ⟨rfl, rfl, rfl, ?_⟩
  intro bit hbit
  have hlat := hasBit_lat_change hbit p c mask
  have hbefore := level_eq (p := p) hbit
  have hafter := level_eq (p := p.change c mask) hbit
  rw [mode_change] at hafter
  unfold ChangesPin
  cases hmode : p.mode bit with
  | missing => exact ⟨hvoid bit hbit hmode, (hvoid bit hbit hmode).change hbit hmode⟩
  | input =>
    rw [hmode] at hlat hbefore hafter
    exact ⟨by simpa using hbefore, by simpa using hafter, hlat⟩
  | analog =>
    rw [hmode] at hlat hafter
    simpa [hlat] using hafter
  | digital =>
    rw [hmode] at hlat hbefore hafter
    simpa [hlat, hbefore] using hafter

/-- An analog output that the program toggles is high ever after. -/
theorem level_foldl_toggle (hbit : bit < 8) (hmode : p.mode bit = .analog) {masks : List UInt8}
    (hmasks : ∀ mask ∈ masks, hasBit mask bit = true) (hlit : masks = [] → p.level bit = true) :
    (masks.foldl (change .toggle) p).mode bit = .analog ∧
      (masks.foldl (change .toggle) p).level bit = true := by
  induction masks generalizing p with
  | nil => exact ⟨hmode, hlit rfl⟩
  | cons mask rest ih =>
    rw [List.forall_mem_cons] at hmasks
    -- What the pin showed before does not matter: the program read 0 and wrote the mask's bit.
    refine ih (p := p.change .toggle mask) hmode hmasks.2 fun _ => ?_
    rw [level_eq hbit, hasBit_lat_change hbit, mode_change, hmode]
    simpa using hmasks.1

/-- A second toggle undoes the first where the program reads back what it wrote, and everywhere else
    the latch keeps the mask. -/
theorem lat_toggle_toggle_iff (hvoid : ∀ bit < 8, p.mode bit = .missing → p.Void bit) :
    ((p.change .toggle mask).change .toggle mask).lat = p.lat ↔
      ∀ bit < 8, p.mode bit = .input ∨ p.mode bit = .analog →
        hasBit mask bit = hasBit p.lat bit := by
  rw [eq_iff_hasBit]
  refine forall_congr' fun bit => forall_congr' fun hbit => ?_
  rw [hasBit_lat_change hbit, mode_change, hasBit_lat_change hbit]
  cases hmode : p.mode bit with
  | missing => simp [(hvoid bit hbit hmode).lat]
  | input => simp
  | analog => simp
  | digital => cases hasBit mask bit <;> simp [Change.made]

end Port

namespace Contents

/-- Where no address is given twice, a port register is the port's own. -/
theorem port_register {c : Contents} (hnodup : (c.decoding.ports.flatMap PortLayout.registers).Nodup)
    {i : Nat} {p : Port} (hp : c.ports[i]? = some p) (value : UInt8) :
    c.load? p.layout.port = some p.portValue ∧
      c.put p.layout.port value =
        { c with ports := c.ports.set i { p with lat := value &&& p.mask } } := by
  have howner : c.owner? p.layout.port = some i :=
    owner?_eq_of_nodup hnodup hp (Port.mem_registers_iff.mpr (.inl rfl))
  refine ⟨?_, ?_⟩
  · rw [load?, howner]
    dsimp only
    rw [hp, Option.bind_some, Port.read?_port]
  · obtain ⟨p', q, hp', -, hwrite, hput⟩ := put_of_owner?_eq_some howner value
    obtain rfl : p = p' := Option.some.inj (hp.symm.trans hp')
    rw [Port.write?, if_pos (.inl rfl)] at hwrite
    rw [hput, ← Option.some.inj hwrite]

end Contents

namespace Bus

variable {d : Descriptor} {size : UInt64} {b : Bus} {i : Nat} {l : PortLayout}

/-- Every port of a chip that passes the checks holds nothing for the pins that it does not have. -/
theorem Reached.exists_port (h : b.Reached d size) (hl : d.ports[i]? = some l) :
    ∃ p, b.chip.ports[i]? = some p ∧ p.layout = l ∧
      ∀ bit < 8, p.mode bit = .missing → p.Void bit := by
  obtain ⟨past, hrecalls⟩ := h.recalls
  refine ⟨.recalled past l, ?_, rfl, fun bit hbit => Port.void_recalled hbit⟩
  have hports : b.chip.ports = d.ports.map (Port.recalled past) := hrecalls.ports_eq
  rw [hports, List.getElem?_map, hl, Option.map_some]

/-- A change in place of a port register, for which the cycle counter has room, changes this one
    port and takes two cycles. -/
theorem Reached.exists_change (hsound : d.Sound size) (h : b.Reached d size) {p : Port}
    (hp : b.chip.ports[i]? = some p) (c : Change) (mask : UInt8)
    (hroom : b.cycles.toNat + 2 < UInt64.size) :
    ∃ b', (c.handling p.layout.port mask).run b = .ok b' ∧ b'.Reached d size ∧
      b'.chip.ports = b.chip.ports.set i (p.change c mask) ∧ b'.chip.memory = b.chip.memory ∧
      b'.cycles.toNat = b.cycles.toNat + 2 := by
  have hports : b.contents.decoding.ports = d.ports := congrArg Decoding.ports h.decoding_eq
  have hnodup : (b.contents.decoding.ports.flatMap PortLayout.registers).Nodup := by
    rw [hports]
    exact hsound.ports.nodup
  obtain ⟨hload, hput⟩ := Contents.port_register hnodup hp (c.apply mask p.portValue)
  have hload : b.view.load p.layout.port = p.portValue := by
    rw [View.load, show b.view.contents.load? p.layout.port = some p.portValue from hload,
      Option.getD_some]
  have htask : (c.handling p.layout.port mask).accesses.length +
      (c.handling p.layout.port mask).nops * d.cyclesPerDelayIteration.toNat = 2 := by
    cases c <;> simp [Change.handling, Handling.accesses, Handling.nops]
  obtain ⟨b', hrun, hview, hreached, hcycles⟩ :=
    h.exists_run hsound (.handling (c.handling p.layout.port mask))
      (by rw [Task.accesses, Task.nops, htask]; exact hroom)
  rw [Task.accesses, Task.nops, htask] at hcycles
  have hcontents : b'.contents =
      { b.contents with ports := b.contents.ports.set i (p.change c mask) } := by
    rw [contents_eq_of_view hview, View.undertake, View.handle_change, View.contents_modify, hload]
    exact hput
  exact ⟨b', hrun, hreached, congrArg Contents.ports hcontents, congrArg Contents.memory hcontents,
    hcycles⟩

/-- Toggles of a port in order. -/
theorem Reached.exists_toggles (hsound : d.Sound size) (h : b.Reached d size) {p : Port}
    (hp : b.chip.ports[i]? = some p) (masks : List UInt8)
    (hroom : b.cycles.toNat + 2 * masks.length < UInt64.size) :
    ∃ b', b.carryOut (masks.map fun mask => .handling (.toggleBits p.layout.port mask)) = .ok b' ∧
      b'.chip.ports[i]? = some (masks.foldl (Port.change .toggle) p) := by
  induction masks generalizing b p with
  | nil => exact ⟨b, rfl, hp⟩
  | cons mask rest ih =>
    rw [List.length_cons] at hroom
    obtain ⟨b₁, hrun, hreached, hports, -, hcycles⟩ :=
      h.exists_change hsound hp .toggle mask (by omega)
    have hp₁ : b₁.chip.ports[i]? = some (p.change .toggle mask) := by
      rw [hports, List.getElem?_set_self (List.getElem?_eq_some_iff.mp hp).1]
    obtain ⟨b', hrest, hp'⟩ := ih hreached hp₁ (by omega)
    refine ⟨b', ?_, hp'⟩
    rw [List.map_cons, carryOut, show Task.run b (.handling (.toggleBits p.layout.port mask)) =
      .ok b₁ from hrun]
    exact hrest

/-- What happens when the program changes a port register in place, on a chip that passes the checks
    and whatever was done with its bus before. A digital output is set or inverted where the mask
    has its bit and keeps its level elsewhere; an output that was left in analog mode takes over the
    bit of the mask, whatever it was; an input stays low and its latch takes over the bit; and for a
    pin that the port does not have everything stays 0. Nothing but the latch of this port changes,
    and two cycles go by. So an analog output that is toggled is high ever after, and two toggles
    with one mask bring the latch back exactly if the mask agrees with it on every pin that is not a
    digital output. The cycle counter must have room for what is done; where it has not, the
    simulation traps. -/
theorem changes_carryOut {d : Descriptor} (hcheck : d.check = .ok ()) (tasks : List Task)
    (hroom : Task.cycles d.cyclesPerDelayIteration tasks < UInt64.size) {i : Nat} {l : PortLayout}
    (hl : d.ports[i]? = some l) :
    ∃ b b' p, ofDescriptor d = .ok b ∧ b.carryOut tasks = .ok b' ∧
      b'.chip.ports[i]? = some p ∧ p.layout = l ∧
      (∀ c mask, b'.cycles.toNat + 2 < UInt64.size →
        ∃ b'' q, (c.handling l.port mask).run b' = .ok b'' ∧ p.Changes c mask q ∧
          b''.chip.ports = b'.chip.ports.set i q ∧ b''.chip.memory = b'.chip.memory ∧
          b''.cycles.toNat = b'.cycles.toNat + 2) ∧
      (∀ bit < 8, p.mode bit = .analog → ∀ masks, (∀ mask ∈ masks, hasBit mask bit = true) →
        (masks = [] → p.level bit = true) →
        b'.cycles.toNat + 2 * masks.length < UInt64.size →
        ∃ b'' q, b'.carryOut (masks.map fun mask => .handling (.toggleBits l.port mask)) = .ok b'' ∧
          b''.chip.ports[i]? = some q ∧ q.mode bit = .analog ∧ q.level bit = true) ∧
      ∀ mask, b'.cycles.toNat + 4 < UInt64.size →
        ∃ b'' q, b'.carryOut [.handling (.toggleBits l.port mask),
            .handling (.toggleBits l.port mask)] = .ok b'' ∧
          b''.chip.ports[i]? = some q ∧
          (q.lat = p.lat ↔ ∀ bit < 8, p.mode bit = .input ∨ p.mode bit = .analog →
            hasBit mask bit = hasBit p.lat bit) := by
  obtain ⟨size, hsound⟩ := Descriptor.check_eq_ok_iff.mp hcheck
  obtain ⟨b, b', hbus, hrun, -, hreached, -⟩ := exists_carryOut_powered hsound hroom
  obtain ⟨p, hp, rfl, hvoid⟩ := hreached.exists_port hl
  refine ⟨b, b', p, hbus, hrun, hp, rfl, ?_, ?_, ?_⟩
  · intro c mask hroom'
    obtain ⟨b'', hchange, -, hports, hmemory, hcycles'⟩ :=
      hreached.exists_change hsound hp c mask hroom'
    exact ⟨b'', _, hchange, Port.changes_change hvoid c mask, hports, hmemory, hcycles'⟩
  · intro bit hbit hmode masks hmasks hlit hroom'
    obtain ⟨b'', htoggles, hq⟩ := hreached.exists_toggles hsound hp masks hroom'
    obtain ⟨hmode', hlevel⟩ := Port.level_foldl_toggle hbit hmode hmasks hlit
    exact ⟨b'', _, htoggles, hq, hmode', hlevel⟩
  · intro mask hroom'
    obtain ⟨b'', htoggles, hq⟩ :=
      hreached.exists_toggles hsound hp [mask, mask] hroom'
    exact ⟨b'', _, htoggles, hq, Port.lat_toggle_toggle_iff hvoid⟩

/-- On the 14-pin part the LED's pin is analog until somebody says otherwise: lit as an output, it
    cannot be switched off. -/
theorem changes_carryOut_analog :
    ∃ b b' b'' q, ofDescriptor pic16f1823 = .ok b ∧
      b.carryOut [.handling (.op (.write 0x08E 0)), .handling (.setBits 0x00E 1)] = .ok b' ∧
      b'.carryOut [.handling (.toggleBits 0x00E 1), .handling (.toggleBits 0x00E 1),
        .handling (.toggleBits 0x00E 1)] = .ok b'' ∧
      b''.chip.ports[1]? = some q ∧ q.level 0 = true := by
  have hstate : (ofDescriptor pic16f1823).toOption.all (fun b =>
      (b.carryOut [.handling (.op (.write 0x08E 0)), .handling (.setBits 0x00E 1)]).toOption.all
        fun b' => b'.cycles = 3 ∧ b'.chip.ports[1]?.all (·.mode 0 = .analog)) = true := by
    decide +kernel
  obtain ⟨b, b', p, hbus, hrun, hp, -, -, htoggled, -⟩ :=
    changes_carryOut (d := pic16f1823) (by decide +kernel)
      [.handling (.op (.write 0x08E 0)), .handling (.setBits 0x00E 1)] (by decide)
      (i := 1) (l := pic16f1823.ports[1]) rfl
  rw [hbus, Except.toOption, Option.all_some, hrun, Except.toOption, Option.all_some, hp,
    Option.all_some, decide_eq_true_eq, decide_eq_true_eq] at hstate
  obtain ⟨hcycles, hmode⟩ := hstate
  have hmasks : ∀ mask ∈ [(1 : UInt8), 1, 1], hasBit mask 0 = true := by decide +kernel
  obtain ⟨b'', q, hrun', hq, -, hlevel⟩ := htoggled 0 (by decide) hmode [1, 1, 1] hmasks
    (by simp) (by rw [hcycles]; decide)
  exact ⟨b, b', b'', q, hbus, hrun, hrun', hq, hlevel⟩

end Bus

end LedBench.Bench
