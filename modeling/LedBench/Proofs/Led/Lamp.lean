import LedBench.Proofs.Bus.Build

namespace LedBench.Bench

open Chip Firmware

/-- What the registers of the LED's port say of its pin. -/
structure Lamp where
  latch : Bool
  output : Bool
  digital : Bool
  deriving DecidableEq, Repr

namespace Lamp

/-- Only an output is driven, so that an input shows nothing of its latch. -/
def lit (s : Lamp) : Bool := s.latch && s.output

/-- The LED's bit in a read of the port register. -/
def sensed (s : Lamp) : Bool := s.latch && s.output && s.digital

/-- A pin that the program has set up, at this level. -/
def driven (level : Bool) : Lamp := ⟨level, true, true⟩

def reset (l : PortLayout) (cause : ResetCause) (s : Lamp) : Lamp where
  latch := if cause = .powerOn then false else s.latch
  output := l.reset.tris &&& 1 = 0
  digital := l.reset.ansel &&& 1 = 0

def write (l : PortLayout) (addr : UInt16) (value : UInt8) (s : Lamp) : Lamp :=
  if addr = l.port ∨ some addr = l.lat then { s with latch := value &&& 1 ≠ 0 }
  else if addr = l.tris then { s with output := value &&& 1 = 0 }
  else if some addr = l.ansel then { s with digital := value &&& 1 = 0 }
  else s

/-- The report of the pin's change, if it changes. -/
def change (l : PortLayout) (before after : Lamp) (cycle : UInt64) : List Event :=
  if before.lit = after.lit then [] else [.pin l.id 0 after.lit cycle]

end Lamp

@[simp] theorem toUInt8_false : false.toUInt8 = 0 := rfl

@[simp] theorem toUInt8_true : true.toUInt8 = 1 := rfl

theorem toUInt8_and_not (b : Bool) (x : UInt8) :
    b.toUInt8 &&& ~~~x = (b && decide (x &&& 1 = 0)).toUInt8 := by
  cases b with
  | false => exact UInt8.zero_and
  | true =>
    have hbits : ∀ y : BitVec 8,
        1#8 &&& ~~~y = (decide (y &&& 1#8 = 0#8)).toUInt8.toBitVec := by decide
    rw [← UInt8.toBitVec_inj]
    simpa [← UInt8.toBitVec_inj] using hbits x.toBitVec

theorem toUInt8_and_mask (b : Bool) {mask : UInt8} (hmask : mask &&& 1 = 1) :
    b.toUInt8 &&& mask = b.toUInt8 := by
  cases b with
  | false => exact UInt8.zero_and
  | true => rwa [UInt8.and_comm]

theorem toUInt8_and_one (b : Bool) : decide (b.toUInt8 &&& 1 ≠ 0) = b := by
  cases b <;> decide

namespace Port

/-- A port whose registers say this of the LED's pin, with no other latch set. -/
structure Bears (q : Port) (s : Lamp) : Prop where
  lat_eq : q.lat = s.latch.toUInt8
  output_eq : decide (q.tris &&& 1 = 0) = s.output
  digital_eq : decide (q.ansel &&& 1 = 0) = s.digital

theorem Bears.pins_eq {q : Port} {s : Lamp} (h : q.Bears s) (hmask : q.mask &&& 1 = 1) :
    q.pins = s.lit.toUInt8 := by
  rw [pins, h.lat_eq, toUInt8_and_not, toUInt8_and_mask _ hmask, h.output_eq, Lamp.lit]

theorem Bears.portValue_eq {q : Port} {s : Lamp} (h : q.Bears s) (hmask : q.mask &&& 1 = 1) :
    q.portValue = s.sensed.toUInt8 := by
  rw [portValue, h.lat_eq, toUInt8_and_not, toUInt8_and_not, toUInt8_and_mask _ hmask,
    h.output_eq, h.digital_eq, Lamp.sensed]

theorem pins_of_lat_eq_zero {q : Port} (h : q.lat = 0) : q.pins = 0 := by
  simp [pins, h]

theorem pinChanges_eq {p q : Port} {before after : Bool} (hp : p.pins = before.toUInt8)
    (hq : q.pins = after.toUInt8) :
    pinChanges p q = if before = after then [] else [(0, after)] := by
  rw [pinChanges, hp, hq]
  cases before <;> cases after <;> decide

private theorem and_mask_and_one {mask : UInt8} (hmask : mask &&& 1 = 1) (x : UInt8) :
    x &&& mask &&& 1 = x &&& 1 := by
  rw [UInt8.and_assoc, hmask]

theorem Bears.write? {q q' : Port} {s : Lamp} (h : q.Bears s) (hmask : q.mask &&& 1 = 1)
    {addr : UInt16} {set : Bool} (hwrite : q.write? addr set.toUInt8 = some q') :
    q'.Bears (s.write q.layout addr set.toUInt8) := by
  simp only [Port.write?, toUInt8_and_mask set hmask] at hwrite
  unfold Lamp.write
  split at hwrite
  · cases hwrite
    rename_i hport
    rw [if_pos hport]
    exact ⟨by rw [toUInt8_and_one], h.output_eq, h.digital_eq⟩
  rename_i hport
  rw [if_neg hport]
  split at hwrite
  · cases hwrite
    rename_i htris
    rw [if_pos htris]
    exact ⟨h.lat_eq, rfl, h.digital_eq⟩
  rename_i htris
  rw [if_neg htris]
  split at hwrite
  · cases hwrite
    rename_i hansel
    rw [if_pos hansel]
    exact ⟨h.lat_eq, h.output_eq, rfl⟩
  · cases hwrite

theorem lat_of_write?_zero {q q' : Port} (h : q.lat = 0) {addr : UInt16}
    (hwrite : q.write? addr 0 = some q') : q'.lat = 0 := by
  simp only [write?, UInt8.zero_and] at hwrite
  split at hwrite
  · cases hwrite
    rfl
  split at hwrite
  · cases hwrite
    exact h
  split at hwrite
  · cases hwrite
    exact h
  · cases hwrite

/-- Direction and analog select come from the layout, the latch from before or from nothing. -/
theorem bears_reset {q : Port} {s : Lamp} {cause : ResetCause} (hmask : q.mask &&& 1 = 1)
    (hlat : cause = .powerOn ∨ q.lat = s.latch.toUInt8) :
    (q.reset cause).Bears (s.reset q.layout cause) where
  lat_eq := by
    rcases hlat with rfl | hlat
    · simp [reset, Lamp.reset]
    · cases cause <;> simp [reset, Lamp.reset, hlat]
  output_eq := by
    have hpins : q.layout.pinMask &&& 1 = 1 := hmask
    simp only [reset, powered, Lamp.reset, and_mask_and_one hpins]
  digital_eq := by
    have hpins : q.layout.pinMask &&& 1 = 1 := hmask
    simp only [reset, powered, Lamp.reset, and_mask_and_one hpins]

end Port

/-- The LED's port on a chip is the `i`-th, of this layout, and no address belongs to two ports. -/
structure Decoding.Places (k : Decoding) (l : PortLayout) (i : Nat) : Prop where
  nodup : (k.ports.flatMap PortLayout.registers).Nodup
  place : k.ports[i]? = some l
  mask : l.pinMask &&& 1 = 1

theorem Lamp.write_eq_self {l : PortLayout} {addr : UInt16} (haddr : addr ∉ l.registers)
    (value : UInt8) (s : Lamp) : s.write l addr value = s := by
  simp only [Port.mem_registers_iff, not_or] at haddr
  simp [write, haddr]

namespace Contents

variable {c c' : Contents} {l : PortLayout} {i : Nat} {s s' : Lamp}

/-- The LED's port says this of its pin, and the latch of every other port is clear. -/
structure Shows (c : Contents) (i : Nat) (s : Lamp) : Prop where
  led : ∃ q, c.ports[i]? = some q ∧ q.Bears s
  dark : ∀ j q, j ≠ i → c.ports[j]? = some q → q.lat = 0

theorem exists_port_of_places (hplaces : c.decoding.Places l i) :
    ∃ q, c.ports[i]? = some q ∧ q.layout = l :=
  exists_port_of_place hplaces.place

theorem layout_of_places (hplaces : c.decoding.Places l i) {q : Port} (hq : c.ports[i]? = some q) :
    q.layout = l := by
  obtain ⟨p, hp, rfl⟩ := exists_port_of_places hplaces
  rw [Option.some.inj (hq.symm.trans hp)]

theorem mask_of_places (hplaces : c.decoding.Places l i) {q : Port} (hq : c.ports[i]? = some q) :
    q.mask &&& 1 = 1 := by
  rw [Port.mask, layout_of_places hplaces hq]
  exact hplaces.mask

theorem owner?_of_places (hplaces : c.decoding.Places l i) {addr : UInt16}
    (haddr : addr ∈ l.registers) : c.owner? addr = some i := by
  obtain ⟨q, hq, rfl⟩ := exists_port_of_places hplaces
  exact owner?_eq_of_nodup hplaces.nodup hq haddr

/-- What other ports and data memory answer is none of the LED's registers. -/
theorem not_mem_of_owner?_ne (hplaces : c.decoding.Places l i) {addr : UInt16}
    (howner : c.owner? addr ≠ some i) : addr ∉ l.registers :=
  fun haddr => howner (owner?_of_places hplaces haddr)

/-- Between two contents only the LED's pin can have changed. -/
theorem Shows.pinEvents_eq (hplaces : c.decoding.Places l i) (hdecoding : c'.decoding = c.decoding)
    (h : c.Shows i s) (h' : c'.Shows i s') (cycle : UInt64) :
    c.pinEvents c' cycle = Lamp.change l s s' cycle := by
  obtain ⟨q, hq, hbears⟩ := h.led
  obtain ⟨q', hq', hbears'⟩ := h'.led
  have hplaces' : c'.decoding.Places l i := hdecoding ▸ hplaces
  have hpins := hbears.pins_eq (mask_of_places hplaces hq)
  have hpins' := hbears'.pins_eq (mask_of_places hplaces' hq')
  have hzip : (c.ports.zip c'.ports)[i]? = some (q, q') :=
    List.getElem?_zip_eq_some.mpr ⟨hq, hq'⟩
  rw [pinEvents, flatMap_eq_of_unique hzip]
  · dsimp only
    rw [Port.pinChanges_eq hpins hpins', layout_of_places hplaces' hq', Lamp.change]
    split <;> rfl
  · rintro j ⟨p, p'⟩ hj hp
    obtain ⟨hfirst, hsecond⟩ := List.getElem?_zip_eq_some.mp hp
    have hsame : p.pins = p'.pins := by
      rw [Port.pins_of_lat_eq_zero (h.dark j p hj hfirst),
        Port.pins_of_lat_eq_zero (h'.dark j p' hj hsecond)]
    dsimp only
    rw [Port.pinChanges_of_pins_eq hsame, List.map_nil]

theorem Shows.reset (hplaces : c.decoding.Places l i) (h : c.Shows i s) (cause : ResetCause) :
    (c.reset cause).Shows i (s.reset l cause) := by
  obtain ⟨q, hq, hbears⟩ := h.led
  refine ⟨⟨q.reset cause, by simp [Contents.reset, hq], ?_⟩, ?_⟩
  · rw [← layout_of_places hplaces hq]
    exact Port.bears_reset (mask_of_places hplaces hq) (.inr hbears.lat_eq)
  · intro j p hj hp
    obtain ⟨p, hp', rfl⟩ := Option.map_eq_some_iff.mp (by simpa [Contents.reset] using hp)
    cases cause <;> simp [Port.reset, h.dark j p hj hp']

/-- A power-on reset clears all latches, whatever the registers held before. -/
theorem shows_reset_powerOn (hplaces : c.decoding.Places l i) (s : Lamp) :
    (c.reset .powerOn).Shows i (s.reset l .powerOn) := by
  obtain ⟨q, hq, hlayout⟩ := exists_port_of_places hplaces
  refine ⟨⟨q.reset .powerOn, by simp [Contents.reset, hq], ?_⟩, ?_⟩
  · rw [← hlayout]
    exact Port.bears_reset (mask_of_places hplaces hq) (.inl rfl)
  · intro j p hj hp
    obtain ⟨p, _, rfl⟩ := Option.map_eq_some_iff.mp (by simpa [Contents.reset] using hp)
    simp [Port.reset]

/-- A read of the LED's port sees the LED's bit and no other. -/
theorem Shows.load?_eq (hplaces : c.decoding.Places l i) (h : c.Shows i s) :
    c.load? l.port = some s.sensed.toUInt8 := by
  obtain ⟨q, hq, hbears⟩ := h.led
  rw [load?, owner?_of_places hplaces (Port.mem_registers_iff.mpr (.inl rfl))]
  dsimp only
  rw [hq, Option.bind_some, Port.read?, if_pos (by rw [layout_of_places hplaces hq]),
    hbears.portValue_eq (mask_of_places hplaces hq)]

private theorem Shows.set_led (h : c.Shows i s) {q : Port} (hi : i < c.ports.length)
    (hbears : q.Bears s') : ({ c with ports := c.ports.set i q } : Contents).Shows i s' := by
  refine ⟨⟨q, by simp [hi], hbears⟩, ?_⟩
  intro j r hj hr
  rw [List.getElem?_set_ne (Ne.symm hj)] at hr
  exact h.dark j r hj hr

private theorem Shows.set_dark (h : c.Shows i s) {k : Nat} (hk : k ≠ i) {q : Port}
    (hlat : q.lat = 0) : ({ c with ports := c.ports.set k q } : Contents).Shows i s := by
  obtain ⟨p, hp, hbears⟩ := h.led
  refine ⟨⟨p, by rw [List.getElem?_set_ne hk]; exact hp, hbears⟩, ?_⟩
  intro j r hj hr
  rw [List.getElem?_set] at hr
  split at hr
  · split at hr
    · obtain rfl : q = r := Option.some.inj hr
      exact hlat
    · cases hr
  · exact h.dark j r hj hr

/-- A write of the program acts on the LED's bits alone, and lights no other latch: the program
    writes a set bit to the LED's port and nowhere else. -/
theorem Shows.store? (hplaces : c.decoding.Places l i) (h : c.Shows i s) {addr : UInt16}
    {set : Bool} (hset : set = true → addr = l.port)
    (hstore : c.store? addr set.toUInt8 = some c') :
    c'.Shows i (s.write l addr set.toUInt8) := by
  unfold Contents.store? at hstore
  cases howner : c.owner? addr with
  | none =>
    have hother : c.owner? addr ≠ some i := by
      rw [howner]
      exact (Option.some_ne_none i).symm
    have hforeign := not_mem_of_owner?_ne hplaces hother
    rw [howner, Option.map_eq_some_iff] at hstore
    obtain ⟨m, -, rfl⟩ := hstore
    rw [Lamp.write_eq_self hforeign]
    exact ⟨h.led, h.dark⟩
  | some k =>
    rw [howner, Option.map_eq_some_iff] at hstore
    obtain ⟨p', hp', rfl⟩ := hstore
    obtain ⟨p, hp, hwrite⟩ := Option.bind_eq_some_iff.mp hp'
    by_cases hki : k = i
    · subst hki
      obtain ⟨q, hq, hbears⟩ := h.led
      obtain rfl : q = p := Option.some.inj (hq.symm.trans hp)
      obtain ⟨hk, -⟩ := List.getElem?_eq_some_iff.mp hp
      rw [← layout_of_places hplaces hq]
      exact h.set_led hk (hbears.write? (mask_of_places hplaces hq) hwrite)
    · have hforeign := not_mem_of_owner?_ne hplaces (by
        rw [howner]
        exact fun heq => hki (Option.some.inj heq))
      have hclear : set = false := by
        cases set with
        | false => rfl
        | true => exact absurd (Port.mem_registers_iff.mpr (.inl (hset rfl))) hforeign
      rw [hclear, toUInt8_false] at hwrite
      rw [Lamp.write_eq_self hforeign]
      exact h.set_dark hki (Port.lat_of_write?_zero (h.dark k p hki hp) hwrite)

end Contents

end LedBench.Bench
