import LedBench.Proofs.Led.Wiring
import LedBench.Proofs.Machine.Ready

namespace LedBench.Bench

open Chip Firmware

namespace Lamp

/-- The initializer's write that ends analog mode clears the latch of the LED's port: the register
    it means is missing, and the latch lies at its address. -/
def aliased (t : Target) (l : PortLayout) : Bool :=
  t.digitalMode?.isSome && decide (l.lat = t.digitalMode?)

/-- The pin once the initializer has ended analog mode. -/
def digitized (t : Target) (l : PortLayout) (s : Lamp) : Lamp :=
  match t.digitalMode? with
  | some addr => s.write l addr 0
  | none => s

/-- What the initializer shows from its write to the direction register on. -/
def enabling (t : Target) (l : PortLayout) (s : Lamp) (cycle : UInt64) : List Event :=
  .write t.direction 0 :: change l s { s with output := true } (cycle + 1) ++
    .write t.led.port 1 :: change l { s with output := true } (driven true) (cycle + 3)

/-- What the initializer shows. -/
def starting (t : Target) (l : PortLayout) (s : Lamp) (cycle : UInt64) : List Event :=
  match t.digitalMode? with
  | some addr =>
    .write addr 0 :: change l s (s.digitized t l) (cycle + 1) ++
      enabling t l (s.digitized t l) (cycle + 1)
  | none => enabling t l s cycle

/-- What a reset and the initializer after it show. -/
def restarting (t : Target) (l : PortLayout) (cause : ResetCause) (s : Lamp) (cycle : UInt64) :
    List Event :=
  .reset cause :: change l s (s.reset l cause) cycle ++ starting t l (s.reset l cause) cycle

theorem write_port (l : PortLayout) (set : Bool) (s : Lamp) :
    s.write l l.port set.toUInt8 = { s with latch := set } := by
  rw [write, if_pos (.inl rfl), toUInt8_and_one]

theorem write_tris {l : PortLayout} (hnodup : l.registers.Nodup) (s : Lamp) :
    s.write l l.tris 0 = { s with output := true } := by
  have hport : ¬ (l.tris = l.port ∨ some l.tris = l.lat) :=
    not_or.mpr ⟨Port.tris_ne_port hnodup, fun hlat => (Port.lat_ne hnodup hlat).2 rfl⟩
  rw [write, if_neg hport, if_pos rfl]
  simp

theorem write_ansel {l : PortLayout} (hnodup : l.registers.Nodup) {addr : UInt16}
    (hansel : l.ansel = some addr) (s : Lamp) :
    s.write l addr 0 = { s with digital := true } := by
  obtain ⟨hport, htris, hlat⟩ := Port.ansel_ne hnodup hansel.symm
  rw [write, if_neg (not_or.mpr ⟨hport, hlat⟩), if_neg htris, if_pos hansel.symm]
  simp

end Lamp

namespace View

variable {v : View} {l : PortLayout} {i : Nat} {s : Lamp}

theorem maps_of_places {k : Decoding} (hplaces : k.Places l i) {addr : UInt16}
    (haddr : addr ∈ l.registers) : k.Maps addr :=
  .inl ⟨l, List.mem_of_getElem? hplaces.place, haddr⟩

/-- A write of the program, as the LED's pin has it. -/
theorem shows_write (hplaces : v.contents.decoding.Places l i) (h : v.contents.Shows i s)
    {addr : UInt16} {set : Bool} (hset : set = true → addr = l.port)
    (hmaps : v.contents.decoding.Maps addr) :
    (v.write addr set.toUInt8).contents.Shows i (s.write l addr set.toUInt8) ∧
      (v.write addr set.toUInt8).events = v.events ++ .write addr set.toUInt8 ::
        Lamp.change l s (s.write l addr set.toUInt8) (v.clock.cycles + 1) := by
  have hsome : (v.contents.store? addr set.toUInt8).isSome = true :=
    Contents.store?_isSome_iff.mpr hmaps
  obtain ⟨c, hstore⟩ := Option.isSome_iff_exists.mp hsome
  have hshows := h.store? hplaces hset hstore
  have hpoke : (v.lapse 1).poke? addr set.toUInt8 = some
      { v.lapse 1 with
        contents := c
        events := v.events ++
          .write addr set.toUInt8 :: v.contents.pinEvents c (v.clock.cycles + 1) } :=
    Option.map_eq_some_iff.mpr ⟨c, hstore, rfl⟩
  rw [write, hpoke, Option.getD_some]
  refine ⟨hshows, ?_⟩
  rw [h.pinEvents_eq hplaces (Contents.decoding_of_store? hstore) hshows]

/-- A change of the LED's port that touches its bit alone. -/
theorem shows_modify (hplaces : v.contents.decoding.Places l i) (h : v.contents.Shows i s)
    {f : UInt8 → UInt8} {set : Bool} (hf : f s.sensed.toUInt8 = set.toUInt8) :
    (v.modify l.port f).contents.Shows i { s with latch := set } ∧
      (v.modify l.port f).events = v.events ++ .write l.port set.toUInt8 ::
        Lamp.change l s { s with latch := set } (v.clock.cycles + 2) := by
  have hcontents := contents_read v l.port
  have hload : v.load l.port = s.sensed.toUInt8 := by
    rw [load, h.load?_eq hplaces, Option.getD_some]
  have hcycles : (v.read l.port).clock.cycles + 1 = v.clock.cycles + 2 := by
    rw [clock_read, Clock.lapse, UInt64.add_assoc]
    rfl
  rw [modify, hload, hf]
  have hwrite := shows_write (v := v.read l.port) (by rwa [hcontents]) (by rwa [hcontents])
    (fun _ : set = true => rfl)
    (by rw [hcontents]; exact maps_of_places hplaces (Port.mem_registers_iff.mpr (.inl rfl)))
  rwa [hcycles, events_read, Lamp.write_port] at hwrite

end View

namespace Wiring

variable {t : Target} {led : PinRef} {k : Decoding} {l : PortLayout} {i : Nat} {s : Lamp}

theorem nodup_registers (h : Wiring t led k l i) : l.registers.Nodup :=
  (List.pairwise_flatMap.mp h.places.nodup).1 l (List.mem_of_getElem? h.places.place)

/-- After a reset the pin is analog only if the initializer can end that. -/
theorem digital_reset (h : Wiring t led k l i) (cause : ResetCause) (s : Lamp)
    (hansel : l.ansel = none) : (s.reset l cause).digital = true := by
  rcases h.analog with ⟨_, hne⟩ | ⟨_, hzero⟩
  · exact absurd hansel hne
  · simpa [Lamp.reset] using hzero

/-- The initializer leaves the pin digital, and leaves its latch alone unless it is aliased. -/
theorem digitized_eq (h : Wiring t led k l i) (hdigital : l.ansel = none → s.digital = true) :
    s.digitized t l = ⟨s.latch && !Lamp.aliased t l, s.output, true⟩ := by
  unfold Lamp.digitized Lamp.aliased
  have hapart : ∀ addr, t.digitalMode? = some addr → addr ≠ l.port ∧ addr ≠ l.tris := by
    rw [h.port_eq, h.tris_eq]
    cases t <;> simp [Target.digitalMode?, Target.led, Target.direction]
  cases hmode : t.digitalMode? with
  | none =>
    have hansel : l.ansel = none := by
      rcases h.analog with ⟨heq, _⟩ | ⟨hnone, _⟩
      · rw [heq, hmode]
      · exact hnone
    rw [← hdigital hansel]
    simp
  | some addr =>
    obtain ⟨hport, htris⟩ := hapart addr hmode
    rcases h.analog with ⟨heq, _⟩ | ⟨hnone, _⟩
    · rw [hmode] at heq
      have hlat : l.lat ≠ some addr := by
        have hnodup := h.nodup_registers
        intro hlat
        simp [PortLayout.registers, hlat, heq] at hnodup
      dsimp only
      rw [Lamp.write_ansel h.nodup_registers heq]
      simp [hlat]
    · have hansel : some addr ≠ l.ansel := by
        rw [hnone]
        exact Option.some_ne_none addr
      dsimp only
      rw [Lamp.write, if_neg htris, if_neg hansel, ← hdigital hnone]
      by_cases hlat : l.lat = some addr
      · simp [hlat]
      · simp [hport, hlat, Ne.symm hlat]

end Wiring

namespace View

variable {t : Target} {led : PinRef} {k : Decoding} {v : View} {l : PortLayout} {i : Nat} {s : Lamp}

/-- The last two instructions of the initializer light a digital pin. -/
private theorem shows_enabling (hw : Wiring t led k l i) (hdecoding : v.contents.decoding = k)
    (h : v.contents.Shows i s) (hdigital : s.digital = true) :
    ((v.write t.direction 0).modify t.led.port (· ||| t.ledMask)).contents.Shows i
        (Lamp.driven true) ∧
      ((v.write t.direction 0).modify t.led.port (· ||| t.ledMask)).events =
        v.events ++ Lamp.enabling t l s v.clock.cycles := by
  subst hdecoding
  have htris : l.tris ∈ l.registers := Port.mem_registers_iff.mpr (.inr (.inl rfl))
  obtain ⟨hshows, hevents⟩ := shows_write hw.places h
    (fun hset => absurd hset Bool.false_ne_true) (maps_of_places hw.places htris)
  rw [toUInt8_false, hw.tris_eq] at hshows hevents
  have hwrite : s.write l t.direction 0 = { s with output := true } := by
    rw [← hw.tris_eq, Lamp.write_tris hw.nodup_registers]
  rw [hwrite] at hshows hevents
  have hplaces : (v.write t.direction 0).contents.decoding.Places l i := by
    rw [decoding_eq_of_build (build_write v t.direction 0)]
    exact hw.places
  have hmask : t.ledMask = 1 := by cases t <;> rfl
  have hlit : (fun value => value ||| t.ledMask)
      (Lamp.sensed { s with output := true }).toUInt8 = true.toUInt8 := by
    rw [hmask]
    cases s.latch <;> simp [Lamp.sensed, hdigital]
  have hdriven : ({ latch := true, output := true, digital := s.digital } : Lamp) =
      Lamp.driven true := by
    rw [hdigital, Lamp.driven]
  obtain ⟨hshows', hevents'⟩ := shows_modify (f := (· ||| t.ledMask)) hplaces hshows hlit
  dsimp only at hshows' hevents'
  rw [hdriven, hw.port_eq] at hshows' hevents'
  refine ⟨hshows', ?_⟩
  have hcycles : (v.write t.direction 0).clock.cycles + 2 = v.clock.cycles + 3 := by
    rw [clock_write, Clock.lapse, UInt64.add_assoc]
    rfl
  rw [hevents', hevents, hcycles, Lamp.enabling]
  simp

/-- The initializer lights the LED, whatever its latch and direction were. -/
theorem shows_startup (hw : Wiring t led k l i) (hdecoding : v.contents.decoding = k)
    (hmaps : k.startupViolation? t = none) (h : v.contents.Shows i s)
    (hdigital : l.ansel = none → s.digital = true) :
    (v.startup t).contents.Shows i (Lamp.driven true) ∧
      (v.startup t).events = v.events ++ Lamp.starting t l s v.clock.cycles := by
  have hdigitized := hw.digitized_eq hdigital
  rw [startup, Target.startup, List.foldl_append, Lamp.starting]
  cases hmode : t.digitalMode? with
  | none =>
    have hself : s.digitized t l = s := by rw [Lamp.digitized, hmode]
    rw [hself] at hdigitized
    exact shows_enabling hw hdecoding h (by rw [hdigitized])
  | some addr =>
    have hmapped : k.Maps addr := by
      refine Decoding.startupViolation?_eq_none_iff.mp hmaps (.write addr 0) ?_
      simp [Target.startup, hmode]
    subst hdecoding
    obtain ⟨hshows, hevents⟩ := shows_write hw.places h
      (fun hset => absurd hset Bool.false_ne_true) hmapped
    have hself : s.write l addr false.toUInt8 = s.digitized t l := by
      rw [Lamp.digitized, hmode, toUInt8_false]
    rw [hself, toUInt8_false] at hshows hevents
    obtain ⟨hshows', hevents'⟩ := shows_enabling hw
      (decoding_eq_of_build (build_write v addr 0)) hshows (by rw [hdigitized])
    refine ⟨hshows', ?_⟩
    have hcycles : (v.write addr 0).clock.cycles = v.clock.cycles + 1 := by
      rw [clock_write, Clock.lapse]
    rw [hevents, hcycles] at hevents'
    rw [← List.append_assoc]
    exact hevents'

/-- A reset lights the LED, whatever the registers held before if it is a power-on reset. -/
theorem shows_restart (hw : Wiring t led k l i) (hdecoding : v.contents.decoding = k)
    (hmaps : k.startupViolation? t = none) (h : v.contents.Shows i s) (cause : ResetCause) :
    (v.restart t cause).contents.Shows i (Lamp.driven true) ∧
      (v.restart t cause).events =
        v.events ++ Lamp.restarting t l cause s v.clock.cycles := by
  subst hdecoding
  have hreset := h.reset hw.places cause
  obtain ⟨hshows, hevents⟩ := shows_startup (v := (v.emit (.reset cause)).reset cause) hw
    (Contents.decoding_reset v.contents cause) hmaps hreset (hw.digital_reset cause s)
  rw [restart]
  refine ⟨hshows, ?_⟩
  have hbefore : ((v.emit (.reset cause)).reset cause).events = v.events ++ [.reset cause] ++
      v.contents.pinEvents (v.contents.reset cause) v.clock.cycles := rfl
  have hcycles : ((v.emit (.reset cause)).reset cause).clock.cycles = v.clock.cycles := rfl
  rw [hevents, hbefore, hcycles,
    h.pinEvents_eq hw.places (Contents.decoding_reset v.contents cause) hreset, Lamp.restarting]
  simp

theorem shows_restart_powerOn (hw : Wiring t led k l i) (hdecoding : v.contents.decoding = k)
    (hmaps : k.startupViolation? t = none) :
    (v.restart t .powerOn).contents.Shows i (Lamp.driven true) := by
  subst hdecoding
  have hreset := Contents.shows_reset_powerOn hw.places (Lamp.driven true)
  exact (shows_startup (v := (v.emit (.reset .powerOn)).reset .powerOn) hw
    (Contents.decoding_reset v.contents .powerOn) hmaps hreset (hw.digital_reset .powerOn _)).1

/-- A turn of the loop inverts the pin. -/
theorem shows_turn (hw : Wiring t led k l i) (hdecoding : v.contents.decoding = k) {level : Bool}
    (h : v.contents.Shows i (Lamp.driven level)) (passes : UInt64) :
    (v.turn t passes).contents.Shows i (Lamp.driven !level) ∧
      (v.turn t passes).events = v.events ++ [.passStart passes,
        .write t.led.port (!level).toUInt8, .pin l.id 0 (!level) (v.clock.cycles + 2)] := by
  subst hdecoding
  have hmask : t.ledMask = 1 := by cases t <;> rfl
  have hinverted : (fun value => value ^^^ t.ledMask) (Lamp.driven level).sensed.toUInt8 =
      (!level).toUInt8 := by
    rw [hmask]
    cases level <;> decide
  have hlatch : ({ Lamp.driven level with latch := !level } : Lamp) = Lamp.driven !level := rfl
  have hchange : Lamp.change l (Lamp.driven level) (Lamp.driven !level)
      ((v.emit (.passStart passes)).clock.cycles + 2) =
        [.pin l.id 0 (!level) (v.clock.cycles + 2)] := by
    cases level <;> rfl
  obtain ⟨hshows, hevents⟩ := shows_modify (v := v.emit (.passStart passes))
    (f := (· ^^^ t.ledMask)) hw.places h hinverted
  rw [hlatch, hw.port_eq] at hshows hevents
  rw [hchange] at hevents
  rw [turn, pass, contents_delay, events_delay]
  refine ⟨hshows, ?_⟩
  rw [hevents, events_emit]
  simp

end View

end LedBench.Bench
