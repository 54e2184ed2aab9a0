import LedBench.Proofs.Led.Lamp
import LedBench.Proofs.Machine.Boot

namespace LedBench.Bench

open Chip Firmware

/-- A sound chip whose LED is the firmware's: its port has the direction register that the
    initializer clears, and is digital afterwards. The other registers, the width and the reset
    values are free. -/
structure Wired (t : Target) (d : Descriptor) (led : PinRef) : Prop where
  check : d.check = .ok ()
  port : ∃ l, d.port? led.port = some l ∧ l.port = t.led.port ∧ l.tris = t.direction ∧
    (l.ansel.isSome ∧ l.ansel = t.digitalMode? ∨ l.ansel = none ∧ l.reset.ansel &&& t.ledMask = 0)
  bit : led.bit = t.led.bit

/-- The same with the LED's port by its place among the ports of the chip. -/
structure Wiring (t : Target) (led : PinRef) (k : Decoding) (l : PortLayout) (i : Nat) : Prop where
  places : k.Places l i
  first : k.ports.findIdx? (·.id = led.port) = some i
  port_eq : l.port = t.led.port
  tris_eq : l.tris = t.direction
  analog : l.ansel = t.digitalMode? ∧ l.ansel ≠ none ∨ l.ansel = none ∧ l.reset.ansel &&& 1 = 0
  bit_eq : led.bit = 0

theorem Wired.exists_wiring {t : Target} {d : Descriptor} {led : PinRef} (h : Wired t d led)
    {size : UInt64} (hsound : d.Sound size) :
    ∃ l i, d.port? led.port = some l ∧ Wiring t led (Build.ofDescriptor d size).decoding l i := by
  obtain ⟨l, hfind, hport, htris, hanalog⟩ := h.port
  obtain ⟨i, hfirst, hplace⟩ : ∃ i, d.ports.findIdx? (·.id = led.port) = some i ∧
      d.ports[i]? = some l := by
    rwa [Descriptor.port?, List.find?_eq_bind_findIdx?_getElem?, Option.bind_eq_some_iff] at hfind
  obtain ⟨hpos, hle⟩ := hsound.ports.width l (List.mem_of_getElem? hplace)
  have hmask : t.ledMask = 1 := by cases t <;> rfl
  have hbit : t.led.bit = 0 := by cases t <;> rfl
  have hpin := PortLayout.pinMask_and_one hpos hle
  refine ⟨l, i, hfind, ⟨⟨hsound.ports.nodup, hplace, hpin⟩, hfirst, hport, htris, ?_,
    h.bit.trans hbit⟩⟩
  rw [hmask] at hanalog
  refine hanalog.imp_left fun hdigital => ⟨hdigital.2, ?_⟩
  exact Option.isSome_iff_ne_none.mp hdigital.1

theorem wired_guarded : Wired .pic16f1823 (.guarded 4000) ⟨"portc", 0⟩ where
  check := rfl
  port := ⟨_, rfl, rfl, rfl, .inl ⟨rfl, rfl⟩⟩
  bit := rfl

namespace Wiring

variable {t : Target} {led : PinRef} {k : Decoding} {l : PortLayout} {i : Nat}

theorem pin_eq (h : Wiring t led k l i) : led = ⟨l.id, 0⟩ := by
  obtain ⟨hi, hid, -⟩ := List.findIdx?_eq_some_iff_getElem.mp h.first
  have hplace : k.ports[i] = l := Option.some.inj ((List.getElem?_eq_getElem hi).symm.trans
    h.places.place)
  have hport : l.id = led.port := by simpa [hplace] using hid
  rw [hport, ← h.bit_eq]

/-- The LED's level outside the chip is that of its pin. -/
theorem pinLevel_eq (h : Wiring t led k l i) {b : Bus} (hdecoding : b.contents.decoding = k)
    {s : Lamp} (hshows : b.contents.Shows i s) : b.pinLevel led = .ok s.lit := by
  subst hdecoding
  obtain ⟨q, hq, hbears⟩ := hshows.led
  have hfirst : b.chip.ports.findIdx? (·.layout.id = led.port) = some i := by
    have hmap := h.first
    rw [Contents.decoding, List.findIdx?_map] at hmap
    exact hmap
  have hport : b.chip.port? led.port = some q := by
    rw [ChipState.port?, List.find?_eq_bind_findIdx?_getElem?, hfirst]
    exact hq
  rw [Bus.pinLevel, hport]
  dsimp only
  rw [h.bit_eq, if_pos (by decide), hbears.pins_eq (Contents.mask_of_places h.places hq)]
  cases s.lit <;> rfl

end Wiring

end LedBench.Bench
