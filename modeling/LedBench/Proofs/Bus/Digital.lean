import LedBench.Proofs.Bus.Pins

namespace LedBench.Chip

/-- The 18-pin part with a reset value for the analog select of port B, which has no register for
    it. -/
def Descriptor.halfAnalog : Descriptor :=
  { pic16f628a with
    ports := [
      { id := "portb", width := 8, port := 0x006, tris := 0x086, lat := none, ansel := none,
        reset := { ansel := 0x01 } }] }

end LedBench.Chip

namespace LedBench.Bench

open Chip

namespace Port

/-- A port after a deed. What is written to none of its registers is refused and changes nothing. -/
def undergo (p : Port) : Deed → Port
  | .write addr value => (p.write? addr value).getD p
  | .reset cause => p.reset cause

/-- The analog select of a port is the one that its layout gives it at reset. -/
structure KeepsSelect (l : PortLayout) (p : Port) : Prop where
  layout_eq : p.layout = l
  ansel_eq : p.ansel = l.reset.ansel &&& l.pinMask

variable {l : PortLayout} {p : Port}

theorem keepsSelect_powered (l : PortLayout) : KeepsSelect l (powered l) := ⟨rfl, rfl⟩

theorem KeepsSelect.undergo (hdigital : l.ansel = none) (h : KeepsSelect l p) (deed : Deed) :
    KeepsSelect l (p.undergo deed) := by
  obtain ⟨rfl, hansel⟩ := h
  cases deed with
  | reset cause => exact ⟨rfl, rfl⟩
  | write addr value =>
    have hforeign : some addr ≠ p.layout.ansel := by
      rw [hdigital]
      exact Option.some_ne_none addr
    simp only [Port.undergo, write?, if_neg hforeign]
    split
    · exact ⟨rfl, hansel⟩
    split
    · exact ⟨rfl, hansel⟩
    · exact ⟨rfl, hansel⟩

theorem KeepsSelect.foldl (hdigital : l.ansel = none) (h : KeepsSelect l p) (deeds : List Deed) :
    KeepsSelect l (deeds.foldl Port.undergo p) := by
  induction deeds generalizing p with
  | nil => exact h
  | cons deed rest ih => exact ih (h.undergo hdigital deed)

/-- A read shows the pins but for those that are analog from the reset on. -/
theorem KeepsSelect.read?_port (h : KeepsSelect l p) :
    p.read? l.port = some (p.pins &&& ~~~ l.reset.ansel) := by
  obtain ⟨rfl, hansel⟩ := h
  rw [Port.read?_port, portValue, pins, hansel, mask]
  refine congrArg some (eq_iff_hasBit.mpr fun bit hbit => ?_)
  simp only [hasBit_and hbit, hasBit_not hbit]
  cases hasBit p.layout.pinMask bit <;> simp

/-- Bits without a pin leave no gap among the pins. -/
theorem pinMask_and_not {select : UInt8} (h : select &&& l.pinMask = 0) :
    l.pinMask &&& ~~~ select = l.pinMask := by
  refine eq_iff_hasBit.mpr fun bit hbit => ?_
  have hzero : hasBit 0 bit = false := by simp [hasBit]
  have hnone := eq_iff_hasBit.mp h bit hbit
  rw [hasBit_and hbit, hzero] at hnone
  rw [hasBit_and hbit, hasBit_not hbit]
  cases hselect : hasBit select bit with
  | false => simp
  | true =>
    rw [hselect, Bool.true_and] at hnone
    rw [hnone]
    rfl

/-- A port of outputs driven high has every pin high. -/
theorem pins_driven (hnodup : l.registers.Nodup) :
    ([.write l.tris 0, .write l.port 0xFF].foldl undergo (powered l)).pins = l.pinMask := by
  have hlatch : ¬ (l.tris = l.port ∨ some l.tris = l.lat) := by
    rintro (hport | hlat)
    · exact tris_ne_port hnodup hport
    · exact (lat_ne hnodup hlat).2 rfl
  have hdirected : (powered l).undergo (.write l.tris 0) = { powered l with tris := 0 } := by
    rw [undergo, write?, powered]
    dsimp only
    rw [if_neg hlatch, if_pos rfl, UInt8.zero_and]
    rfl
  have hdriven : ({ powered l with tris := 0 } : Port).undergo (.write l.port 0xFF) =
      { powered l with tris := 0, lat := 0xFF &&& l.pinMask } := by
    rw [undergo, write?, powered]
    dsimp only
    rw [if_pos (.inl rfl)]
    rfl
  have hall : 0xFF &&& l.pinMask = l.pinMask := UInt8.neg_one_and
  rw [List.foldl_cons, List.foldl_cons, List.foldl_nil, hdirected, hdriven, pins]
  simp [mask, powered, hall]

/-- A read of the port register of a port without a register for the analog select shows the pins,
    whatever was written to the port and however often it was reset, exactly if its reset value for
    the analog select has no bit with a pin. Otherwise the pins of these bits read 0 for ever. -/
theorem read?_port_digital {d : Descriptor} (hcheck : d.check = .ok ()) {l : PortLayout}
    (hl : l ∈ d.ports) (hdigital : l.ansel = none) :
    (∀ deeds : List Deed, (deeds.foldl undergo (powered l)).read? l.port =
      some ((deeds.foldl undergo (powered l)).pins &&& ~~~ l.reset.ansel)) ∧
    ((∀ deeds : List Deed, (deeds.foldl undergo (powered l)).read? l.port =
        some (deeds.foldl undergo (powered l)).pins) ↔
      l.reset.ansel &&& l.pinMask = 0) := by
  have hread : ∀ deeds : List Deed, (deeds.foldl undergo (powered l)).read? l.port =
      some ((deeds.foldl undergo (powered l)).pins &&& ~~~ l.reset.ansel) :=
    fun deeds => ((keepsSelect_powered l).foldl hdigital deeds).read?_port
  refine ⟨hread, ?_, ?_⟩
  · intro hpins
    obtain ⟨size, hsound⟩ := Descriptor.check_eq_ok_iff.mp hcheck
    have hnodup : l.registers.Nodup := (List.pairwise_flatMap.mp hsound.ports.nodup).1 l hl
    have hall := (hread [.write l.tris 0, .write l.port 0xFF]).symm.trans (hpins _)
    rw [pins_driven hnodup, Option.some_inj] at hall
    calc l.reset.ansel &&& l.pinMask
        = l.reset.ansel &&& (l.pinMask &&& ~~~ l.reset.ansel) := by rw [hall]
      _ = l.pinMask &&& (l.reset.ansel &&& ~~~ l.reset.ansel) := by ac_rfl
      _ = 0 := by rw [UInt8.and_not_self, UInt8.and_zero]
  · intro hnone deeds
    rw [hread, pins, mask, ((keepsSelect_powered l).foldl hdigital deeds).layout_eq, UInt8.and_assoc,
      pinMask_and_not hnone]

/-- Port B of the 18-pin part has none, so that it reads its pins. -/
theorem read?_port_digital_pic16f628a :
    ∃ l ∈ pic16f628a.ports, l.id = "portb" ∧ l.ansel = none ∧ l.reset.ansel &&& l.pinMask = 0 ∧
      ∀ deeds : List Deed, (deeds.foldl undergo (powered l)).read? l.port =
        some (deeds.foldl undergo (powered l)).pins :=
  ⟨_, .tail _ (.head _), rfl, rfl, by decide,
    (read?_port_digital (d := pic16f628a) (by decide +kernel) (.tail _ (.head _)) rfl).2.mpr
      (by decide)⟩

/-- A reset value for a register that the port does not have is enough to lose its first pin. The
    checks accept the chip, the pin is high, and the port register reads 0. -/
theorem read?_port_halfAnalog :
    Descriptor.halfAnalog.check = .ok () ∧
    ∃ l ∈ Descriptor.halfAnalog.ports, l.ansel = none ∧
      ([.write l.tris 0, .write l.port 1].foldl undergo (powered l)).pins = 1 ∧
      ([.write l.tris 0, .write l.port 1].foldl undergo (powered l)).read? l.port = some 0 :=
  ⟨by decide +kernel, _, .head _, rfl, by decide, by decide⟩

end Port

end LedBench.Bench
