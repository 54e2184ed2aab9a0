import LedBench.Chip.Check

namespace LedBench.Chip

/-- The rules for a list of ports on so much data memory: each has one to eight pins, and every
    register lies at an address of its own inside the memory. -/
structure PortsSound (size : UInt64) (ports : List PortLayout) : Prop where
  width : ∀ p ∈ ports, p.width ≠ 0 ∧ p.width ≤ 8
  inside : ∀ p ∈ ports, ∀ a ∈ p.registers, a.toNat < size.toNat
  nodup : (ports.flatMap PortLayout.registers).Nodup

/-- The rules for a whole descriptor whose memory size is given. -/
structure Descriptor.Sound (d : Descriptor) (size : UInt64) : Prop where
  clock : d.instructionClockHz ≠ 0
  delay : d.cyclesPerDelayIteration ≠ 0
  ports_ne_nil : d.ports ≠ []
  period : d.watchdog.periodUs.toNat * d.instructionClockHz.toNat < UInt64.size
  parse : Size.parse d.dataMemory = .ok size
  size_le : size.toNat ≤ addressSpace
  ports : PortsSound size d.ports

/-- What the first numbers have as bytes, the bytes below have. -/
theorem forall_byte_lt {b : Nat} {P : UInt8 → Prop} (h : ∀ n < b, P (UInt8.ofNat n)) {x : UInt8}
    (hx : x.toNat < b) : P x := by
  have hbyte := h x.toNat hx
  rwa [UInt8.ofNat_toNat] at hbyte

/-- The mask of a port of one to eight pins is made without a carry. -/
theorem PortLayout.toNat_pinMask {l : PortLayout} (hle : l.width ≤ 8) :
    l.pinMask.toNat + 1 = 1 <<< l.width.toNat := by
  have hlt : l.width.toNat < 9 := Nat.lt_succ_of_le (UInt8.le_iff_toNat_le.mp hle)
  exact forall_byte_lt (b := 9)
    (P := fun w => (if 8 ≤ w then (0xFF : UInt8) else (1 <<< w) - 1).toNat + 1 = 1 <<< w.toNat)
    (by decide) hlt

/-- A port that has pins has the first one. -/
theorem PortLayout.pinMask_and_one {l : PortLayout} (hpos : l.width ≠ 0) (hle : l.width ≤ 8) :
    l.pinMask &&& 1 = 1 := by
  have hlt : l.width.toNat < 9 := Nat.lt_succ_of_le (UInt8.le_iff_toNat_le.mp hle)
  exact forall_byte_lt (b := 9)
    (P := fun w => w ≠ 0 → (if 8 ≤ w then (0xFF : UInt8) else (1 <<< w) - 1) &&& 1 = 1)
    (by decide) hlt hpos

theorem checkRegisters_eq_ok_iff {port : String} {size : UInt64} {regs seen after : List UInt16} :
    checkRegisters port size regs seen = .ok after ↔
      (∀ a ∈ regs, a.toNat < size.toNat) ∧ regs.Nodup ∧ (∀ a ∈ regs, a ∉ seen) ∧
        after = regs.reverse ++ seen := by
  induction regs generalizing seen with
  | nil => simp [checkRegisters, eq_comm]
  | cons a rest ih =>
    rw [checkRegisters]
    by_cases hout : size.toNat ≤ a.toNat
    · rw [if_pos hout]
      simp only [reduceCtorEq, List.mem_cons, forall_eq_or_imp, false_iff, not_and]
      omega
    · rw [if_neg hout]
      by_cases hseen : a ∈ seen
      · simp [hseen]
      · rw [if_neg hseen, ih]
        simp only [List.mem_cons, not_or, forall_eq_or_imp, List.nodup_cons, List.reverse_cons,
          List.append_assoc, List.singleton_append]
        constructor
        · rintro ⟨hin, hnodup, hfresh, hafter⟩
          exact ⟨⟨by omega, hin⟩, ⟨fun ha => (hfresh a ha).1 rfl, hnodup⟩,
            ⟨hseen, fun b hb => (hfresh b hb).2⟩, hafter⟩
        · rintro ⟨⟨_, hin⟩, ⟨ha, hnodup⟩, ⟨_, hfresh⟩, hafter⟩
          exact ⟨hin, hnodup, fun b hb => ⟨fun h => ha (h ▸ hb), hfresh b hb⟩, hafter⟩

theorem portsSound_cons {size : UInt64} {p : PortLayout} {rest : List PortLayout} :
    PortsSound size (p :: rest) ↔
      (p.width ≠ 0 ∧ p.width ≤ 8) ∧ (∀ a ∈ p.registers, a.toNat < size.toNat) ∧
        p.registers.Nodup ∧ PortsSound size rest ∧
          ∀ a ∈ rest.flatMap PortLayout.registers, a ∉ p.registers := by
  constructor
  · rintro ⟨hwidth, hinside, hnodup⟩
    rw [List.forall_mem_cons] at hwidth hinside
    rw [List.flatMap_cons, List.nodup_append] at hnodup
    obtain ⟨hself, hrest, hapart⟩ := hnodup
    exact ⟨hwidth.1, hinside.1, hself, ⟨hwidth.2, hinside.2, hrest⟩,
      fun a ha hself => hapart a hself a ha rfl⟩
  · rintro ⟨hwidth, hinside, hself, hrest, hapart⟩
    refine ⟨List.forall_mem_cons.mpr ⟨hwidth, hrest.width⟩,
      List.forall_mem_cons.mpr ⟨hinside, hrest.inside⟩, ?_⟩
    rw [List.flatMap_cons, List.nodup_append]
    exact ⟨hself, hrest.nodup, fun a ha b hb hab => hapart b hb (hab ▸ ha)⟩

/-- The check of ports passes exactly the sound lists none of whose addresses was seen before. -/
theorem checkPorts_eq_ok_iff {size : UInt64} {ports : List PortLayout} {seen : List UInt16} :
    checkPorts size ports seen = .ok () ↔
      PortsSound size ports ∧ ∀ a ∈ ports.flatMap PortLayout.registers, a ∉ seen := by
  induction ports generalizing seen with
  | nil => simpa [checkPorts] using PortsSound.mk (by simp) (by simp) (by simp)
  | cons p rest ih =>
    rw [checkPorts, portsSound_cons, List.flatMap_cons, List.forall_mem_append]
    by_cases hwidth : p.width = 0 ∨ 8 < p.width
    · rw [if_pos hwidth]
      simp only [reduceCtorEq, false_iff]
      rintro ⟨⟨⟨hpos, hle⟩, -⟩, -⟩
      rcases hwidth with h | h
      · exact absurd h hpos
      · exact absurd hle (UInt8.not_le.mpr h)
    · rw [if_neg hwidth]
      rw [not_or, UInt8.not_lt] at hwidth
      cases hregs : checkRegisters p.id size p.registers seen with
      | error e =>
        simp only [reduceCtorEq, false_iff]
        rintro ⟨⟨-, hinside, hnodup, -⟩, hfresh, -⟩
        have hok : checkRegisters p.id size p.registers seen = .ok (p.registers.reverse ++ seen) :=
          checkRegisters_eq_ok_iff.mpr ⟨hinside, hnodup, hfresh, rfl⟩
        rw [hregs] at hok
        cases hok
      | ok after =>
        obtain ⟨hinside, hnodup, hfresh, rfl⟩ := checkRegisters_eq_ok_iff.mp hregs
        simp only [ih, List.mem_append, List.mem_reverse, not_or]
        constructor
        · rintro ⟨hsound, hrest⟩
          exact ⟨⟨hwidth, hinside, hnodup, hsound, fun a ha => (hrest a ha).1⟩, hfresh,
            fun a ha => (hrest a ha).2⟩
        · rintro ⟨⟨-, -, -, hsound, hapart⟩, -, hrest⟩
          exact ⟨hsound, fun a ha => ⟨hapart a ha, hrest a ha⟩⟩

/-- The checks accept a descriptor exactly when it keeps all the rules. -/
theorem Descriptor.check_eq_ok_iff {d : Descriptor} :
    d.check = .ok () ↔ ∃ size, d.Sound size := by
  unfold Descriptor.check
  constructor
  · intro h
    split at h
    · cases h
    split at h
    · cases h
    split at h
    · cases h
    split at h
    · cases h
    split at h
    · cases h
    split at h
    · cases h
    rename_i hclock hdelay hports hperiod _ size hparse hsize
    refine ⟨size, hclock, hdelay, by simpa using hports, by omega, hparse, by omega, ?_⟩
    cases hcheck : checkPorts size d.ports [] with
    | ok _ => exact (checkPorts_eq_ok_iff.mp hcheck).1
    | error e =>
      rw [hcheck] at h
      cases h
  · rintro ⟨size, hsound⟩
    have hports : checkPorts size d.ports [] = .ok () :=
      checkPorts_eq_ok_iff.mpr ⟨hsound.ports, by simp⟩
    rw [if_neg hsound.clock, if_neg hsound.delay, if_neg (by simpa using hsound.ports_ne_nil),
      if_neg (by have := hsound.period; omega), hsound.parse]
    simp only [if_neg (show ¬ addressSpace < size.toNat from Nat.not_lt.mpr hsound.size_le), hports]
    rfl

/-- The watchdog period of an accepted descriptor is the exact quotient: nothing saturates. -/
theorem Descriptor.Sound.periodCycles_toNat {d : Descriptor} {size : UInt64} (h : d.Sound size) :
    d.periodCycles.toNat = d.watchdog.periodUs.toNat * d.instructionClockHz.toNat / 1000000 := by
  have hproduct := h.period
  have hmin : min (d.watchdog.periodUs.toNat * d.instructionClockHz.toNat) (UInt64.size - 1) =
      d.watchdog.periodUs.toNat * d.instructionClockHz.toNat := by omega
  rw [Descriptor.periodCycles, hmin, UInt64.toNat_ofNat']
  apply Nat.mod_eq_of_lt
  exact Nat.lt_of_le_of_lt (Nat.div_le_self _ _) hproduct

end LedBench.Chip
