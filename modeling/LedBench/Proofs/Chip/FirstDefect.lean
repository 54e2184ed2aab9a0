import LedBench.Proofs.Chip.Sound
import LedBench.Proofs.Chip.Torn

namespace LedBench.Chip

/-- The rules for registers that are declared after those at the addresses `taken`: each lies inside
    the memory, at an address that is not taken. -/
structure Placed (size : UInt64) (taken regs : List UInt16) : Prop where
  inside : ∀ a ∈ regs, a.toNat < size.toNat
  nodup : regs.Nodup
  fresh : ∀ a ∈ regs, a ∉ taken

/-- The first rule that the registers of a port break. -/
inductive RegistersDefect (port : String) (size : UInt64) (taken regs : List UInt16) :
    Defect → Prop where
  | outside {earlier later : List UInt16} {a : UInt16} (hregs : regs = earlier ++ a :: later)
    (hearlier : Placed size taken earlier) (ha : size.toNat ≤ a.toNat) :
    RegistersDefect port size taken regs (.outside port a size)
  | mappedTwice {earlier later : List UInt16} {a : UInt16} (hregs : regs = earlier ++ a :: later)
    (hearlier : Placed size taken earlier) (ha : a.toNat < size.toNat)
    (htwice : a ∈ taken ++ earlier) : RegistersDefect port size taken regs (.mappedTwice a)

/-- The first rule that a port breaks. -/
inductive PortDefect (size : UInt64) (taken : List UInt16) (p : PortLayout) : Defect → Prop where
  | width (hwidth : p.width = 0 ∨ 8 < p.width) : PortDefect size taken p (.width p.id p.width)
  | registers (hwidth : p.width ≠ 0 ∧ p.width ≤ 8) {e : Defect}
    (hregisters : RegistersDefect p.id size taken p.registers e) : PortDefect size taken p e

/-- The first rule that a list of ports breaks: the ports before its place keep all of them. -/
def PortsDefect (size : UInt64) (ports : List PortLayout) (e : Defect) : Prop :=
  ∃ before p after, ports = before ++ p :: after ∧ PortsSound size before ∧
    PortDefect size (before.flatMap PortLayout.registers) p e

/-- The first rule that a descriptor breaks whose memory size is given. -/
inductive Descriptor.FirstDefect (d : Descriptor) (size : UInt64) : Defect → Prop where
  | stoppedClock (hclock : d.instructionClockHz = 0) : d.FirstDefect size (.stoppedClock d.name)
  | freeDelay (hclock : d.instructionClockHz ≠ 0) (hdelay : d.cyclesPerDelayIteration = 0) :
    d.FirstDefect size (.freeDelay d.name)
  | noPorts (hclock : d.instructionClockHz ≠ 0) (hdelay : d.cyclesPerDelayIteration ≠ 0)
    (hports : d.ports = []) : d.FirstDefect size (.noPorts d.name)
  | periodOverflow (hclock : d.instructionClockHz ≠ 0) (hdelay : d.cyclesPerDelayIteration ≠ 0)
    (hports : d.ports ≠ [])
    (hperiod : UInt64.size ≤ d.watchdog.periodUs.toNat * d.instructionClockHz.toNat) :
    d.FirstDefect size (.periodOverflow d.name d.watchdog.periodUs d.instructionClockHz)
  | tooLarge (hclock : d.instructionClockHz ≠ 0) (hdelay : d.cyclesPerDelayIteration ≠ 0)
    (hports : d.ports ≠ [])
    (hperiod : d.watchdog.periodUs.toNat * d.instructionClockHz.toNat < UInt64.size)
    (hsize : addressSpace < size.toNat) : d.FirstDefect size (.tooLarge d.name size)
  | ports (hclock : d.instructionClockHz ≠ 0) (hdelay : d.cyclesPerDelayIteration ≠ 0)
    (hports : d.ports ≠ [])
    (hperiod : d.watchdog.periodUs.toNat * d.instructionClockHz.toNat < UInt64.size)
    (hsize : size.toNat ≤ addressSpace) {e : Defect} (hdefect : PortsDefect size d.ports e) :
    d.FirstDefect size e

section Registers

variable {port : String} {size : UInt64} {taken taken' regs rest : List UInt16} {a : UInt16}
  {e : Defect}

theorem placed_nil : Placed size taken [] := ⟨by simp, List.nodup_nil, by simp⟩

theorem placed_cons :
    Placed size taken (a :: rest) ↔
      a.toNat < size.toNat ∧ a ∉ taken ∧ Placed size (a :: taken) rest := by
  constructor
  · rintro ⟨hinside, hnodup, hfresh⟩
    rw [List.forall_mem_cons] at hinside hfresh
    rw [List.nodup_cons] at hnodup
    refine ⟨hinside.1, hfresh.1, hinside.2, hnodup.2, ?_⟩
    intro b hb
    rw [List.mem_cons, not_or]
    exact ⟨fun hba => hnodup.1 (hba ▸ hb), hfresh.2 b hb⟩
  · rintro ⟨hinside, htaken, hrest⟩
    refine ⟨List.forall_mem_cons.mpr ⟨hinside, hrest.inside⟩, ?_,
      List.forall_mem_cons.mpr
        ⟨htaken, fun b hb => mt (List.mem_cons_of_mem a) (hrest.fresh b hb)⟩⟩
    rw [List.nodup_cons]
    exact ⟨fun ha => hrest.fresh a ha List.mem_cons_self, hrest.nodup⟩

theorem Placed.congr (htaken : ∀ a, a ∈ taken ↔ a ∈ taken') (h : Placed size taken regs) :
    Placed size taken' regs :=
  ⟨h.inside, h.nodup, fun a ha => mt (htaken a).mpr (h.fresh a ha)⟩

theorem RegistersDefect.congr (htaken : ∀ a, a ∈ taken ↔ a ∈ taken')
    (h : RegistersDefect port size taken regs e) : RegistersDefect port size taken' regs e := by
  cases h with
  | outside hregs hearlier ha => exact .outside hregs (hearlier.congr htaken) ha
  | mappedTwice hregs hearlier ha htwice =>
    refine .mappedTwice hregs (hearlier.congr htaken) ha ?_
    rwa [List.mem_append, htaken, ← List.mem_append] at htwice

/-- The first defect is that of the first register or, if it has none, lies behind it. -/
theorem registersDefect_cons :
    RegistersDefect port size taken (a :: rest) e ↔
      (size.toNat ≤ a.toNat ∧ e = .outside port a size) ∨
        (a.toNat < size.toNat ∧ a ∈ taken ∧ e = .mappedTwice a) ∨
          (a.toNat < size.toNat ∧ a ∉ taken ∧ RegistersDefect port size (a :: taken) rest e) := by
  constructor
  · intro h
    cases h with
    | @outside earlier later b hregs hearlier hb =>
      cases earlier with
      | nil =>
        obtain ⟨rfl, rfl⟩ := List.cons.inj hregs
        exact .inl ⟨hb, rfl⟩
      | cons c earlier =>
        obtain ⟨rfl, rfl⟩ := List.cons.inj hregs
        obtain ⟨hinside, htaken, hearlier⟩ := placed_cons.mp hearlier
        exact .inr (.inr ⟨hinside, htaken, .outside rfl hearlier hb⟩)
    | @mappedTwice earlier later b hregs hearlier hb htwice =>
      cases earlier with
      | nil =>
        obtain ⟨rfl, rfl⟩ := List.cons.inj hregs
        rw [List.append_nil] at htwice
        exact .inr (.inl ⟨hb, htwice, rfl⟩)
      | cons c earlier =>
        obtain ⟨rfl, rfl⟩ := List.cons.inj hregs
        obtain ⟨hinside, htaken, hearlier⟩ := placed_cons.mp hearlier
        refine .inr (.inr ⟨hinside, htaken, .mappedTwice rfl hearlier hb ?_⟩)
        rwa [List.cons_append, ← List.perm_middle.mem_iff]
  · rintro (⟨ha, rfl⟩ | ⟨ha, htaken, rfl⟩ | ⟨ha, htaken, hrest⟩)
    · exact .outside (show a :: rest = [] ++ a :: rest from rfl) placed_nil ha
    · exact .mappedTwice (show a :: rest = [] ++ a :: rest from rfl) placed_nil ha
        (by rwa [List.append_nil])
    · cases hrest with
      | outside hregs hearlier hb =>
        exact .outside (congrArg (a :: ·) hregs) (placed_cons.mpr ⟨ha, htaken, hearlier⟩) hb
      | mappedTwice hregs hearlier hb htwice =>
        refine .mappedTwice (congrArg (a :: ·) hregs) (placed_cons.mpr ⟨ha, htaken, hearlier⟩) hb ?_
        rwa [List.cons_append, ← List.perm_middle.mem_iff] at htwice

/-- Registers are refused for their first defect. -/
theorem checkRegisters_eq_error_iff :
    checkRegisters port size regs taken = .error e ↔ RegistersDefect port size taken regs e := by
  induction regs generalizing taken with
  | nil =>
    simp only [checkRegisters, reduceCtorEq, false_iff]
    rintro (⟨hregs, -, -⟩ | ⟨hregs, -, -, -⟩) <;> simp at hregs
  | cons a rest ih =>
    rw [checkRegisters, registersDefect_cons]
    by_cases hout : size.toNat ≤ a.toNat
    · simp [hout, Nat.not_lt.mpr hout, eq_comm]
    · rw [if_neg hout, ← ih]
      by_cases htaken : a ∈ taken
      · simp [hout, htaken, Nat.lt_of_not_le hout, eq_comm]
      · simp [hout, htaken, Nat.lt_of_not_le hout]

theorem checkRegisters_eq_ok_of_placed (h : Placed size taken regs) :
    checkRegisters port size regs taken = .ok (regs.reverse ++ taken) :=
  checkRegisters_eq_ok_iff.mpr ⟨h.inside, h.nodup, h.fresh, rfl⟩

end Registers

section Ports

variable {size : UInt64} {taken taken' : List UInt16} {p : PortLayout} {rest : List PortLayout}
  {e : Defect}

theorem PortDefect.congr (htaken : ∀ a, a ∈ taken ↔ a ∈ taken') (h : PortDefect size taken p e) :
    PortDefect size taken' p e := by
  cases h with
  | width hwidth => exact .width hwidth
  | registers hwidth hregisters => exact .registers hwidth (hregisters.congr htaken)

/-- Ports are refused for a defect of the first, or else for one of those behind it. -/
theorem checkPorts_cons_eq_error_iff :
    checkPorts size (p :: rest) taken = .error e ↔
      PortDefect size taken p e ∨
        ((p.width ≠ 0 ∧ p.width ≤ 8) ∧ Placed size taken p.registers ∧
          checkPorts size rest (p.registers.reverse ++ taken) = .error e) := by
  rw [checkPorts]
  by_cases hwidth : p.width = 0 ∨ 8 < p.width
  · rw [if_pos hwidth, Except.error.injEq]
    constructor
    · rintro rfl
      exact .inl (.width hwidth)
    · rintro (hport | ⟨⟨hpos, hle⟩, -⟩)
      · cases hport with
        | width => rfl
        | registers hgood _ =>
          exact absurd hwidth (not_or.mpr ⟨hgood.1, UInt8.not_lt.mpr hgood.2⟩)
      · exact absurd hwidth (not_or.mpr ⟨hpos, UInt8.not_lt.mpr hle⟩)
  · rw [if_neg hwidth]
    have hsound : p.width ≠ 0 ∧ p.width ≤ 8 := by rwa [not_or, UInt8.not_lt] at hwidth
    cases hregs : checkRegisters p.id size p.registers taken with
    | error cause =>
      have hdefect := checkRegisters_eq_error_iff.mp hregs
      rw [Except.error.injEq]
      constructor
      · rintro rfl
        exact .inl (.registers hsound hdefect)
      · rintro (hport | ⟨-, hplaced, -⟩)
        · cases hport with
          | width hbad => exact absurd hbad hwidth
          | registers _ hregisters =>
            rw [checkRegisters_eq_error_iff.mpr hregisters] at hregs
            exact (Except.error.inj hregs).symm
        · rw [checkRegisters_eq_ok_of_placed hplaced] at hregs
          cases hregs
    | ok after =>
      obtain ⟨hinside, hnodup, hfresh, rfl⟩ := checkRegisters_eq_ok_iff.mp hregs
      constructor
      · intro hrest
        exact .inr ⟨hsound, ⟨hinside, hnodup, hfresh⟩, hrest⟩
      · rintro (hport | ⟨-, -, hrest⟩)
        · cases hport with
          | width hbad => exact absurd hbad hwidth
          | registers _ hregisters =>
            rw [checkRegisters_eq_error_iff.mpr hregisters] at hregs
            cases hregs
        · exact hrest

/-- With addresses taken before the first port, those of all ports before a place are taken
    there. -/
theorem checkPorts_eq_error_iff_of_taken {ports : List PortLayout} :
    checkPorts size ports taken = .error e ↔
      ∃ before p after, ports = before ++ p :: after ∧ PortsSound size before ∧
        (∀ a ∈ before.flatMap PortLayout.registers, a ∉ taken) ∧
          PortDefect size (before.flatMap PortLayout.registers ++ taken) p e := by
  induction ports generalizing taken with
  | nil => simp [checkPorts]
  | cons p rest ih =>
    have hmem (before : List PortLayout) (a : UInt16) :
        a ∈ before.flatMap PortLayout.registers ++ (p.registers.reverse ++ taken) ↔
          a ∈ (p :: before).flatMap PortLayout.registers ++ taken := by
      simp only [List.flatMap_cons, List.mem_append, List.mem_reverse]
      exact or_left_comm.trans or_assoc.symm
    rw [checkPorts_cons_eq_error_iff, ih]
    constructor
    · rintro (hdefect | ⟨hwidth, hplaced, before, q, after, rfl, hsound, hfresh, hdefect⟩)
      · exact ⟨[], p, rest, rfl, ⟨by simp, by simp, by simp⟩, by simp, by simpa using hdefect⟩
      · simp only [List.mem_append, List.mem_reverse, not_or] at hfresh
        refine ⟨p :: before, q, after, rfl, portsSound_cons.mpr ⟨hwidth, hplaced.inside,
          hplaced.nodup, hsound, fun a ha => (hfresh a ha).1⟩, ?_, hdefect.congr (hmem before)⟩
        rw [List.flatMap_cons, List.forall_mem_append]
        exact ⟨hplaced.fresh, fun a ha => (hfresh a ha).2⟩
    · rintro ⟨before, q, after, hports, hsound, hfresh, hdefect⟩
      cases before with
      | nil =>
        obtain ⟨rfl, rfl⟩ := List.cons.inj hports
        exact .inl (by simpa using hdefect)
      | cons r before =>
        obtain ⟨rfl, rfl⟩ := List.cons.inj hports
        obtain ⟨hwidth, hinside, hnodup, hsound, hapart⟩ := portsSound_cons.mp hsound
        rw [List.flatMap_cons, List.forall_mem_append] at hfresh
        refine .inr ⟨hwidth, ⟨hinside, hnodup, hfresh.1⟩, before, q, after, rfl, hsound, ?_,
          hdefect.congr fun a => (hmem before a).symm⟩
        intro a ha
        rw [List.mem_append, List.mem_reverse, not_or]
        exact ⟨hapart a ha, hfresh.2 a ha⟩

/-- Ports are refused for their first defect. -/
theorem checkPorts_eq_error_iff {ports : List PortLayout} :
    checkPorts size ports [] = .error e ↔ PortsDefect size ports e := by
  simp [checkPorts_eq_error_iff_of_taken, PortsDefect]

end Ports

section Descriptor

variable {d : Descriptor} {size : UInt64} (hparse : Size.parse d.dataMemory = .ok size)

include hparse

/-- A descriptor is refused for its first defect. -/
theorem Descriptor.check_eq_error_iff {e : Defect} :
    d.check = .error (.refused e) ↔ d.FirstDefect size e := by
  constructor
  · intro h
    unfold check at h
    rw [hparse] at h
    split at h
    · cases h
      exact .stoppedClock ‹_›
    split at h
    · cases h
      exact .freeDelay ‹_› ‹_›
    split at h
    · cases h
      exact .noPorts ‹_› ‹_› (List.isEmpty_iff.mp ‹_›)
    split at h
    · cases h
      exact .periodOverflow ‹_› ‹_› (mt List.isEmpty_iff.mpr ‹_›) ‹_›
    dsimp only at h
    split at h
    · cases h
      exact .tooLarge ‹_› ‹_› (mt List.isEmpty_iff.mpr ‹_›) (Nat.lt_of_not_le ‹_›) ‹_›
    rename_i hclock hdelay hports hperiod hsize
    cases hcheck : checkPorts size d.ports [] with
    | ok _ =>
      rw [hcheck] at h
      cases h
    | error cause =>
      rw [hcheck] at h
      cases h
      exact .ports hclock hdelay (mt List.isEmpty_iff.mpr hports) (Nat.lt_of_not_le hperiod)
        (Nat.le_of_not_lt hsize) (checkPorts_eq_error_iff.mp hcheck)
  · intro h
    unfold check
    rw [hparse]
    cases h with
    | stoppedClock hclock => rw [if_pos hclock]
    | freeDelay hclock hdelay => rw [if_neg hclock, if_pos hdelay]
    | noPorts hclock hdelay hports =>
      rw [if_neg hclock, if_neg hdelay, if_pos (List.isEmpty_iff.mpr hports)]
    | periodOverflow hclock hdelay hports hperiod =>
      rw [if_neg hclock, if_neg hdelay, if_neg (mt List.isEmpty_iff.mp hports), if_pos hperiod]
    | tooLarge hclock hdelay hports hperiod hsize =>
      rw [if_neg hclock, if_neg hdelay, if_neg (mt List.isEmpty_iff.mp hports),
        if_neg (Nat.not_le.mpr hperiod)]
      dsimp only
      rw [if_pos hsize]
    | ports hclock hdelay hports hperiod hsize hdefect =>
      rw [if_neg hclock, if_neg hdelay, if_neg (mt List.isEmpty_iff.mp hports),
        if_neg (Nat.not_le.mpr hperiod)]
      dsimp only
      rw [if_neg (Nat.not_lt.mpr hsize), checkPorts_eq_error_iff.mpr hdefect]
      rfl

/-- A descriptor whose memory size can be read is accepted or refused for a reason. -/
theorem Descriptor.check_cases :
    d.check = .ok () ∨ ∃ e, d.check = .error (.refused e) := by
  cases hcheck : d.check with
  | ok _ => exact .inl rfl
  | error halt =>
    cases halt with
    | refused e => exact .inr ⟨e, rfl⟩
    | trap =>
      have htrap := Size.parse_eq_trap_iff.mpr (Descriptor.check_eq_trap_iff.mp hcheck).size
      rw [hparse] at htrap
      cases htrap

/-- Of the sizes there can be, the one that is read decides whether a descriptor is sound. -/
theorem Descriptor.check_eq_ok_iff_sound : d.check = .ok () ↔ d.Sound size := by
  rw [check_eq_ok_iff]
  constructor
  · rintro ⟨size', hsound⟩
    obtain rfl : size' = size := Except.ok.inj (hsound.parse.symm.trans hparse)
    exact hsound
  · intro hsound
    exact ⟨size, hsound⟩

end Descriptor

end LedBench.Chip
