import LedBench.Chip.Check
import Mathlib.Algebra.GroupWithZero.Nat

namespace LedBench.Chip

namespace Size

/-- A text is cut after so many bytes unless no beginning of it takes just so many. -/
theorem cutAtByte_eq_none_iff {cs : List Char} {n : Nat} :
    cutAtByte cs n = none ↔
      ∀ head tail, cs = head ++ tail → (head.map Char.utf8Size).sum ≠ n := by
  fun_induction cutAtByte cs n with
  | case1 cs =>
    simp only [reduceCtorEq, false_iff]
    exact fun hall => hall [] cs rfl rfl
  | case2 n =>
    simp only [true_iff]
    intro head tail h
    obtain ⟨rfl, -⟩ := List.append_eq_nil_iff.mp h.symm
    simp
  | case3 c cs n hle ih =>
    rw [Option.map_eq_none_iff, ih]
    constructor
    · intro hall head tail h
      cases head with
      | nil => simp
      | cons b head =>
        obtain ⟨rfl, hrest⟩ := List.cons.inj h
        have hne := hall head tail hrest
        rw [List.map_cons, List.sum_cons]
        omega
    · intro hall head tail h
      have hne := hall (c :: head) tail (by rw [h, List.cons_append])
      rw [List.map_cons, List.sum_cons] at hne
      omega
  | case4 c cs n hlt =>
    simp only [true_iff]
    intro head tail h
    cases head with
    | nil => simp
    | cons b head =>
      obtain ⟨rfl, -⟩ := List.cons.inj h
      rw [List.map_cons, List.sum_cons]
      omega

/-- The numerals that a size starts with, white space around it left out. -/
def numerals (s : String) : List Char := (Text.trimmed s.toList).takeWhile isNumeral

/-- A size starts with numerals and goes on, but no beginning of it takes as many bytes as there
    are numerals. -/
structure Torn (s : String) : Prop where
  starts : numerals s ≠ []
  goesOn : numerals s ≠ Text.trimmed s.toList
  inside : ∀ head tail, Text.trimmed s.toList = head ++ tail →
    (head.map Char.utf8Size).sum ≠ (numerals s).length

/-- Torn sizes are the ones that cannot be read at all, be it as an error. -/
theorem parse_eq_trap_iff {s : String} : parse s = .error .trap ↔ Torn s := by
  have hwhole : (numerals s).length = (Text.trimmed s.toList).length ↔
      numerals s = Text.trimmed s.toList :=
    ⟨(List.takeWhile_prefix isNumeral).eq_of_length, congrArg List.length⟩
  have hzero : (numerals s).length = 0 ↔ numerals s = [] := List.length_eq_zero_iff
  have hnumerals : (Text.trimmed s.toList).takeWhile isNumeral = numerals s := rfl
  unfold parse
  simp only [hnumerals]
  constructor
  · intro h
    split at h
    · cases h
    split at h
    · cases h
    split at h
    · cases h
    rename_i hgoes hstarts
    split at h
    · rename_i hcut
      exact ⟨mt hzero.mpr hstarts, mt hwhole.mpr hgoes, cutAtByte_eq_none_iff.mp hcut⟩
    split at h
    · cases h
    split at h
    · cases h
    split at h <;> cases h
  · rintro ⟨hstarts, hgoes, hinside⟩
    have hsome : ¬ (Text.trimmed s.toList).isEmpty := by
      intro hempty
      rw [numerals, List.isEmpty_iff.mp hempty] at hstarts
      exact hstarts rfl
    rw [if_neg hsome, if_neg (mt hwhole.mp hgoes), if_neg (mt hzero.mp hstarts),
      cutAtByte_eq_none_iff.mpr hinside]

end Size

/-- A descriptor that keeps the rules that come before its size, and whose size is torn. -/
structure Descriptor.Torn (d : Descriptor) : Prop where
  clock : d.instructionClockHz ≠ 0
  delay : d.cyclesPerDelayIteration ≠ 0
  ports_ne_nil : d.ports ≠ []
  period : d.watchdog.periodUs.toNat * d.instructionClockHz.toNat < UInt64.size
  size : Size.Torn d.dataMemory

/-- The checks come to an answer on all descriptors but the torn ones. -/
theorem Descriptor.check_eq_trap_iff {d : Descriptor} : d.check = .error .trap ↔ d.Torn := by
  unfold Descriptor.check
  constructor
  · intro h
    split at h
    · cases h
    split at h
    · cases h
    split at h
    · cases h
    split at h
    · cases h
    rename_i hclock hdelay hports hperiod
    split at h
    · rename_i halt hsize
      cases halt with
      | refused e => cases h
      | trap =>
        exact ⟨hclock, hdelay, by simpa using hports, by omega, Size.parse_eq_trap_iff.mp hsize⟩
    split at h
    · cases h
    · cases hcheck : checkPorts _ d.ports [] with
      | ok _ =>
        rw [hcheck] at h
        cases h
      | error e =>
        rw [hcheck] at h
        cases h
  · rintro ⟨hclock, hdelay, hports, hperiod, hsize⟩
    rw [if_neg hclock, if_neg hdelay, if_neg (by simpa using hports), if_neg (by omega),
      Size.parse_eq_trap_iff.mpr hsize]
    rfl

end LedBench.Chip
