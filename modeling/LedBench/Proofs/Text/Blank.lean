import LedBench.Text.Blank

namespace LedBench.Text

/-- Lower case moves the capitals of ASCII and nothing else. -/
theorem toNat_toLower (c : Char) :
    c.toLower.toNat = if c.isUpper then c.toNat + 32 else c.toNat := by
  unfold Char.toLower Char.isUpper
  split
  · rename_i h
    rw [if_pos (by simpa using h)]
    obtain ⟨-, hle⟩ := h
    have hle : c.val.toNat ≤ 90 := UInt32.le_iff_toNat_le.mp hle
    have hsum : (c.val + ('a'.val - 'A'.val)).toNat = c.val.toNat + 32 := by
      have hstep : ('a'.val - 'A'.val).toNat = 32 := by decide
      rw [UInt32.toNat_add, hstep]
      exact Nat.mod_eq_of_lt (by omega)
    exact hsum
  · rename_i h
    rw [if_neg (by simpa using h)]

theorem isUpper_iff {c : Char} : c.isUpper = true ↔ 65 ≤ c.toNat ∧ c.toNat ≤ 90 := by
  unfold Char.isUpper
  rw [decide_eq_true_eq]
  exact and_congr UInt32.le_iff_toNat_le UInt32.le_iff_toNat_le

/-- The visible characters of ASCII are no white space. -/
theorem isBlank_of_visible {c : Char} (hlo : 33 ≤ c.toNat) (hhi : c.toNat ≤ 126) :
    isBlank c = false := by
  simp [isBlank, inRanges, blankRanges]
  omega

theorem isBlank_toLower (c : Char) : isBlank c.toLower = isBlank c := by
  have hlower := toNat_toLower c
  by_cases h : c.isUpper = true
  · have hupper := isUpper_iff.mp h
    rw [if_pos h] at hlower
    rw [isBlank_of_visible (by omega) (by omega), isBlank_of_visible (by omega) (by omega)]
  · rw [if_neg h] at hlower
    rw [Char.toNat_inj.mp hlower]

theorem isUpper_toLower (c : Char) : c.toLower.isUpper = false := by
  rw [← Bool.not_eq_true, isUpper_iff, toNat_toLower]
  by_cases h : c.isUpper = true
  · have hupper := isUpper_iff.mp h
    rw [if_pos h]
    omega
  · rw [if_neg h, ← isUpper_iff]
    exact h

theorem toLower_eq_self_iff {c : Char} : c.toLower = c ↔ c.isUpper = false := by
  rw [← Char.toNat_inj, toNat_toLower]
  cases c.isUpper <;> simp

theorem toLower_eq_dot_iff {c : Char} : c.toLower = '.' ↔ c = '.' := by
  rw [← Char.toNat_inj, ← Char.toNat_inj, toNat_toLower]
  by_cases h : c.isUpper = true
  · have hupper := isUpper_iff.mp h
    have hdot : '.'.toNat = 46 := rfl
    rw [if_pos h]
    omega
  · rw [if_neg h]

/-- A text that neither starts nor ends with white space is left as it is. -/
theorem trimmed_eq_self {cs : List Char} (hhead : ∀ c ∈ cs.head?, isBlank c = false)
    (hlast : ∀ c ∈ cs.getLast?, isBlank c = false) : trimmed cs = cs := by
  have hkept {xs : List Char} (h : ∀ c ∈ xs.head?, isBlank c = false) :
      xs.dropWhile isBlank = xs := by
    cases xs with
    | nil => rfl
    | cons x rest => exact List.dropWhile_cons_of_neg (by simp [h x rfl])
  rw [trimmed, hkept hhead, hkept (by rwa [List.head?_reverse]), List.reverse_reverse]

/-- What remains of a text does not start with white space. -/
theorem head?_trimmed {cs : List Char} : ∀ c ∈ (trimmed cs).head?, isBlank c = false := by
  have hstart (xs : List Char) : ∀ c ∈ (xs.dropWhile isBlank).head?, isBlank c = false := by
    intro c hc
    have hnot := List.head?_dropWhile_not isBlank xs
    rw [hc] at hnot
    simpa using hnot
  intro c hc
  -- Of what is dropped at the end nothing comes first, unless nothing remains.
  obtain ⟨tail, htail⟩ : ∃ tail, cs.dropWhile isBlank = trimmed cs ++ tail := by
    obtain ⟨lead, hlead⟩ := List.dropWhile_suffix (l := (cs.dropWhile isBlank).reverse) isBlank
    refine ⟨lead.reverse, ?_⟩
    rw [trimmed, ← List.reverse_append, hlead, List.reverse_reverse]
  refine hstart cs c ?_
  rw [htail, List.head?_append, Option.mem_def.mp hc]
  rfl

end LedBench.Text
