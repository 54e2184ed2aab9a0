import LedBench.Text.Digits

namespace LedBench.Text

theorem digitsFrom?_append (base acc : Nat) (xs ys : List Char) :
    digitsFrom? base acc (xs ++ ys) =
      (digitsFrom? base acc xs).bind fun acc => digitsFrom? base acc ys := by
  induction xs generalizing acc with
  | nil => rfl
  | cons x rest ih =>
    rw [List.cons_append, digitsFrom?, digitsFrom?]
    cases digitValue? base x with
    | none => rfl
    | some v => exact ih (acc * base + v)

theorem digitValue?_digitChar {n : Nat} (h : n < 10) : digitValue? 10 n.digitChar = some n :=
  (by decide : ∀ n < 10, digitValue? 10 n.digitChar = some n) n h

theorem digitsFrom?_toDigits (n : Nat) : digitsFrom? 10 0 (Nat.toDigits 10 n) = some n := by
  induction n using Nat.strongRecOn with
  | ind n ih =>
    by_cases hlt : n < 10
    · rw [Nat.toDigits_of_lt_base hlt, digitsFrom?, digitValue?_digitChar hlt]
      simp [digitsFrom?]
    · rw [Nat.toDigits_of_base_le (by decide) (by omega), digitsFrom?_append,
        ih (n / 10) (by omega), Option.bind_some, digitsFrom?,
        digitValue?_digitChar (Nat.mod_lt n (by decide))]
      simp only [Option.bind_eq_bind, Option.bind_some, digitsFrom?, Option.some.injEq]
      omega

theorem toList_toString (n : Nat) : (toString n).toList = Nat.toDigits 10 n := by
  rw [Nat.toString_eq_repr, Nat.toList_repr]

/-- The text of a number is read as that number. -/
theorem digits?_toString (n : Nat) : digits? 10 (toString n).toList = some n := by
  rw [toList_toString, digits?, if_neg (by simp), digitsFrom?_toDigits]

theorem isDigit_toString {n : Nat} {c : Char} (h : c ∈ (toString n).toList) : c.isDigit := by
  rw [toList_toString] at h
  exact Nat.isDigit_of_mem_toDigits (by decide) (by decide) h

theorem toString_ne_nil (n : Nat) : (toString n).toList ≠ [] := by
  rw [toList_toString]
  exact Nat.toDigits_ne_nil

/-- Only the text of zero starts with a zero. -/
theorem head?_toString {n : Nat} (h : n ≠ 0) : (toString n).toList.head? ≠ some '0' := by
  rw [toList_toString]
  induction n using Nat.strongRecOn with
  | ind n ih =>
    by_cases hlt : n < 10
    · rw [Nat.toDigits_of_lt_base hlt]
      exact (by decide : ∀ n < 10, n ≠ 0 → [n.digitChar].head? ≠ some '0') n hlt h
    · have hfront := ih (n / 10) (by omega) (by omega)
      obtain ⟨d, ds, hds⟩ : ∃ d ds, Nat.toDigits 10 (n / 10) = d :: ds :=
        List.exists_cons_of_ne_nil Nat.toDigits_ne_nil
      rw [hds] at hfront
      rw [Nat.toDigits_of_base_le (by decide) (by omega), hds]
      exact hfront

/-- The digits in base ten are those from `0` to `9`. -/
theorem digitValue?_eq_some_iff {c : Char} {v : Nat} :
    digitValue? 10 c = some v ↔ c.isDigit = true ∧ v = c.toNat - '0'.toNat := by
  have hdigit : c.isDigit = true ↔ '0' ≤ c ∧ c ≤ '9' := by
    simp [Char.isDigit, Char.le_def]
  rw [hdigit]
  unfold digitValue?
  dsimp only
  by_cases h : '0' ≤ c ∧ c ≤ '9'
  · have hvalue : c.toNat - '0'.toNat < 10 := by
      have hle : c.toNat ≤ '9'.toNat := h.2
      have hbase : '9'.toNat = '0'.toNat + 9 := rfl
      omega
    rw [if_pos h, if_pos hvalue, Option.some.injEq, and_iff_right h]
    exact eq_comm
  · -- A letter stands for ten or more, so that none is a digit in this base.
    have hletter : ¬ (if 'a' ≤ c ∧ c ≤ 'f' then c.toNat - 'a'.toNat + 10
        else if 'A' ≤ c ∧ c ≤ 'F' then c.toNat - 'A'.toNat + 10 else 10) < 10 := by
      split
      · omega
      split <;> omega
    rw [if_neg h, if_neg hletter]
    simp [h]

theorem digitsFrom?_eq_some_iff {cs : List Char} {acc n : Nat} :
    digitsFrom? 10 acc cs = some n ↔
      (∀ c ∈ cs, c.isDigit = true) ∧ n = Nat.ofDigitChars 10 cs acc := by
  induction cs generalizing acc with
  | nil =>
    simp only [digitsFrom?, Option.some.injEq, List.not_mem_nil, false_implies, implies_true,
      true_and, Nat.ofDigitChars_nil]
    exact eq_comm
  | cons c rest ih =>
    rw [List.forall_mem_cons, Nat.ofDigitChars_cons, digitsFrom?]
    constructor
    · intro h
      obtain ⟨v, hv, hrest⟩ := Option.bind_eq_some_iff.mp h
      obtain ⟨hdigit, rfl⟩ := digitValue?_eq_some_iff.mp hv
      rw [Nat.mul_comm] at hrest
      obtain ⟨hdigits, hn⟩ := ih.mp hrest
      exact ⟨⟨hdigit, hdigits⟩, hn⟩
    · rintro ⟨⟨hdigit, hdigits⟩, hn⟩
      refine Option.bind_eq_some_iff.mpr ⟨_, digitValue?_eq_some_iff.mpr ⟨hdigit, rfl⟩, ?_⟩
      rw [Nat.mul_comm]
      exact ih.mpr ⟨hdigits, hn⟩

/-- A number is read from one or more digits, any number of zeros in front. -/
theorem digits?_eq_some_iff {cs : List Char} {n : Nat} :
    digits? 10 cs = some n ↔
      cs ≠ [] ∧ (∀ c ∈ cs, c.isDigit = true) ∧ n = Nat.ofDigitChars 10 cs 0 := by
  rw [digits?]
  cases cs with
  | nil => simp
  | cons c rest =>
    rw [if_neg (by simp), digitsFrom?_eq_some_iff]
    simp

/-- One plus sign may stand in front. -/
theorem decimal?_eq_some_iff {cs : List Char} {n : Nat} :
    decimal? cs = some n ↔
      ∃ digits, (cs = digits ∨ cs = '+' :: digits) ∧ digits ≠ [] ∧
        (∀ c ∈ digits, c.isDigit = true) ∧ n = Nat.ofDigitChars 10 digits 0 := by
  have hplus {digits : List Char} : ¬ ∀ c ∈ '+' :: digits, c.isDigit = true :=
    fun h => absurd (h '+' List.mem_cons_self) (by decide)
  unfold decimal?
  split
  · rename_i rest
    rw [digits?_eq_some_iff]
    constructor
    · intro h
      exact ⟨rest, .inr rfl, h⟩
    · rintro ⟨digits, rfl | heq, hne, hdigits, hn⟩
      · exact absurd hdigits hplus
      · obtain ⟨-, rfl⟩ := List.cons.inj heq
        exact ⟨hne, hdigits, hn⟩
  · rename_i hsign
    rw [digits?_eq_some_iff]
    constructor
    · intro h
      exact ⟨cs, .inl rfl, h⟩
    · rintro ⟨digits, rfl | heq, hne, hdigits, hn⟩
      · exact ⟨hne, hdigits, hn⟩
      · exact absurd heq (hsign digits)

end LedBench.Text
