namespace LedBench.Counter

/-- The sum, if it is a 64-bit number. -/
def add? (a b : UInt64) : Option UInt64 :=
  if a.toNat + b.toNat < UInt64.size then some (a + b) else none

/-- The difference, if it is not negative. -/
def sub? (a b : UInt64) : Option UInt64 :=
  if b ≤ a then some (a - b) else none

/-- The sum of a list of counts, if every partial sum is a 64-bit number. -/
def sum? (counts : List UInt64) : Option UInt64 := counts.foldlM add? 0

theorem add?_eq_some {a b c : UInt64} : add? a b = some c ↔ c.toNat = a.toNat + b.toNat := by
  unfold add?
  split <;> rename_i h
  · rw [Option.some.injEq, ← UInt64.toNat_inj, UInt64.toNat_add, Nat.mod_eq_of_lt h]
    exact eq_comm
  · have := c.toNat_lt
    constructor <;> intro e
    · cases e
    · exact absurd (e ▸ this) h

theorem eq_add_of_add? {a b c : UInt64} (h : add? a b = some c) : c = a + b := by
  unfold add? at h
  split at h
  · exact (Option.some.inj h).symm
  · cases h

theorem add?_eq_none {a b : UInt64} : add? a b = none ↔ UInt64.size ≤ a.toNat + b.toNat := by
  simp [add?]

theorem sub?_eq_some {a b c : UInt64} : sub? a b = some c ↔ a.toNat = b.toNat + c.toNat := by
  unfold sub?
  split <;> rename_i h
  · have l := UInt64.le_iff_toNat_le.1 h
    rw [Option.some.injEq, ← UInt64.toNat_inj, UInt64.toNat_sub_of_le _ _ h]
    omega
  · have l : ¬ b.toNat ≤ a.toNat := fun k => h (UInt64.le_iff_toNat_le.2 k)
    constructor <;> intro e
    · cases e
    · omega

theorem sub?_eq_none {a b : UInt64} : sub? a b = none ↔ a.toNat < b.toNat := by
  simp [sub?, UInt64.lt_iff_toNat_lt]

end LedBench.Counter
