namespace LedBench.Bench

/-- A register file of `size` bytes. Those above the first 64 KiB cannot be addressed, so they are
not kept and hold 0 for ever. -/
structure DataMemory where
  size : UInt64
  cells : Array UInt8
  deriving DecidableEq, Repr

namespace DataMemory

/-- A register file with 0 in every byte. -/
def blank (size : UInt64) : DataMemory :=
  ⟨size, Array.replicate (min size.toNat 0x10000) 0⟩

/-- The byte at an address inside the file. -/
def read? (m : DataMemory) (addr : UInt16) : Option UInt8 := m.cells[addr.toNat]?

/-- Puts a byte at an address inside the file. -/
def write? (m : DataMemory) (addr : UInt16) (value : UInt8) : Option DataMemory :=
  if h : addr.toNat < m.cells.size then some { m with cells := m.cells.set addr.toNat value h }
  else none

/-- At most `count` bytes from `first` on, fewer at the end of the file. -/
def slice (m : DataMemory) (first count : Nat) : List UInt8 :=
  (List.range (min count (m.size.toNat - first))).map fun i => m.cells[first + i]?.getD 0

theorem read?_blank (size : UInt64) (addr : UInt16) :
    (blank size).read? addr = if addr.toNat < size.toNat then some 0 else none := by
  have := addr.toNat_lt
  have iff : addr.toNat < min size.toNat 0x10000 ↔ addr.toNat < size.toNat := by omega
  simp [blank, read?, Array.getElem?_replicate, iff]

theorem write?_isSome {m : DataMemory} {addr : UInt16} {value : UInt8} :
    (m.write? addr value).isSome = (m.read? addr).isSome := by
  by_cases h : addr.toNat < m.cells.size <;> simp [write?, read?, h]

theorem read?_of_write? {m n : DataMemory} {addr other : UInt16} {value : UInt8}
    (h : m.write? addr value = some n) :
    n.read? other = if other = addr then some value else m.read? other := by
  unfold write? at h
  split at h
  · rename_i lt
    cases h
    by_cases e : other = addr
    · subst e; simp [read?, lt]
    · have : addr.toNat ≠ other.toNat := fun k => e (UInt16.toNat_inj.1 k.symm)
      simp [read?, e, this]
  · cases h

end DataMemory

end LedBench.Bench
