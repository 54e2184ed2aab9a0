import LedBench.Proofs.Bus.Build

namespace LedBench.Bench

open Chip Firmware

namespace DataMemory

theorem size_put (m : DataMemory) (addr : UInt16) (value : UInt8) :
    (m.put addr value).size = m.size ∧ (m.put addr value).cells.size = m.cells.size := by
  unfold put write?
  split <;> simp

/-- Two files that no address can tell apart. -/
theorem ext_read? {m n : DataMemory} (hsize : m.size = n.size)
    (hm : m.cells.size ≤ 0x10000) (hn : n.cells.size ≤ 0x10000)
    (hread : ∀ addr, m.read? addr = n.read? addr) : m = n := by
  obtain ⟨size, cells⟩ := m
  obtain ⟨_, cells'⟩ := n
  obtain rfl : size = _ := hsize
  congr 1
  apply Array.ext_getElem?
  intro i
  by_cases hi : i < 0x10000
  · have haddr : (UInt16.ofNat i).toNat = i := UInt16.toNat_ofNat_of_lt' hi
    simpa only [read?, haddr] using hread (UInt16.ofNat i)
  · rw [Array.getElem?_eq_none (Nat.le_trans hm (Nat.not_lt.mp hi)),
      Array.getElem?_eq_none (Nat.le_trans hn (Nat.not_lt.mp hi))]

/-- A register file with 0 in every byte but one. -/
def marked (size : UInt64) (addr : UInt16) (mark : UInt8) : DataMemory :=
  (blank size).put addr mark

theorem read?_marked (size : UInt64) (addr other : UInt16) (mark : UInt8) :
    (marked size addr mark).read? other =
      if other.toNat < size.toNat then some (if other = addr then mark else 0) else none := by
  rw [marked, read?_put, read?_blank, apply_ite (Option.map _)]
  rfl

theorem size_marked (size : UInt64) (addr : UInt16) (mark : UInt8) :
    (marked size addr mark).size = size ∧ (marked size addr mark).cells.size ≤ 0x10000 := by
  obtain ⟨hsize, hcells⟩ := size_put (blank size) addr mark
  rw [marked, hsize, hcells]
  exact ⟨rfl, by simp only [blank, Array.size_replicate]; omega⟩

theorem marked_zero (size : UInt64) (addr : UInt16) : marked size addr 0 = blank size := by
  obtain ⟨hsize, hcells⟩ := size_marked size addr 0
  refine ext_read? hsize hcells (by simp only [blank, Array.size_replicate]; omega) ?_
  intro other
  rw [read?_marked, read?_blank, ite_self]

theorem put_marked_zero (size : UInt64) {addr other : UInt16} (hne : other ≠ addr) (mark : UInt8) :
    (marked size addr mark).put other 0 = marked size addr mark := by
  obtain ⟨hsize, hcells⟩ := size_marked size addr mark
  obtain ⟨hsize', hcells'⟩ := size_put (marked size addr mark) other 0
  refine ext_read? hsize' (hcells' ▸ hcells) hcells ?_
  intro a
  rw [read?_put, read?_marked]
  by_cases hinside : a.toNat < size.toNat
  · by_cases ha : a = other
    · simp [ha, hne]
    · simp [hinside, ha]
  · simp [hinside]

/-- A change of the marked byte is a change of the mark. -/
theorem put_marked_self (size : UInt64) (addr : UInt16) (mark : UInt8) (f : UInt8 → UInt8) :
    (marked size addr mark).put addr (f (((marked size addr mark).read? addr).getD 0)) =
      marked size addr (f mark) := by
  obtain ⟨hsize, hcells⟩ := size_marked size addr mark
  obtain ⟨hsize', hcells'⟩ := size_marked size addr (f mark)
  obtain ⟨hsize'', hcells''⟩ := size_put (marked size addr mark) addr
    (f (((marked size addr mark).read? addr).getD 0))
  refine ext_read? (by rw [hsize'', hsize, hsize']) (hcells'' ▸ hcells) hcells' ?_
  intro other
  rw [read?_put, read?_marked, read?_marked, read?_marked]
  by_cases hother : other = addr
  · subst hother
    by_cases hinside : other.toNat < size.toNat <;> simp [hinside]
  · simp [hother]

end DataMemory

namespace Contents

/-- What a write makes of the ports depends on the ports alone. -/
theorem ports_put_congr {c c' : Contents} (h : c.ports = c'.ports) (addr : UInt16)
    (value : UInt8) : (c.put addr value).ports = (c'.put addr value).ports := by
  have howner : c.owner? addr = c'.owner? addr := by rw [owner?, owner?, h]
  cases hc : c'.owner? addr with
  | none =>
    rw [put_of_owner?_eq_none (howner.trans hc), put_of_owner?_eq_none hc]
    exact h
  | some i =>
    obtain ⟨p, q, hp, -, hq, hput⟩ := put_of_owner?_eq_some (howner.trans hc) value
    obtain ⟨p', q', hp', -, hq', hput'⟩ := put_of_owner?_eq_some hc value
    rw [h] at hp
    obtain rfl := Option.some.inj (hp.symm.trans hp')
    obtain rfl := Option.some.inj (hq.symm.trans hq')
    rw [hput, hput', h]

end Contents

/-- The byte that the program leaves in data memory when it has driven the LED to a level: none
    where a port answers for the LED. -/
def Decoding.mark (k : Decoding) (t : Target) (level : Bool) : UInt8 :=
  if ∃ p ∈ k.ports, t.led.port ∈ p.registers then 0 else level.toUInt8

/-- What is decided by burning alone: the word, and whether it lets the watchdog run. -/
structure Fuses where
  word : UInt16
  watchdog : Bool

namespace View

variable {v w : View} {t : Target} {size : UInt64} {level : Bool}

/-- Data memory holds nothing but the mark of a program that has driven the LED to this level. -/
def Marked (t : Target) (size : UInt64) (level : Bool) (v : View) : Prop :=
  v.contents.memory = .marked size t.led.port (v.contents.decoding.mark t level)

theorem Marked.of_contents_eq (h : v.Marked t size level) (hcontents : w.contents = v.contents) :
    w.Marked t size level := by
  rw [Marked, hcontents]
  exact h

theorem Marked.write_zero (h : v.Marked t size level) {addr : UInt16} (haddr : addr ≠ t.led.port) :
    (v.write addr 0).Marked t size level := by
  have hdecoding : (v.write addr 0).contents.decoding = v.contents.decoding :=
    decoding_eq_of_build (build_write v addr 0)
  rw [Marked, hdecoding, contents_write]
  cases howner : v.contents.owner? addr with
  | none =>
    rw [Contents.put_of_owner?_eq_none howner]
    dsimp only
    rw [h, DataMemory.put_marked_zero size haddr]
  | some i =>
    obtain ⟨p, q, -, -, -, hput⟩ := Contents.put_of_owner?_eq_some howner 0
    rw [hput]
    exact h

theorem Marked.modify (h : v.Marked t size level) {f : UInt8 → UInt8} {level' : Bool}
    (hf : f level.toUInt8 = level'.toUInt8) :
    (v.modify t.led.port f).Marked t size level' := by
  have hdecoding : (v.modify t.led.port f).contents.decoding = v.contents.decoding :=
    decoding_eq_of_build (build_modify v t.led.port f)
  rw [Marked, hdecoding, contents_modify]
  -- Where a port answers for the LED, data memory is never reached.
  cases howner : v.contents.owner? t.led.port with
  | none =>
    have hfree : ¬ ∃ p ∈ v.contents.decoding.ports, t.led.port ∈ p.registers := by
      simpa using Contents.owner?_eq_none_iff.mp howner
    have hload : v.load t.led.port = (v.contents.memory.read? t.led.port).getD 0 := by
      rw [load, Contents.load?, howner]
    rw [Contents.put_of_owner?_eq_none howner, hload]
    dsimp only
    rw [h, Decoding.mark, Decoding.mark, if_neg hfree, if_neg hfree, ← hf]
    exact DataMemory.put_marked_self size t.led.port level.toUInt8 f
  | some i =>
    obtain ⟨p, q, hp, hclaims, -, hput⟩ :=
      Contents.put_of_owner?_eq_some howner (f (v.load t.led.port))
    have htaken : ∃ p ∈ v.contents.decoding.ports, t.led.port ∈ p.registers :=
      ⟨p.layout, List.mem_map_of_mem (List.mem_of_getElem? hp), Port.claims_iff.mp hclaims⟩
    rw [hput]
    dsimp only
    rw [h, Decoding.mark, Decoding.mark, if_pos htaken, if_pos htaken]

/-- The initializer sets the mark of a LED that is on. -/
theorem Marked.startup (h : v.Marked t size level) : (v.startup t).Marked t size true := by
  have hlit : level.toUInt8 ||| t.ledMask = true.toUInt8 := by cases t <;> cases level <;> rfl
  cases t with
  | pic16f1823 =>
    have hdigital : (v.write 0x18E 0).Marked .pic16f1823 size level := h.write_zero (by decide)
    have houtput : ((v.write 0x18E 0).write 0x08E 0).Marked .pic16f1823 size level :=
      hdigital.write_zero (by decide)
    exact houtput.modify (f := (· ||| 1)) hlit
  | pic16f628a =>
    have houtput : (v.write 0x086 0).Marked .pic16f628a size level := h.write_zero (by decide)
    exact houtput.modify (f := (· ||| 1)) hlit

theorem Marked.reset (h : v.Marked t size level) (cause : ResetCause) :
    (v.reset cause).Marked t size level := by
  have hdecoding : (v.reset cause).contents.decoding = v.contents.decoding :=
    Contents.decoding_reset v.contents cause
  rw [Marked, hdecoding]
  exact h

theorem Marked.pass (h : v.Marked t size level) : (v.pass t).Marked t size (!level) := by
  have hinverted : level.toUInt8 ^^^ t.ledMask = (!level).toUInt8 := by
    cases t <;> cases level <;> rfl
  exact (h.modify (f := (· ^^^ t.ledMask)) hinverted).of_contents_eq (contents_delay _ blinkDelay)

/-- Clock and ports after an instruction depend on nothing but the clock and the ports before. -/
theorem exec_congr (hclock : v.clock = w.clock) (hports : v.contents.ports = w.contents.ports)
    (i : Instr) :
    (v.exec i).clock = (w.exec i).clock ∧
      (v.exec i).contents.ports = (w.exec i).contents.ports := by
  cases i with
  | write addr value =>
    rw [exec, exec, clock_write, clock_write, contents_write, contents_write, hclock]
    exact ⟨rfl, Contents.ports_put_congr hports addr value⟩
  | setBits addr mask =>
    rw [exec, exec, clock_modify, clock_modify, contents_modify, contents_modify, hclock]
    refine ⟨rfl, ?_⟩
    have howner : v.contents.owner? addr = w.contents.owner? addr := by
      rw [Contents.owner?, Contents.owner?, hports]
    cases hw : w.contents.owner? addr with
    | none =>
      -- The byte read here may differ, and so the byte written, but no port hears of it.
      rw [Contents.put_of_owner?_eq_none (howner.trans hw), Contents.put_of_owner?_eq_none hw]
      exact hports
    | some i =>
      have hload : v.load addr = w.load addr := by
        rw [load, load, Contents.load?, Contents.load?, howner, hw, hports]
      rw [hload]
      exact Contents.ports_put_congr hports addr _

theorem startup_congr (hclock : v.clock = w.clock) (hports : v.contents.ports = w.contents.ports)
    (t : Target) :
    (v.startup t).clock = (w.startup t).clock ∧
      (v.startup t).contents.ports = (w.startup t).contents.ports := by
  unfold startup
  induction t.startup generalizing v w with
  | nil => exact ⟨hclock, hports⟩
  | cons i rest ih =>
    obtain ⟨hclock', hports'⟩ := exec_congr hclock hports i
    rw [List.foldl_cons, List.foldl_cons]
    exact ih hclock' hports'

def fuses (v : View) : Fuses := ⟨v.configWord, v.clock.watchdog.enabled⟩

theorem fuses_release (v : View) : v.release.fuses = v.fuses := rfl

theorem inert_fuses : Inert fuses where
  lapse := by
    intro v cycles
    have henabled : (v.clock.watchdog.lapse cycles).enabled = v.clock.watchdog.enabled := by
      unfold Watchdog.lapse
      split <;> rfl
    simp only [fuses, lapse, Clock.lapse, henabled]
  latch := fun _ _ => rfl
  poke := by
    intro v w addr value hpoke
    obtain ⟨c, -, rfl⟩ := Option.map_eq_some_iff.mp hpoke
    rfl

end View

end LedBench.Bench
