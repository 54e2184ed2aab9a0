import LedBench.Bench.Bus

namespace LedBench.Bench

private theorem toNat_add_of_lt {a b : UInt64} (h : a.toNat + b.toNat < UInt64.size) :
    (a + b).toNat = a.toNat + b.toNat := by
  rw [UInt64.toNat_add]
  exact Nat.mod_eq_of_lt h

namespace Watchdog

/-- The count would reach the period within so many more cycles. -/
def due (w : Watchdog) (cycles : Nat) : Bool :=
  w.enabled && decide (w.periodCycles.toNat ≤ w.count.toNat + cycles)

/-- The watchdog after a tick, for a count that stays a 64-bit number. -/
def lapse (w : Watchdog) (cycles : UInt64) : Watchdog :=
  if w.enabled then
    { w with count :=
        if w.due cycles.toNat then w.count + cycles - w.periodCycles else w.count + cycles }
  else w

theorem tick?_of_disabled {w : Watchdog} (h : w.enabled = false) (cycles : UInt64) :
    w.tick? cycles = some (false, w) := by
  rw [tick?, h, if_neg Bool.false_ne_true]

theorem lapse_of_disabled {w : Watchdog} (h : w.enabled = false) (cycles : UInt64) :
    w.lapse cycles = w := by
  rw [lapse, h, if_neg Bool.false_ne_true]

/-- A tick moves nothing but the count. -/
theorem lapse_eq (w : Watchdog) (cycles : UInt64) :
    w.lapse cycles = { w with count := (w.lapse cycles).count } := by
  unfold lapse
  split <;> rfl

theorem layout_lapse (w : Watchdog) (cycles : UInt64) : (w.lapse cycles).layout = w.layout := by
  rw [lapse_eq]

theorem periodCycles_lapse (w : Watchdog) (cycles : UInt64) :
    (w.lapse cycles).periodCycles = w.periodCycles := by
  rw [lapse_eq]

theorem enabled_lapse (w : Watchdog) (cycles : UInt64) :
    (w.lapse cycles).enabled = w.enabled := by
  rw [lapse_eq]

theorem tick?_eq_lapse (w : Watchdog) (cycles : UInt64)
    (hroom : w.count.toNat + cycles.toNat < UInt64.size) :
    w.tick? cycles = some (w.due cycles.toNat, w.lapse cycles) := by
  have hsum : (w.count + cycles).toNat = w.count.toNat + cycles.toNat :=
    toNat_add_of_lt hroom
  unfold tick? lapse due
  cases henabled : w.enabled with
  | false => simp
  | true =>
    simp only [if_true, Counter.add?, if_pos hroom, Option.map_some, Bool.true_and,
      decide_eq_true_eq, UInt64.le_iff_toNat_le, hsum]
    split <;> simp_all

/-- A tick counts every cycle, and an expiry takes one period off: nothing wraps. -/
theorem count_lapse (w : Watchdog) (cycles : UInt64)
    (hroom : w.count.toNat + cycles.toNat < UInt64.size) :
    (w.lapse cycles).count.toNat +
        (if w.due cycles.toNat = true then w.periodCycles.toNat else 0) =
      w.count.toNat + if w.enabled = true then cycles.toNat else 0 := by
  have hsum : (w.count + cycles).toNat = w.count.toNat + cycles.toNat := toNat_add_of_lt hroom
  unfold lapse
  cases henabled : w.enabled with
  | false => simp [due, henabled]
  | true =>
    cases hdue : w.due cycles.toNat with
    | false => simpa using hsum
    | true =>
      have hle : w.periodCycles.toNat ≤ w.count.toNat + cycles.toNat := by
        simpa [due, henabled] using hdue
      have hperiod : w.periodCycles ≤ w.count + cycles := by
        rw [UInt64.le_iff_toNat_le, hsum]
        exact hle
      have hleft := UInt64.toNat_sub_of_le _ _ hperiod
      simp only [if_true]
      omega

theorem due_of_disabled {w : Watchdog} (h : w.enabled = false) (cycles : Nat) :
    w.due cycles = false := by
  simp [due, h]

theorem due_iff {w : Watchdog} {cycles : Nat} :
    w.due cycles = true ↔ w.enabled = true ∧ w.periodCycles.toNat ≤ w.count.toNat + cycles := by
  simp [due]

theorem due_mono {w : Watchdog} {cycles more : Nat} (hle : cycles ≤ more)
    (h : w.due cycles = true) : w.due more = true := by
  obtain ⟨henabled, hdue⟩ := due_iff.mp h
  exact due_iff.mpr ⟨henabled, by omega⟩

end Watchdog

/-- The counters of a bus, which its operations move on under the same names. -/
structure Clock where
  cycles : UInt64
  nops : UInt64
  cyclesPerNop : UInt64
  watchdog : Watchdog
  resetRequested : Bool

def Bus.clock (b : Bus) : Clock :=
  ⟨b.cycles, b.nops, b.cyclesPerNop, b.chip.watchdog, b.chip.resetRequested⟩

namespace Clock

/-- No counter is ahead of the cycles, and a no-op takes time. -/
structure Sound (k : Clock) : Prop where
  count_le : k.watchdog.count.toNat ≤ k.cycles.toNat
  nops_le : k.nops.toNat ≤ k.cycles.toNat
  delay_pos : 0 < k.cyclesPerNop.toNat

def lapse (cycles : UInt64) (k : Clock) : Clock :=
  { k with
    cycles := k.cycles + cycles
    watchdog := k.watchdog.lapse cycles
    resetRequested := k.resetRequested || k.watchdog.due cycles.toNat }

def nop (k : Clock) : Clock := { k with nops := k.nops + 1 }.lapse k.cyclesPerNop

def delay : Nat → Clock → Clock
  | 0, k => k
  | count + 1, k => k.nop.delay count

/-- The counters when a reset starts the watchdog's period again. -/
def reset (k : Clock) : Clock := { k with watchdog := k.watchdog.clear, resetRequested := false }

def burn (word : UInt16) (k : Clock) : Clock := { k with watchdog := k.watchdog.configure word }

def release (k : Clock) : Clock := { k with resetRequested := false }

/-- So many cycles have gone by, in one or more ticks: whether one of them asked for a reset
    depends on their sum alone, and until one does the watchdog counts them all. -/
structure Elapsed (before after : Clock) (cycles : Nat) : Prop where
  cycles_eq : after.cycles.toNat = before.cycles.toNat + cycles
  cyclesPerNop_eq : after.cyclesPerNop = before.cyclesPerNop
  layout_eq : after.watchdog.layout = before.watchdog.layout
  period_eq : after.watchdog.periodCycles = before.watchdog.periodCycles
  enabled_eq : after.watchdog.enabled = before.watchdog.enabled
  requested_eq : after.resetRequested = (before.resetRequested || before.watchdog.due cycles)
  count_le : after.watchdog.count.toNat ≤ before.watchdog.count.toNat + cycles
  count_eq : before.watchdog.due cycles = false → before.watchdog.enabled = true →
    after.watchdog.count.toNat = before.watchdog.count.toNat + cycles

/-- As long as no reset is asked for, what the watchdog has counted is only put off. -/
private theorem Elapsed.due_eq {k l : Clock} {first : Nat} (h : Elapsed k l first)
    (hfirst : k.watchdog.due first = false) (more : Nat) :
    l.watchdog.due more = k.watchdog.due (first + more) := by
  cases henabled : k.watchdog.enabled with
  | false =>
    rw [Watchdog.due_of_disabled (h.enabled_eq.trans henabled), Watchdog.due_of_disabled henabled]
  | true =>
    have hcount := h.count_eq hfirst henabled
    simp only [Watchdog.due, h.enabled_eq, h.period_eq, hcount, Nat.add_assoc]

theorem Elapsed.trans {k l m : Clock} {first second : Nat} (h : Elapsed k l first)
    (h' : Elapsed l m second) : Elapsed k m (first + second) where
  cycles_eq := by rw [h'.cycles_eq, h.cycles_eq, Nat.add_assoc]
  cyclesPerNop_eq := h'.cyclesPerNop_eq.trans h.cyclesPerNop_eq
  layout_eq := h'.layout_eq.trans h.layout_eq
  period_eq := h'.period_eq.trans h.period_eq
  enabled_eq := h'.enabled_eq.trans h.enabled_eq
  requested_eq := by
    rw [h'.requested_eq, h.requested_eq, Bool.or_assoc]
    congr 1
    cases hfirst : k.watchdog.due first with
    | true => exact (Watchdog.due_mono (Nat.le_add_right _ _) hfirst).symm
    | false => rw [h.due_eq hfirst, Bool.false_or]
  count_le := by
    have := h.count_le
    have := h'.count_le
    omega
  count_eq := by
    intro hdue henabled
    have hfirst : k.watchdog.due first = false := by
      rw [← Bool.not_eq_true] at hdue ⊢
      exact fun hfirst => hdue (Watchdog.due_mono (Nat.le_add_right _ _) hfirst)
    have hcount := h.count_eq hfirst henabled
    rw [← h.due_eq hfirst] at hdue
    rw [h'.count_eq hdue (h.enabled_eq.trans henabled), hcount, Nat.add_assoc]

theorem elapsed_lapse {k : Clock} (hsound : k.Sound) {cycles : UInt64}
    (hroom : k.cycles.toNat + cycles.toNat < UInt64.size) :
    Elapsed k (k.lapse cycles) cycles.toNat := by
  have hbehind := hsound.count_le
  have hcount : (k.lapse cycles).watchdog.count.toNat + _ = _ :=
    k.watchdog.count_lapse cycles (Nat.lt_of_le_of_lt (by omega) hroom)
  refine ⟨?_, rfl, ?_, ?_, ?_, rfl, ?_, ?_⟩
  · exact toNat_add_of_lt hroom
  · exact k.watchdog.layout_lapse cycles
  · exact k.watchdog.periodCycles_lapse cycles
  · exact k.watchdog.enabled_lapse cycles
  · split at hcount <;> split at hcount <;> omega
  · intro hdue henabled
    rwa [hdue, henabled, if_neg (by simp), if_pos rfl, Nat.add_zero] at hcount

theorem Sound.lapse {k : Clock} {cycles : UInt64} (hsound : k.Sound)
    (hroom : k.cycles.toNat + cycles.toNat < UInt64.size) : (k.lapse cycles).Sound := by
  have helapsed := elapsed_lapse hsound hroom
  have hcycles := helapsed.cycles_eq
  have hcount := helapsed.count_le
  have hnops : (k.lapse cycles).nops = k.nops := rfl
  have := hsound.count_le
  have := hsound.nops_le
  exact ⟨by omega, by rw [hnops]; omega, hsound.delay_pos⟩

theorem elapsed_access {k : Clock} (hsound : k.Sound)
    (hroom : k.cycles.toNat + 1 < UInt64.size) :
    Elapsed k (k.lapse 1) 1 ∧ (k.lapse 1).Sound := by
  have hone : (1 : UInt64).toNat = 1 := rfl
  have hroom' : k.cycles.toNat + (1 : UInt64).toNat < UInt64.size := by rwa [hone]
  have helapsed := elapsed_lapse hsound hroom'
  rw [hone] at helapsed
  exact ⟨helapsed, hsound.lapse hroom'⟩

/-- A no-op never overflows its own counter: it takes at least one cycle. -/
theorem nops_toNat {k : Clock} (hsound : k.Sound)
    (hroom : k.cycles.toNat + k.cyclesPerNop.toNat < UInt64.size) :
    (k.nops + 1).toNat = k.nops.toNat + 1 := by
  have hnops := hsound.nops_le
  have hpos := hsound.delay_pos
  apply toNat_add_of_lt
  rw [UInt64.toNat_one]
  exact Nat.lt_of_le_of_lt (by omega) hroom

theorem elapsed_nop {k : Clock} (hsound : k.Sound)
    (hroom : k.cycles.toNat + k.cyclesPerNop.toNat < UInt64.size) :
    Elapsed k k.nop k.cyclesPerNop.toNat := by
  have h := elapsed_lapse hsound hroom
  exact ⟨h.cycles_eq, rfl, h.layout_eq, h.period_eq, h.enabled_eq, h.requested_eq, h.count_le,
    h.count_eq⟩

theorem Sound.nop {k : Clock} (hsound : k.Sound)
    (hroom : k.cycles.toNat + k.cyclesPerNop.toNat < UInt64.size) : k.nop.Sound := by
  have helapsed := elapsed_nop hsound hroom
  have hcycles := helapsed.cycles_eq
  have hcount := helapsed.count_le
  have hnops : k.nop.nops.toNat = k.nops.toNat + 1 := nops_toNat hsound hroom
  have := hsound.count_le
  have := hsound.nops_le
  have := hsound.delay_pos
  exact ⟨by omega, by omega, hsound.delay_pos⟩

theorem Sound.delay {k : Clock} (hsound : k.Sound) {count : Nat}
    (hroom : k.cycles.toNat + count * k.cyclesPerNop.toNat < UInt64.size) :
    (k.delay count).Sound ∧ (k.delay count).nops.toNat = k.nops.toNat + count := by
  induction count generalizing k with
  | zero => exact ⟨hsound, rfl⟩
  | succ count ih =>
    have hstep : k.cycles.toNat + k.cyclesPerNop.toNat < UInt64.size := by
      rw [Nat.succ_mul] at hroom
      omega
    have hcycles := (elapsed_nop hsound hstep).cycles_eq
    have hnops : k.nop.nops.toNat = k.nops.toNat + 1 := nops_toNat hsound hstep
    have hrest := ih (hsound.nop hstep) (by
      rw [hcycles]
      change _ + count * k.cyclesPerNop.toNat < _
      rw [Nat.succ_mul] at hroom
      omega)
    refine ⟨hrest.1, ?_⟩
    rw [Clock.delay, hrest.2, hnops]
    omega

/-- A delay is seen by the watchdog as the sum of its no-ops. -/
theorem elapsed_delay {k : Clock} (hsound : k.Sound) {count : Nat} (hpos : 0 < count)
    (hroom : k.cycles.toNat + count * k.cyclesPerNop.toNat < UInt64.size) :
    Elapsed k (k.delay count) (count * k.cyclesPerNop.toNat) := by
  induction count generalizing k with
  | zero => cases hpos
  | succ count ih =>
    rw [Nat.succ_mul] at hroom ⊢
    have hfirst := elapsed_nop hsound (by omega)
    rcases Nat.eq_zero_or_pos count with rfl | hcount
    · simpa only [Nat.zero_mul, Nat.zero_add, Clock.delay] using hfirst
    · have hrest := ih (hsound.nop (by omega)) hcount (by
        rw [hfirst.cycles_eq, hfirst.cyclesPerNop_eq]
        omega)
      rw [hfirst.cyclesPerNop_eq] at hrest
      rw [Clock.delay, Nat.add_comm (_ * _)]
      exact hfirst.trans hrest

theorem Sound.reset {k : Clock} (hsound : k.Sound) : k.reset.Sound :=
  ⟨Nat.zero_le _, hsound.nops_le, hsound.delay_pos⟩

theorem Sound.burn {k : Clock} (hsound : k.Sound) (word : UInt16) : (k.burn word).Sound :=
  ⟨Nat.zero_le _, hsound.nops_le, hsound.delay_pos⟩

theorem Sound.release {k : Clock} (hsound : k.Sound) : k.release.Sound :=
  ⟨hsound.count_le, hsound.nops_le, hsound.delay_pos⟩

end Clock

end LedBench.Bench
