import Mathlib.Order.Bounds.Basic
import LedBench.Proofs.Machine.Twins
import LedBench.Proofs.Run.Blinking

namespace LedBench.Run

open Bench Chip Firmware

variable {t : Target} {led : PinRef} {k : Build} {d : Descriptor} {m m' : Machine}
  {maxCycles : Option UInt64}

/-- A machine that runs can be reported on at any time. -/
theorem exists_report_of_running (h : m.Running t led k) (hports : k.decoding.ports = d.ports)
    {l : PortLayout} (hport : d.port? led.port = some l) (hbit : led.bit < 8) (reason : StopReason)
    (fault : Option SimulationError) :
    ∃ r, (Ending.mk m reason fault).report = .ok r ∧ r.stopReason = reason ∧ r.fault = fault ∧
      r.passes = m.passes ∧ r.cycles = m.bus.cycles := by
  have hladder : m.bus.contents.decoding.ports = d.ports := by
    rw [← hports, ← h.build_eq]
    rfl
  obtain ⟨level, hlevel⟩ := Machine.exists_ledLevel h.led_eq hladder hport hbit
  obtain ⟨s, hs⟩ := Machine.exists_capture hlevel
  have hordered := h.inOrder.ordered
  change (m.bus.journal.events.filterMap _ |>.map _).Pairwise _ at hordered
  rw [← Trace.changes_ofEvents, List.map_map, ← h.led_eq] at hordered
  obtain ⟨intervals, hintervals⟩ :=
    Option.isSome_iff_exists.mp (Trace.isSome_intervals?_of_pairwise hordered)
  rw [Ending.report]
  simp only [hintervals, hs]
  exact ⟨_, rfl, rfl, rfl, rfl, rfl⟩

/-- The numbers of steps at which a run may end that has so many passes left. -/
def Boundary (m : Machine) (passes : Nat) (maxCycles : Option UInt64) (n : Nat) : Prop :=
  n = passes ∨ ∃ o, m.run (List.replicate n .step) = .ok o ∧ Reached maxCycles o.bus.cycles.toNat

theorem run_replicate_succ (n : Nat) :
    m.run (List.replicate (n + 1) .step) =
      match m.step with
      | .ok m => m.run (List.replicate n .step)
      | .error s => .error s := by
  rw [List.replicate_succ, Machine.run]
  rfl

theorem boundary_succ {o : Machine} (hstep : m.step = .ok o) {passes n : Nat} :
    Boundary m (passes + 1) maxCycles (n + 1) ↔ Boundary o passes maxCycles n := by
  rw [Boundary, Boundary, run_replicate_succ, hstep, Nat.add_right_cancel_iff]

theorem boundary_zero {passes : Nat} :
    Boundary m passes maxCycles 0 ↔ 0 = passes ∨ Reached maxCycles m.bus.cycles.toNat := by
  have hrun : ∀ o, m.run (List.replicate 0 .step) = .ok o ↔ m = o :=
    fun o => ⟨Except.ok.inj, congrArg _⟩
  simp only [Boundary, hrun, exists_eq_left']

/-- A run ends at its first boundary, as long as no step overflows a counter, whatever has been
    noted in its log. -/
theorem runPasses_of_isLeast {passes n : Nat} (h : m.Running t led k) (htwin : m.Twin m')
    (hn : IsLeast {j | Boundary m passes maxCycles j} n)
    (hroom : ∀ s, m.run (List.replicate n .step) = .error s → s.halt ≠ .trap) :
    ∃ o o', m.run (List.replicate n .step) = .ok o ∧ o.Running t led k ∧ o.Twin o' ∧
      o.passes.toNat = m.passes.toNat + n ∧
      runPasses maxCycles passes m' =
        .ok ⟨o', if n = passes then .maxPasses else .maxCycles, none⟩ := by
  induction passes generalizing m m' n with
  | zero =>
    obtain rfl : n = 0 := Nat.le_zero.mp (hn.2 (.inl rfl))
    exact ⟨m, m', rfl, h, htwin, rfl, rfl⟩
  | succ passes ih =>
    have hcycles : m'.bus.cycles = m.bus.cycles := Bus.cycles_eq_of_view htwin.view_eq
    have hspent : spent maxCycles m' = true ↔ Reached maxCycles m.bus.cycles.toNat := by
      rw [spent_iff, hcycles]
    rw [runPasses]
    by_cases hreached : Reached maxCycles m.bus.cycles.toNat
    · obtain rfl : n = 0 := Nat.le_zero.mp (hn.2 (boundary_zero.mpr (.inr hreached)))
      rw [if_pos (hspent.mpr hreached), if_neg (Nat.succ_ne_zero passes).symm]
      exact ⟨m, m', rfl, h, htwin, rfl, rfl⟩
    · have hne : n ≠ 0 := by
        rintro rfl
        rcases boundary_zero.mp hn.1 with hzero | hlimit
        · cases hzero
        · exact hreached hlimit
      obtain ⟨n, rfl⟩ := Nat.exists_eq_succ_of_ne_zero hne
      rw [if_neg (mt hspent.mp hreached)]
      rcases Machine.step_twins h htwin with
        ⟨o, o', restarts, hstep, hstep', htwin', -, hadvanced⟩ | ⟨s, s', hstep, -⟩
      · have hleast : IsLeast {j | Boundary o passes maxCycles j} n :=
          ⟨(boundary_succ hstep).mp hn.1,
            fun j hj => Nat.succ_le_succ_iff.mp (hn.2 ((boundary_succ hstep).mpr hj))⟩
        obtain ⟨e, e', hrun, hrunning, htwin'', hpasses, hruns⟩ :=
          ih hadvanced.toRunning htwin' hleast (by
            intro s hs
            exact hroom s (by rw [Nat.succ_eq_add_one, run_replicate_succ, hstep, ← hs]))
        refine ⟨e, e', ?_, hrunning, htwin'', ?_, ?_⟩
        · rw [Nat.succ_eq_add_one, run_replicate_succ, hstep, ← hrun]
        · rw [hpasses, hadvanced.passes_eq]
          omega
        · rw [hstep', Nat.succ_eq_add_one]
          simpa only [Nat.add_right_cancel_iff] using hruns
      · refine absurd rfl (hroom ⟨.trap, s⟩ ?_)
        rw [Nat.succ_eq_add_one, run_replicate_succ, hstep]

/-- The last of some steps takes a turn of the loop and at most one run of the initializer. -/
theorem exists_run_before {n : Nat} (h : m.Running t led k) {o : Machine}
    (hrun : m.run (List.replicate (n + 1) .step) = .ok o) :
    ∃ b, m.run (List.replicate n .step) = .ok b ∧
      o.bus.cycles.toNat ≤
        b.bus.cycles.toNat + (passCycles k.cyclesPerNop + t.startupCycles) := by
  induction n generalizing m with
  | zero =>
    rw [run_replicate_succ] at hrun
    rcases Machine.step_twins h (.withBus m rfl) with
      ⟨c, -, restarts, hstep, -, -, hle, hadvanced⟩ | ⟨s, -, hstep, -⟩
    · rw [hstep] at hrun
      cases hrun
      have hrestart := Nat.mul_le_mul_right t.startupCycles hle
      refine ⟨m, rfl, ?_⟩
      rw [hadvanced.cycles_eq]
      omega
    · rw [hstep] at hrun
      cases hrun
  | succ n ih =>
    rw [run_replicate_succ] at hrun
    rcases Machine.step_twins h (.withBus m rfl) with
      ⟨c, -, restarts, hstep, -, -, -, hadvanced⟩ | ⟨s, -, hstep, -⟩
    · rw [hstep] at hrun
      obtain ⟨b, hb, hcycles⟩ := ih hadvanced.toRunning hrun
      exact ⟨b, by rw [run_replicate_succ, hstep, ← hb], hcycles⟩
    · rw [hstep] at hrun
      cases hrun

/-- The firmware's LED is on one of eight bits. -/
theorem bit_lt_of_led {setup : Setup} (hbit : ∀ pin ∈ setup.led, pin.bit < 8)
    (hled : (setup.led <|> firmwareLed? t setup.chip) = some led) : led.bit < 8 := by
  cases hdeclared : setup.led with
  | some pin =>
    rw [hdeclared] at hled
    cases hled
    exact hbit led hdeclared
  | none =>
    rw [hdeclared] at hled
    obtain ⟨l, -, rfl⟩ := Option.map_eq_some_iff.mp hled
    change t.led.bit < 8
    cases t <;> decide

/-- A run is reported on at its first boundary, as long as no step up to there overflows a counter.
    Its journal ends with the steps to that boundary. -/
theorem exists_report_of_isLeast (setup : Setup)
    (hled : (setup.led <|> firmwareLed? t setup.chip) = some led)
    (hboot : Machine.powerUp t setup.chip led = .ok m) (hbit : ∀ pin ∈ setup.led, pin.bit < 8)
    {maxPasses : UInt64} {n : Nat} (hn : IsLeast {j | Boundary m maxPasses.toNat maxCycles j} n)
    (hroom : ∀ s, m.run (List.replicate n .step) = .error s → s.halt ≠ .trap) :
    ∃ o r, m.run (List.replicate n .step) = .ok o ∧
      (simulate t setup maxPasses maxCycles).result = .ok r ∧
      r.passes.toNat = n ∧
      r.cycles = o.bus.cycles ∧
      r.stopReason = (if n = maxPasses.toNat then .maxPasses else .maxCycles) ∧
      r.fault = none ∧
      (simulate t setup maxPasses maxCycles).journal.events = o.bus.journal.events ++ [.stop] := by
  obtain ⟨k, hrunning, hports, -, hpasses⟩ := Machine.running_of_powerUp hboot
  obtain ⟨l, hport⟩ := Machine.exists_port_of_powerUp hboot
  have hledbit : led.bit < 8 := bit_lt_of_led hbit hled
  have hnoted := Bus.view_note m.bus (.running m.target maxPasses)
  obtain ⟨o, o', hrun, hend, htwin, hcount, hruns⟩ :=
    runPasses_of_isLeast hrunning (.withBus m hnoted) hn hroom
  obtain ⟨r, hreport, hreason, hfault, hpasses', hcycles⟩ := exists_report_of_running
    (((hend.twin htwin).stop).twin (.withBus _ (Bus.view_note _ _))) hports hport hledbit
    (if n = maxPasses.toNat then .maxPasses else .maxCycles) none
  have hlast : o'.bus.cycles = o.bus.cycles := Bus.cycles_eq_of_view htwin.view_eq
  refine ⟨o, r, hrun, ?_, ?_, hcycles.trans hlast, hreason, hfault, ?_⟩
  · rw [simulate_eq_of_powerUp setup hled hboot, fromBoot]
    simp only [hruns]
    exact hreport
  · have hmade : r.passes = o.passes := hpasses'.trans htwin.passes_eq
    rw [hmade, hcount, hpasses, UInt64.toNat_zero, Nat.zero_add]
  · have hevents : o'.bus.journal.events = o.bus.journal.events :=
      congrArg View.events htwin.view_eq
    rw [simulate_eq_of_powerUp setup hled hboot, fromBoot]
    simp only [hruns]
    rw [← hevents, ← Journal.events_push_event]
    exact Journal.events_push_note _ _

/-- A run ends at the first boundary between two turns of the loop at which it has made as many
    turns as it may or at which enough cycles have gone by; the first counts where both hold. So it
    goes past its limit of cycles by less than a turn and one run of the initializer. The journal
    ends with the steps up to that boundary, after which no other is begun. Whether the descriptor
    passes the checks is of no matter, nor what the limits are, as long as the chip boots and no
    counter overflows in these steps. -/
theorem simulate_of_isLeast (setup : Setup)
    (hled : (setup.led <|> firmwareLed? t setup.chip) = some led)
    (hboot : Machine.powerUp t setup.chip led = .ok m) (hbit : ∀ pin ∈ setup.led, pin.bit < 8)
    {maxPasses : UInt64} {n : Nat}
    (hn : IsLeast {j | j = maxPasses.toNat ∨ ∃ o, m.run (List.replicate j .step) = .ok o ∧
      ∃ limit ∈ maxCycles, limit ≤ o.bus.cycles} n)
    (hroom : ∀ s, m.run (List.replicate n .step) = .error s → s.halt ≠ .trap) :
    ∃ o r, m.run (List.replicate n .step) = .ok o ∧
      (simulate t setup maxPasses maxCycles).result = .ok r ∧
      r.passes.toNat = n ∧
      r.cycles = o.bus.cycles ∧
      r.stopReason = (if n = maxPasses.toNat then .maxPasses else .maxCycles) ∧
      r.fault = none ∧
      (∀ limit ∈ maxCycles, ∀ j, n = j + 1 →
        ∃ b, m.run (List.replicate j .step) = .ok b ∧ b.bus.cycles < limit ∧
          r.cycles.toNat < limit.toNat +
            (passCycles setup.chip.cyclesPerDelayIteration + t.startupCycles)) ∧
      (simulate t setup maxPasses maxCycles).journal.events = o.bus.journal.events ++ [.stop] := by
  have hleast : IsLeast {j | Boundary m maxPasses.toNat maxCycles j} n := by
    simpa only [Boundary, Reached, UInt64.le_iff_toNat_le] using hn
  obtain ⟨o, r, hrun, hresult, hpasses, hcycles, hreason, hfault, hevents⟩ :=
    exists_report_of_isLeast setup hled hboot hbit hleast hroom
  refine ⟨o, r, hrun, hresult, hpasses, hcycles, hreason, hfault, ?_, hevents⟩
  rintro limit hlimit j rfl
  obtain ⟨k, hrunning, -, hpace, -⟩ := Machine.running_of_powerUp hboot
  obtain ⟨b, hb, hle⟩ := exists_run_before hrunning hrun
  have hlt : b.bus.cycles < limit := by
    by_contra hreached
    have hearlier := hn.2 (.inr ⟨b, hb, limit, hlimit, UInt64.not_lt.mp hreached⟩)
    exact absurd hearlier (Nat.not_succ_le_self j)
  have hnat := UInt64.lt_iff_toNat_lt.mp hlt
  refine ⟨b, hb, hlt, ?_⟩
  rw [hcycles, ← hpace]
  omega

/-- With its watchdog on the 14-pin part is at 3006 cycles after one turn of the loop and at 6012
    after two, since the second ends in a restart. Two turns may be made, and 3007 cycles are spent
    at the end of the second as well. -/
theorem simulate_of_isLeast_guarded :
    ∃ m o r, Machine.powerUp .pic16f1823 (.guarded 4000) ⟨"portc", 0⟩ = .ok m ∧
      m.run (List.replicate 2 .step) = .ok o ∧
      (simulate .pic16f1823 ⟨.guarded 4000, none⟩ 2 (some 3007)).result = .ok r ∧
      r.passes.toNat = 2 ∧ r.cycles.toNat = 6012 ∧ r.stopReason = .maxPasses := by
  have hbooted : ∃ m, Machine.powerUp .pic16f1823 (.guarded 4000) ⟨"portc", 0⟩ = .ok m :=
    Machine.exists_powerUp (by decide +kernel)
  obtain ⟨m, hboot⟩ := hbooted
  obtain ⟨size, hsound, hready⟩ := Machine.booted_of_powerUp wired_guarded.check hboot
  have hcount : ∀ j ≤ 2, ∃ o, m.run (List.replicate j .step) = .ok o ∧
      o.bus.cycles.toNat = (Descriptor.guarded 4000).cyclesWithin .pic16f1823 j := by
    intro j hj
    obtain ⟨o, hrun, hlast, -⟩ := (hready.onSchedule hsound).exists_run j
      (Nat.lt_of_le_of_lt (Descriptor.cyclesWithin_mono _ _ (by omega)) (by decide :
        (Descriptor.guarded 4000).cyclesWithin .pic16f1823 2 < UInt64.size))
    rw [Nat.zero_add] at hlast
    exact ⟨o, hrun, hlast.cycles_eq⟩
  obtain ⟨o, hrun, hcycles⟩ := hcount 2 (Nat.le_refl 2)
  have hleast : IsLeast {j | j = (2 : UInt64).toNat ∨ ∃ o,
      m.run (List.replicate j .step) = .ok o ∧ ∃ limit ∈ some (3007 : UInt64),
        limit ≤ o.bus.cycles} 2 := by
    refine ⟨.inl rfl, ?_⟩
    rintro j (rfl | ⟨c, hc, limit, hlimit, hle⟩)
    · exact Nat.le_refl 2
    · by_contra hlt
      obtain ⟨c', hc', hcycles'⟩ := hcount j (by omega)
      obtain rfl : c = c' := Except.ok.inj (hc.symm.trans hc')
      obtain rfl := Option.some.inj hlimit
      have hspent : 3007 ≤ c.bus.cycles.toNat := UInt64.le_iff_toNat_le.mp hle
      have hearly : (Descriptor.guarded 4000).cyclesWithin .pic16f1823 1 = 3006 := by decide
      have hmono := (Descriptor.guarded 4000).cyclesWithin_mono .pic16f1823
        (show j ≤ 1 by omega)
      omega
  obtain ⟨o', r, hrun', hresult, hpasses, hcycles', hreason, -⟩ :=
    simulate_of_isLeast ⟨.guarded 4000, none⟩ rfl hboot (by simp) hleast
      fun s hs => nomatch hrun.symm.trans hs
  obtain rfl : o = o' := Except.ok.inj (hrun.symm.trans hrun')
  refine ⟨m, o, r, hboot, hrun, hresult, hpasses, ?_, hreason⟩
  rw [hcycles', hcycles]
  decide

end LedBench.Run
