import LedBench.CommandLine.Summary
import LedBench.Proofs.Led.Toggles
import LedBench.Proofs.Trace.Runs

namespace LedBench.Counter

/-- Where the sum as a whole is a 64-bit number, so is every partial sum. -/
theorem sum?_eq_some {counts : List UInt64} {total : UInt64} :
    sum? counts = some total ↔ total.toNat = (counts.map UInt64.toNat).sum := by
  have hfrom : ∀ start : UInt64, counts.foldlM add? start = some total ↔
      total.toNat = start.toNat + (counts.map UInt64.toNat).sum := by
    induction counts with
    | nil =>
      intro start
      simp [← UInt64.toNat_inj, eq_comm]
    | cons n rest ih =>
      intro start
      rw [List.foldlM_cons, List.map_cons, List.sum_cons, ← Nat.add_assoc]
      cases hfirst : add? start n with
      | some next =>
        rw [← add?_eq_some.mp hfirst]
        exact ih next
      | none =>
        have hfull := add?_eq_none.mp hfirst
        have hlt : total.toNat < UInt64.size := total.toNat_lt
        simp only [Option.bind_eq_bind, Option.bind_none, reduceCtorEq, false_iff]
        omega
  rw [sum?, hfrom 0, UInt64.toNat_zero, Nat.zero_add]

end LedBench.Counter

namespace LedBench.Bench

open Chip Firmware

namespace Trace

/-- Where an interval begins if the next change of the pin ends one. -/
def mark? (t : Trace) : Option UInt64 :=
  if t.restarting then none else lastToggle? t.events.toList

theorem mark?_push (t : Trace) (e : PinEvent) (restarting : Bool) :
    mark? { t with events := t.events.push e, restarting } =
      if restarting || e.reset then none else some e.cycle := by
  cases restarting <;> cases hreset : e.reset <;> simp [mark?, lastToggle?, hreset]

/-- A change of the pin ends the interval that has begun, and is counted and begins the next one
    unless it is taken for a restart's. -/
theorem observe_pin {t : Trace} {id : String} (hpin : t.pin = ⟨id, 0⟩) (level : Bool)
    (cycle : UInt64) :
    (t.observe (.pin id 0 level cycle)).gaps = t.gaps ++ t.mark?.toList.map (·, cycle) ∧
      (t.observe (.pin id 0 level cycle)).mark? = (if t.restarting then none else some cycle) ∧
      (t.observe (.pin id 0 level cycle)).toggles = t.toggles + if t.restarting then 0 else 1 := by
  have hself : id = t.pin.port ∧ (0 : UInt8) = t.pin.bit := by
    rw [hpin]
    exact ⟨rfl, rfl⟩
  rw [observe, if_pos hself, gaps_push, mark?_push, mark?]
  cases t.restarting <;> simp [toggles]

/-- An event that is not counted as a toggle ends no interval, and begins none. -/
theorem observe_of_toggles_eq {t : Trace} {e : Event} (h : (t.observe e).toggles = t.toggles) :
    (t.observe e).gaps = t.gaps ∧ (t.mark? = none → (t.observe e).mark? = none) := by
  cases e with
  | reset cause => exact ⟨rfl, fun _ => rfl⟩
  | pin port bit level cycle =>
    rw [observe] at h ⊢
    split at h
    · rename_i hself
      cases hrestarting : t.restarting with
      | false =>
        -- It would have been counted.
        simp [toggles, hrestarting] at h
      | true =>
        rw [if_pos hself, gaps_push, mark?_push]
        simp
    · rename_i hother
      rw [if_neg hother]
      exact ⟨rfl, id⟩
  | _ => exact ⟨rfl, id⟩

theorem toggles_le_observe (t : Trace) (e : Event) : t.toggles ≤ (t.observe e).toggles := by
  cases e with
  | pin port bit level cycle =>
    rw [observe]
    split
    · simp [toggles]
    · exact Nat.le_refl _
  | _ => exact Nat.le_refl _

theorem toggles_le_foldl (t : Trace) (events : List Event) :
    t.toggles ≤ (events.foldl observe t).toggles := by
  induction events generalizing t with
  | nil => exact Nat.le_refl _
  | cons e rest ih => exact Nat.le_trans (toggles_le_observe t e) (ih (t.observe e))

theorem foldl_of_toggles_eq {t : Trace} {events : List Event}
    (h : (events.foldl observe t).toggles = t.toggles) :
    (events.foldl observe t).gaps = t.gaps ∧
      (t.mark? = none → (events.foldl observe t).mark? = none) := by
  induction events generalizing t with
  | nil => exact ⟨rfl, id⟩
  | cons e rest ih =>
    rw [List.foldl_cons] at h ⊢
    have hfirst := toggles_le_observe t e
    have hrest := toggles_le_foldl (t.observe e) rest
    obtain ⟨hgaps, hmark⟩ := observe_of_toggles_eq (t := t) (e := e) (by omega)
    obtain ⟨hgaps', hmark'⟩ := ih (t := t.observe e) (by omega)
    exact ⟨hgaps'.trans hgaps, fun hnone => hmark' (hmark hnone)⟩

/-- A reset and what is not counted after it end no interval, and begin none. -/
theorem foldl_reset {t : Trace} {cause : ResetCause} {rest : List Event}
    (htoggles : ((.reset cause :: rest).foldl observe t).toggles = t.toggles) :
    ((.reset cause :: rest).foldl observe t).gaps = t.gaps ∧
      ((.reset cause :: rest).foldl observe t).mark? = none := by
  rw [List.foldl_cons] at htoggles ⊢
  obtain ⟨hgaps, hmark⟩ := foldl_of_toggles_eq (t := t.observe (.reset cause)) htoggles
  exact ⟨hgaps, hmark rfl⟩

/-- A trace at this cycle count, after so many resets, in which every interval is of this length.
    One that has begun will be, if the next turn of the loop ends it. Every toggle ends one, but
    for the first after each reset and the first of all. -/
structure Paced (pace now resets : Nat) (t : Trace) : Prop where
  gap_eq : ∀ gap ∈ t.gaps, gap.2.toNat = gap.1.toNat + pace
  mark_eq : ∀ start, t.mark? = some start → start.toNat + pace = now + 2
  length_le : t.gaps.length * pace ≤ now
  toggles_le : t.toggles + (if t.mark? = none then 1 else 0) ≤ t.gaps.length + resets + 1

variable {pace now resets : Nat} {t : Trace}

/-- A turn of the loop changes the pin at its second cycle. -/
theorem Paced.pass (h : t.Paced pace now resets) {id : String} (hpin : t.pin = ⟨id, 0⟩)
    (level : Bool) {cycle : UInt64} (hcycle : cycle.toNat = now + 2) :
    (t.observe (.pin id 0 level cycle)).Paced pace (now + pace) resets := by
  obtain ⟨hgaps, hmark, htoggles⟩ := observe_pin hpin level cycle
  refine ⟨?_, ?_, ?_, ?_⟩
  · intro gap hgap
    rw [hgaps, List.mem_append, List.mem_map] at hgap
    rcases hgap with hgap | ⟨start, hstart, rfl⟩
    · exact h.gap_eq gap hgap
    · rw [hcycle, h.mark_eq start (Option.mem_toList.mp hstart)]
  · intro start hstart
    rw [hmark] at hstart
    split at hstart
    · cases hstart
    · cases hstart
      omega
  · have hlength := h.length_le
    have hone : t.mark?.toList.length ≤ 1 := by cases t.mark? <;> simp
    have hpace := Nat.mul_le_mul_right pace hone
    rw [hgaps, List.length_append, List.length_map, Nat.add_mul]
    omega
  · -- The toggle ends an interval, or it is the first since a reset, for which there is room.
    have hbefore := h.toggles_le
    rw [hgaps, hmark, htoggles, List.length_append, List.length_map]
    cases hrestarting : t.restarting with
    | true =>
      have hnone : t.mark? = none := by rw [mark?, hrestarting, if_pos rfl]
      simpa [hnone] using hbefore
    | false => cases hstart : t.mark? <;> simp [hstart] at hbefore ⊢ <;> omega

/-- What is not counted after a reset leaves the intervals as they are. -/
theorem Paced.restart (h : t.Paced pace now resets) {cause : ResetCause} {rest : List Event}
    (htoggles : ((.reset cause :: rest).foldl observe t).toggles = t.toggles) {later : Nat}
    (hlater : now ≤ later) :
    ((.reset cause :: rest).foldl observe t).Paced pace later (resets + 1) := by
  obtain ⟨hgaps, hmark⟩ := foldl_reset htoggles
  have hbefore := h.toggles_le
  refine ⟨?_, ?_, ?_, ?_⟩
  · rw [hgaps]
    exact h.gap_eq
  · rw [hmark]
    exact fun _ hstart => nomatch hstart
  · rw [hgaps]
    exact Nat.le_trans h.length_le hlater
  · rw [hgaps, hmark, htoggles, if_pos rfl]
    omega

theorem paced_of_toggles_eq_zero (hgaps : t.gaps = []) (hmark : t.mark? = none)
    (htoggles : t.toggles = 0) : t.Paced pace now 0 where
  gap_eq := by simp [hgaps]
  mark_eq := by simp [hmark]
  length_le := by simp [hgaps]
  toggles_le := by simp [hmark, htoggles]

/-- Such a trace measures its intervals without a wrap, and they can be added up. -/
theorem Paced.exists_intervals (h : t.Paced pace now resets) (hnow : now < UInt64.size) :
    ∃ intervals total, t.intervals? = some intervals ∧ (∀ n ∈ intervals, n.toNat = pace) ∧
      t.toggles ≤ intervals.length + resets + 1 ∧
      Counter.sum? intervals = some total ∧ total.toNat ≤ now := by
  have hsub : ∀ gap ∈ t.gaps, Counter.sub? gap.2 gap.1 = some (gap.2 - gap.1) ∧
      (gap.2 - gap.1).toNat = pace := by
    intro gap hgap
    have hlt : gap.2.toNat < UInt64.size := gap.2.toNat_lt
    have hpace := h.gap_eq gap hgap
    have hle : gap.1 ≤ gap.2 := UInt64.le_iff_toNat_le.mpr (by omega)
    refine ⟨if_pos hle, ?_⟩
    rw [UInt64.toNat_sub_of_le _ _ hle]
    omega
  have htaken : t.intervals? = some (t.gaps.map fun gap => gap.2 - gap.1) := by
    rw [intervals?_eq]
    exact mapM_eq_some fun gap hgap => (hsub gap hgap).1
  have hall : ∀ n ∈ t.gaps.map fun gap => gap.2 - gap.1, n.toNat = pace := by
    simpa only [List.forall_mem_map] using fun gap hgap => (hsub gap hgap).2
  have hlength : (t.gaps.map fun gap => gap.2 - gap.1).length = t.gaps.length := List.length_map _
  generalize t.gaps.map _ = intervals at htaken hall hlength
  have hsum : (intervals.map UInt64.toNat).sum ≤ now := by
    rw [List.map_eq_replicate_iff.mpr hall, List.sum_replicate_nat, hlength]
    exact h.length_le
  have htotal : (UInt64.ofNat (intervals.map UInt64.toNat).sum).toNat =
      (intervals.map UInt64.toNat).sum :=
    UInt64.toNat_ofNat_of_lt' (Nat.lt_of_le_of_lt hsum hnow)
  refine ⟨intervals, _, htaken, hall, ?_, Counter.sum?_eq_some.mpr htotal, by rwa [htotal]⟩
  rw [hlength]
  exact Nat.le_trans (Nat.le_add_right _ _) h.toggles_le

end Trace

namespace Wiring

variable {t : Target} {led : PinRef} {k : Decoding} {l : PortLayout} {i : Nat}

theorem paced_restarting (h : Wiring t led k l i) {trace : Trace} {pace now resets : Nat}
    (htrace : trace.Paced pace now resets) (hpin : trace.pin = led) (cause : ResetCause)
    (level : Bool) (cycle : UInt64) {later : Nat} (hlater : now ≤ later) :
    ((Lamp.restarting t l cause (Lamp.driven level) cycle).foldl Trace.observe trace).Paced
      pace later (resets + 1) := by
  have htoggles := congrArg Tally.toggles (h.hears_restarting cause level cycle trace hpin)
  rw [Lamp.restarting, List.cons_append] at htoggles ⊢
  exact htrace.restart htoggles hlater

end Wiring

/-- The restarts among these turns. -/
def restarts (turns : List Turn) : Nat := turns.countP (· ≠ .pass)

namespace Machine

variable {t : Target} {d : Descriptor} {led : PinRef} {size : UInt64} {l : PortLayout} {i : Nat}
  {m : Machine}

/-- A machine that has done these turns, and whose trace has measured turns of the loop and
    nothing else. -/
structure Paced (t : Target) (d : Descriptor) (led : PinRef) (size : UInt64) (l : PortLayout)
    (i : Nat) (done : List Turn) (m : Machine) : Prop extends Tracking t d led size l i m where
  paced : m.ledTrace.Paced (passCycles d.cyclesPerDelayIteration) m.bus.cycles.toNat
    (restarts done)

/-- What a command shows keeps the trace in step with the cycles that the command takes. -/
theorem Tracking.paced_shown (h : m.Tracking t d led size l i) {resets : Nat}
    (hpaced : m.ledTrace.Paced (passCycles d.cyclesPerDelayIteration) m.bus.cycles.toNat resets)
    (b : Bus) (c : Command) (hroom : m.bus.cycles.toNat + m.cost c < UInt64.size) :
    ((m.shown l c).foldl Trace.observe m.ledTrace).Paced (passCycles d.cyclesPerDelayIteration)
      (m.bus.cycles.toNat + m.cost c) (resets + restarts (c.turns m (m.after b c))) := by
  have hpin : m.ledTrace.pin = led := m.pin_ledTrace.trans h.led_eq
  rw [turns_after]
  cases c with
  | step =>
    rw [cost_step, h.cyclesPerNop_eq] at hroom ⊢
    have hcycle : (m.bus.cycles + 2).toNat = m.bus.cycles.toNat + 2 := by
      have hpass := two_le_passCycles d.cyclesPerDelayIteration
      rw [UInt64.toNat_add]
      exact Nat.mod_eq_of_lt (Nat.lt_of_le_of_lt (by simp; omega) hroom)
    have hpass := hpaced.pass (hpin.trans h.wiring.pin_eq) (!m.program.level) hcycle
    rw [shown, List.foldl_append, ← Nat.add_assoc]
    cases m.expires with
    | false =>
      simp only [Bool.false_eq_true, if_false]
      exact hpass
    | true =>
      simp only [if_true]
      rw [h.target_eq]
      exact h.wiring.paced_restarting hpass ((Trace.pin_observe _ _).trans hpin) .watchdog _ _
        (Nat.le_add_right _ _)
  | reset =>
    rw [shown, h.target_eq]
    exact h.wiring.paced_restarting hpaced hpin .powerOn m.program.level _ (Nat.le_add_right _ _)
  | burn word => exact hpaced
  | stop => exact hpaced

theorem Paced.exists_perform {done : List Turn} (h : m.Paced t d led size l i done) (c : Command)
    (hroom : m.bus.cycles.toNat + m.cost c < UInt64.size) :
    ∃ m', m.perform c = .ok m' ∧ m'.Paced t d led size l i (done ++ c.turns m m') := by
  obtain ⟨b, hperform, htracking, hevents⟩ := h.toTracking.exists_perform c hroom
  refine ⟨_, hperform, htracking, ?_⟩
  rw [ledTrace_after hevents, h.cycles_of_perform hroom hperform, restarts, List.countP_append]
  exact h.paced_shown h.paced b c hroom

theorem Booted.paced (h : m.Booted t d led size)
    (hwiring : Wiring t led (Build.ofDescriptor d size).decoding l i) :
    m.Paced t d led size l i [] := by
  obtain ⟨htracking, hevents⟩ := h.tracking hwiring
  have hjournal : Journal.events m.bus.journal = bootShown t l := hevents
  have htoggles := congrArg Tally.toggles hwiring.tally_bootShown
  refine ⟨htracking, ?_⟩
  rw [ledTrace, h.led_eq, hjournal]
  obtain ⟨hgaps, hmark⟩ := Trace.foldl_reset (t := { pin := led }) htoggles
  exact Trace.paced_of_toggles_eq_zero hgaps hmark htoggles

/-- On a wired chip every interval that a trace of the LED measures is as long as a turn of the
    loop, whatever the watchdog and the owner reset meanwhile. Only the first toggle after the boot
    or a reset ends none. The intervals of a run do not add up to more than its cycles, so that
    their mean is defined. -/
theorem intervals?_of_wired {t : Target} {d : Descriptor} {led : PinRef} {m : Machine}
    (hwired : Wired t d led) (hboot : powerUp t d led = .ok m) {cmds : List Command}
    (hfits : m.Fits cmds) :
    ∃ m' intervals total, m.run cmds = .ok m' ∧ m'.ledTrace.intervals? = some intervals ∧
      (∀ n ∈ intervals, n.toNat = 2 + 3000 * d.cyclesPerDelayIteration.toNat) ∧
      m'.ledTrace.toggles ≤ intervals.length + restarts (m.turns cmds) + 1 ∧
      Counter.sum? intervals = some total ∧ total ≤ m'.bus.cycles ∧
      (CommandLine.meanInterval? intervals).isSome := by
  obtain ⟨size, hsound, hbooted⟩ := booted_of_powerUp hwired.check hboot
  obtain ⟨l, i, -, hwiring⟩ := hwired.exists_wiring hsound
  obtain ⟨m', hrun, hpaced⟩ := exists_run_of_step
    (fun done m c (h : m.Paced t d led size l i done) => h.exists_perform c)
    (hbooted.paced hwiring) hfits
  obtain ⟨intervals, total, hintervals, hall, htoggles, hsum, hle⟩ :=
    hpaced.paced.exists_intervals m'.bus.cycles.toNat_lt
  refine ⟨m', intervals, total, hrun, hintervals, hall, htoggles, hsum,
    UInt64.le_iff_toNat_le.mpr hle, ?_⟩
  rw [CommandLine.meanInterval?, hsum]
  split <;> rfl

/-- Of three turns, after the second of which the watchdog resets the part, the first two are
    an interval of 3002 cycles apart. -/
theorem intervals?_of_wired_guarded :
    ∃ m m' intervals, powerUp .pic16f1823 (.guarded 4000) ⟨"portc", 0⟩ = .ok m ∧
      m.run [.step, .step, .step] = .ok m' ∧ m'.ledTrace.intervals? = some intervals ∧
      intervals ≠ [] ∧ ∀ n ∈ intervals, n.toNat = 3002 := by
  have hbooted : ∃ m, powerUp .pic16f1823 (.guarded 4000) ⟨"portc", 0⟩ = .ok m :=
    exists_powerUp (by decide +kernel)
  obtain ⟨m, hboot⟩ := hbooted
  obtain ⟨size, hsound, hready⟩ := booted_of_powerUp wired_guarded.check hboot
  obtain ⟨l, i, hport, hwiring⟩ := wired_guarded.exists_wiring hsound
  have hfits : m.Fits [.step, .step, .step] := hready.fits (by decide)
  obtain ⟨m', intervals, total, hrun, hintervals, hall, htoggles, -⟩ :=
    intervals?_of_wired wired_guarded hboot hfits
  obtain ⟨-, -, -, hturns⟩ := (hready.onSchedule hsound).exists_run 3 (by decide)
  have hdone : m.turns [.step, .step, .step] = [.pass, .pass, .restart .watchdog, .pass] := hturns
  obtain ⟨n, hrun', htraced⟩ := exists_run_of_step
    (fun done m c (h : m.Traced _ _ _ size l i done) => h.exists_perform c)
    (hready.traced hwiring) hfits
  obtain rfl : m' = n := Except.ok.inj (hrun.symm.trans hrun')
  obtain rfl := Option.some.inj hport
  rw [hdone] at htraced htoggles
  have hthree : m'.ledTrace.toggles = 3 := congrArg Tally.toggles htraced.tally_eq
  refine ⟨m, m', intervals, hboot, hrun, hintervals, ?_, hall⟩
  rintro rfl
  rw [hthree] at htoggles
  exact absurd htoggles (by decide)

end Machine

end LedBench.Bench
