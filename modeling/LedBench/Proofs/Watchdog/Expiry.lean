import LedBench.Proofs.Bus.Residue
import LedBench.Proofs.Bus.Task

namespace LedBench.Bench

namespace Watchdog

/-- A watchdog that runs has a period. -/
def HasPeriod (w : Watchdog) : Prop := w.enabled = true → 0 < w.periodCycles.toNat

theorem hasPeriod_configure (w : Watchdog) (word : UInt16) : (w.configure word).HasPeriod := by
  intro henabled
  have hpos : 0 < w.periodCycles := of_decide_eq_true (Bool.and_eq_true_iff.mp henabled).2
  exact UInt64.lt_iff_toNat_lt.mp hpos

end Watchdog

namespace Clock

/-- No time at all is nothing to the watchdog, unless the period is over. -/
theorem elapsed_zero {k : Clock} (hdue : k.watchdog.due 0 = false) : Elapsed k k 0 :=
  ⟨rfl, rfl, rfl, rfl, rfl, by rw [hdue, Bool.or_false], Nat.le_refl _, fun _ _ => rfl⟩

/-- A reset starts a period of full length. -/
theorem elapsed_reset {k : Clock} (hperiod : k.watchdog.HasPeriod) : Elapsed k.reset k.reset 0 := by
  refine elapsed_zero ?_
  rw [← Bool.not_eq_true, Watchdog.due_iff]
  rintro ⟨henabled, hle⟩
  have hpos : 0 < k.watchdog.periodCycles.toNat := hperiod henabled
  change k.watchdog.periodCycles.toNat ≤ 0 + 0 at hle
  omega

end Clock

/-- What lets a period of the watchdog go on, and a request stand: all but a reset, a configuration
    word, and the question whether a reset was asked for. -/
def Task.patient : Task → Bool
  | .handling (.op (.reset _)) => false
  | .handling (.op (.burn _)) => false
  | .handling (.op .takeResetRequest) => false
  | _ => true

namespace View

variable {v : View} {k : Clock} {total : Nat}

/-- A task without cycles leaves the watchdog alone, and one with cycles lets it count them. -/
theorem elapsed_handle (helapsed : k.Elapsed v.clock total) (hsound : v.clock.Sound) {x : Handling}
    (hpatient : (Task.handling x).patient = true)
    (hroom : v.clock.cycles.toNat + x.cycles v.clock.cyclesPerNop < UInt64.size) :
    k.Elapsed (v.handle x).clock (total + x.cycles v.clock.cyclesPerNop) := by
  cases x with
  | setBits addr mask => exact helapsed.trans (elapsed_modify hsound hroom addr (· ||| mask)).1
  | toggleBits addr mask => exact helapsed.trans (elapsed_modify hsound hroom addr (· ^^^ mask)).1
  | op o =>
    cases o with
    | read addr =>
      rw [handle, operate, clock_read]
      exact helapsed.trans (Clock.elapsed_access hsound hroom).1
    | write addr value =>
      rw [handle, operate, clock_write]
      exact helapsed.trans (Clock.elapsed_access hsound hroom).1
    | nop => exact helapsed.trans (Clock.elapsed_nop hsound hroom)
    | poke addr value =>
      rw [handle, clock_operate_poke]
      exact helapsed
    | takeFault => exact helapsed
    | reset cause | burn word | takeResetRequest => cases hpatient

theorem elapsed_undertake (helapsed : k.Elapsed v.clock total) (hsound : v.clock.Sound) {task : Task}
    (hpatient : task.patient = true)
    (hroom : v.clock.cycles.toNat +
      (task.accesses.length + task.nops * v.clock.cyclesPerNop.toNat) < UInt64.size) :
    k.Elapsed (v.undertake task).clock
      (total + (task.accesses.length + task.nops * v.clock.cyclesPerNop.toNat)) := by
  cases task with
  | handling x =>
    have hhandle := elapsed_handle helapsed hsound hpatient
    rw [x.cycles_eq] at hhandle
    exact hhandle hroom
  | delay count =>
    simp only [Task.accesses, Task.nops, List.length_nil, Nat.zero_add] at hroom ⊢
    rcases Nat.eq_zero_or_pos count with rfl | hpos
    · rw [Nat.zero_mul]
      exact helapsed
    · exact helapsed.trans (Clock.elapsed_delay hsound hpos hroom)

/-- Patient tasks are seen by the watchdog as the sum of their cycles. -/
theorem elapsed_foldl_undertake (helapsed : k.Elapsed v.clock total) (hsound : v.clock.Sound)
    {tasks : List Task} (hpatient : ∀ task ∈ tasks, task.patient = true)
    (hroom : v.clock.cycles.toNat + Task.cycles v.clock.cyclesPerNop tasks < UInt64.size) :
    k.Elapsed (tasks.foldl undertake v).clock (total + Task.cycles v.clock.cyclesPerNop tasks) := by
  induction tasks generalizing v total with
  | nil => simpa [Task.cycles] using helapsed
  | cons task rest ih =>
    rw [Task.cycles_cons] at hroom ⊢
    obtain ⟨hsound', hcycles⟩ := clock_undertake hsound task (by omega)
    have hpace : (v.undertake task).clock.cyclesPerNop = v.clock.cyclesPerNop :=
      congrArg Build.cyclesPerNop (build_undertake v task)
    have hstep := elapsed_undertake helapsed hsound (hpatient task List.mem_cons_self) (by omega)
    have hrest := ih hstep hsound' (fun t ht => hpatient t (List.mem_cons_of_mem _ ht)) (by
      rw [hcycles, hpace]
      omega)
    rwa [hpace, Nat.add_assoc] at hrest

/-- Only a configuration word starts or stops a watchdog, and it starts none without a period. -/
theorem hasPeriod_undertake (h : v.clock.watchdog.HasPeriod) (task : Task) :
    (v.undertake task).clock.watchdog.HasPeriod := by
  have hbuild := congrArg Build.periodCycles (build_undertake v task)
  have hkeeps : (v.undertake task).fuses = v.fuses →
      (v.undertake task).clock.watchdog.HasPeriod := by
    intro hfuses henabled
    have henabled' : v.clock.watchdog.enabled = true :=
      (congrArg Fuses.watchdog hfuses).symm.trans henabled
    exact (congrArg UInt64.toNat hbuild).symm ▸ h henabled'
  cases task with
  | delay count => exact hkeeps (inert_fuses.delay (fun _ _ => rfl) v count)
  | handling x =>
    cases x with
    | setBits addr mask => exact hkeeps (inert_fuses.modify v addr (· ||| mask))
    | toggleBits addr mask => exact hkeeps (inert_fuses.modify v addr (· ^^^ mask))
    | op o =>
      cases o with
      | read addr => exact hkeeps (inert_fuses.read v addr)
      | write addr value => exact hkeeps (inert_fuses.write v addr value)
      | nop => exact hkeeps (inert_fuses.delay (fun _ _ => rfl) v 1)
      | poke addr value => exact hkeeps (inert_fuses.operate_poke v addr value)
      | burn word => exact v.clock.watchdog.hasPeriod_configure word
      | reset cause | takeFault | takeResetRequest => exact hkeeps rfl

theorem hasPeriod_foldl_undertake (h : v.clock.watchdog.HasPeriod) (tasks : List Task) :
    (tasks.foldl undertake v).clock.watchdog.HasPeriod := by
  induction tasks generalizing v with
  | nil => exact h
  | cons task rest ih => exact ih (hasPeriod_undertake h task)

end View

end LedBench.Bench
