import LedBench.Proofs.Bus.History

namespace LedBench.Bench

open Chip Firmware

/-- A task at a bus: to handle it once, or to wait for so many no-ops. -/
inductive Task where
  | handling (x : Handling)
  | delay (count : Nat)
  deriving DecidableEq, Repr

/-- The addresses of the program's accesses, in order. A change in place reads and then writes; what
    is done without an instruction is no access. -/
def Handling.accesses : Handling → List UInt16
  | .op (.read addr) => [addr]
  | .op (.write addr _) => [addr]
  | .op _ => []
  | .setBits addr _ => [addr, addr]
  | .toggleBits addr _ => [addr, addr]

def Handling.nops : Handling → Nat
  | .op .nop => 1
  | _ => 0

theorem Handling.cycles_eq (x : Handling) (cyclesPerNop : UInt64) :
    x.cycles cyclesPerNop = x.accesses.length + x.nops * cyclesPerNop.toNat := by
  cases x with
  | op o =>
    cases o with
    | read addr | write addr value =>
      change 1 = 1 + 0 * cyclesPerNop.toNat
      omega
    | nop =>
      change cyclesPerNop.toNat = 0 + 1 * cyclesPerNop.toNat
      omega
    | poke addr value | reset cause | burn word | takeFault | takeResetRequest =>
      change 0 = 0 + 0 * cyclesPerNop.toNat
      omega
  | setBits addr mask | toggleBits addr mask =>
    change 2 = 2 + 0 * cyclesPerNop.toNat
    omega

namespace Task

def run (b : Bus) : Task → Except Bus Bus
  | .handling x => x.run b
  | .delay count => Hardware.delay count b

def accesses : Task → List UInt16
  | .handling x => x.accesses
  | .delay _ => []

def nops : Task → Nat
  | .handling x => x.nops
  | .delay count => count

/-- The cycles of tasks: one for each access, and so many for each no-op. -/
def cycles (cyclesPerNop : UInt64) (tasks : List Task) : Nat :=
  (tasks.flatMap accesses).length + (tasks.map nops).sum * cyclesPerNop.toNat

theorem cycles_cons (cyclesPerNop : UInt64) (task : Task) (rest : List Task) :
    cycles cyclesPerNop (task :: rest) =
      task.accesses.length + task.nops * cyclesPerNop.toNat + cycles cyclesPerNop rest := by
  simp only [cycles, List.flatMap_cons, List.length_append, List.map_cons, List.sum_cons,
    Nat.add_mul]
  omega

end Task

namespace View

/-- The view after a task for which the cycle counter has room. -/
def undertake (v : View) : Task → View
  | .handling x => v.handle x
  | .delay count => v.delay count

theorem build_undertake (v : View) (task : Task) : (v.undertake task).build = v.build := by
  cases task with
  | handling x => exact build_handle v x
  | delay count => exact build_delay v count

/-- A wait takes so many no-ops, be they none. -/
private theorem clock_delay_sound {v : View} (hsound : v.clock.Sound) (count : Nat)
    (hroom : v.clock.cycles.toNat + count * v.clock.cyclesPerNop.toNat < UInt64.size) :
    (v.delay count).clock.Sound ∧
      (v.delay count).clock.cycles.toNat =
        v.clock.cycles.toNat + count * v.clock.cyclesPerNop.toNat := by
  refine ⟨(hsound.delay hroom).1, ?_⟩
  rcases Nat.eq_zero_or_pos count with rfl | hpos
  · simp [delay, Clock.delay]
  · exact (Clock.elapsed_delay hsound hpos hroom).cycles_eq

theorem clock_undertake {v : View} (hsound : v.clock.Sound) (task : Task)
    (hroom : v.clock.cycles.toNat +
      (task.accesses.length + task.nops * v.clock.cyclesPerNop.toNat) < UInt64.size) :
    (v.undertake task).clock.Sound ∧
      (v.undertake task).clock.cycles.toNat = v.clock.cycles.toNat +
        (task.accesses.length + task.nops * v.clock.cyclesPerNop.toNat) := by
  cases task with
  | handling x =>
    have hhandle := clock_handle hsound x
    rw [x.cycles_eq] at hhandle
    exact hhandle hroom
  | delay count =>
    have hdelay := clock_delay_sound hsound count
    simp only [Task.accesses, Task.nops, List.length_nil, Nat.zero_add] at hroom ⊢
    exact hdelay hroom

end View

theorem Task.run_takes {b : Bus} (hsound : b.clock.Sound) (task : Task) :
    b.Takes (task.accesses.length + task.nops * b.cyclesPerNop.toNat)
      (fun b' => b'.view = b.view.undertake task) (task.run b) := by
  cases task with
  | handling x =>
    have hrun := x.run_takes hsound
    rw [x.cycles_eq] at hrun
    exact hrun
  | delay count =>
    simp only [accesses, nops, List.length_nil, Nat.zero_add]
    exact Bus.delay_takes hsound count

namespace Bus

/-- Carries out tasks in order, up to the first that traps. -/
def carryOut : Bus → List Task → Except Bus Bus
  | b, [] => .ok b
  | b, task :: rest =>
    match task.run b with
    | .ok b => b.carryOut rest
    | .error b => .error b

/-- A bus of a chip that passes the checks, as the work on it since it was built has left it. -/
structure Reached (d : Descriptor) (size : UInt64) (b : Bus) : Prop where
  sound : b.clock.Sound
  build_eq : b.view.build = .ofDescriptor d size
  recalls : ∃ h, b.contents.Recalls d size h

variable {d : Descriptor} {size : UInt64} {b : Bus}

theorem exists_reached (hsound : d.Sound size) :
    ∃ b, ofDescriptor d = .ok b ∧ b.view = .powered d size ∧ b.Reached d size := by
  obtain ⟨b, hbus, hpowered⟩ := exists_ofDescriptor hsound
  refine ⟨b, hbus, hpowered, ?_, ?_, [], ?_⟩
  · rw [clock_eq_of_view hpowered]
    exact View.clock_sound_powered hsound
  · rw [hpowered, View.build_powered hsound]
  · rw [contents_eq_of_view hpowered]
    exact recalls_powered d size

theorem Reached.cyclesPerNop_eq (h : b.Reached d size) :
    b.cyclesPerNop = d.cyclesPerDelayIteration :=
  congrArg Build.cyclesPerNop h.build_eq

theorem Reached.decoding_eq (h : b.Reached d size) :
    b.contents.decoding = (Build.ofDescriptor d size).decoding :=
  congrArg Build.decoding h.build_eq

/-- A task for which the cycle counter has room is carried out. -/
theorem Reached.exists_run (hsound : d.Sound size) (h : b.Reached d size) (task : Task)
    (hroom : b.cycles.toNat +
      (task.accesses.length + task.nops * d.cyclesPerDelayIteration.toNat) < UInt64.size) :
    ∃ b', task.run b = .ok b' ∧ b'.view = b.view.undertake task ∧ b'.Reached d size ∧
      b'.cycles.toNat = b.cycles.toNat +
        (task.accesses.length + task.nops * d.cyclesPerDelayIteration.toNat) := by
  rw [← h.cyclesPerNop_eq] at hroom ⊢
  obtain ⟨b', hrun, hview⟩ := (task.run_takes h.sound).ok hroom
  obtain ⟨hclock, hcycles⟩ := View.clock_undertake (v := b.view) h.sound task hroom
  rw [← hview] at hclock hcycles
  refine ⟨b', hrun, hview, ⟨hclock, ?_, ?_⟩, hcycles⟩
  · rw [hview, View.build_undertake, h.build_eq]
  · obtain ⟨past, hrecalls⟩ := h.recalls
    cases task with
    | delay count =>
      refine ⟨past, ?_⟩
      rw [contents_eq_of_view hview]
      exact hrecalls
    | handling x =>
      have hhandled := handling_takes h.sound x
      rw [show x.run b = .ok b' from hrun] at hhandled
      rw [hhandled.2.contents_eq]
      cases x.deed? b with
      | none => exact ⟨past, hrecalls⟩
      | some deed => exact ⟨deed :: past, hrecalls.undergo hsound.ports.nodup deed⟩

/-- So are tasks in order. -/
theorem Reached.exists_carryOut (hsound : d.Sound size) (h : b.Reached d size)
    (tasks : List Task)
    (hroom : b.cycles.toNat + Task.cycles d.cyclesPerDelayIteration tasks < UInt64.size) :
    ∃ b', b.carryOut tasks = .ok b' ∧ b'.view = tasks.foldl View.undertake b.view ∧
      b'.Reached d size ∧
      b'.cycles.toNat = b.cycles.toNat + Task.cycles d.cyclesPerDelayIteration tasks := by
  induction tasks generalizing b with
  | nil => exact ⟨b, rfl, rfl, h, by simp [Task.cycles]⟩
  | cons task rest ih =>
    rw [Task.cycles_cons] at hroom ⊢
    obtain ⟨b₁, hrun, hview, hreached, hcycles⟩ := h.exists_run hsound task (by omega)
    obtain ⟨b', hrest, hview', hreached', hcycles'⟩ := ih hreached (by omega)
    refine ⟨b', ?_, ?_, hreached', by omega⟩
    · rw [carryOut, hrun]
      exact hrest
    · rw [List.foldl_cons, ← hview]
      exact hview'

/-- A task that was carried out had room. -/
theorem Reached.of_run (hsound : d.Sound size) (h : b.Reached d size) {task : Task} {b' : Bus}
    (hrun : task.run b = .ok b') : b'.Reached d size := by
  have htakes := task.run_takes h.sound
  rw [hrun, h.cyclesPerNop_eq] at htakes
  obtain ⟨b'', hrun', -, hreached, -⟩ := h.exists_run hsound task htakes.1
  cases hrun'.symm.trans hrun
  exact hreached

theorem Reached.of_carryOut (hsound : d.Sound size) (h : b.Reached d size) {tasks : List Task}
    {b' : Bus} (hrun : b.carryOut tasks = .ok b') : b'.Reached d size := by
  induction tasks generalizing b with
  | nil =>
    cases hrun
    exact h
  | cons task rest ih =>
    rw [carryOut] at hrun
    cases htask : task.run b with
    | error b₁ =>
      rw [htask] at hrun
      cases hrun
    | ok b₁ =>
      rw [htask] at hrun
      exact ih (h.of_run hsound htask) hrun

/-- Tasks that were carried out did what they do to the view. -/
theorem Reached.view_of_carryOut (hsound : d.Sound size) (h : b.Reached d size)
    {tasks : List Task} {b' : Bus} (hrun : b.carryOut tasks = .ok b') :
    b'.view = tasks.foldl View.undertake b.view := by
  induction tasks generalizing b with
  | nil =>
    cases hrun
    rfl
  | cons task rest ih =>
    rw [carryOut] at hrun
    cases htask : task.run b with
    | error b₁ =>
      rw [htask] at hrun
      cases hrun
    | ok b₁ =>
      have htakes := task.run_takes h.sound
      rw [htask] at hrun htakes
      rw [List.foldl_cons, ← htakes.2]
      exact ih (h.of_run hsound htask) hrun

/-- From the build of a bus on there is room for tasks that the cycle counter can count. -/
theorem exists_carryOut_powered (hsound : d.Sound size) {tasks : List Task}
    (hroom : Task.cycles d.cyclesPerDelayIteration tasks < UInt64.size) :
    ∃ b b', ofDescriptor d = .ok b ∧ b.carryOut tasks = .ok b' ∧
      b'.view = tasks.foldl View.undertake (.powered d size) ∧ b'.Reached d size ∧
      b'.cycles.toNat = Task.cycles d.cyclesPerDelayIteration tasks := by
  obtain ⟨b, hbus, hpowered, hreached⟩ := exists_reached hsound
  have hcycles : b.cycles.toNat = 0 := by
    rw [cycles_eq_of_view hpowered]
    rfl
  obtain ⟨b', hrun, hview, hreached', hcycles'⟩ :=
    hreached.exists_carryOut hsound tasks (by rwa [hcycles, Nat.zero_add])
  rw [hpowered] at hview
  rw [hcycles, Nat.zero_add] at hcycles'
  exact ⟨b, b', hbus, hrun, hview, hreached', hcycles'⟩

end Bus

end LedBench.Bench
