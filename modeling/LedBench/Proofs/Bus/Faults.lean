import LedBench.Chip.Builtin
import LedBench.Proofs.Bus.Task

namespace LedBench.Bench

open Chip Firmware

/-- The first of these addresses at which nothing answers. -/
def Decoding.firstViolation? (k : Decoding) (addrs : List UInt16) : Option UInt16 :=
  addrs.findSome? k.violation?

namespace Decoding

variable (k : Decoding) (addr : UInt16)

@[simp] theorem firstViolation?_singleton : k.firstViolation? [addr] = k.violation? addr := by
  simp [firstViolation?]

@[simp] theorem firstViolation?_twice : k.firstViolation? [addr, addr] = k.violation? addr := by
  cases h : k.violation? addr <;> simp [firstViolation?, h]

theorem firstViolation?_append (first second : List UInt16) :
    k.firstViolation? (first ++ second) =
      (k.firstViolation? first <|> k.firstViolation? second) := by
  simp [firstViolation?, List.findSome?_append]

end Decoding

namespace Task

/-- The accesses since somebody asked for the fault, after a task and given those before it. -/
def recentAfter (recent : List UInt16) : Task → List UInt16
  | .handling (.op .takeFault) => []
  | task => recent ++ task.accesses

/-- The program's accesses since somebody last asked for the fault, in order. -/
def recent (tasks : List Task) : List UInt16 := tasks.foldl recentAfter []

end Task

namespace View

/-- The fault that is kept is the first of these accesses at which nothing answers. -/
def KeepsFirst (recent : List UInt16) (v : View) : Prop :=
  v.fault = v.build.decoding.firstViolation? recent

variable {v : View} {recent : List UInt16}

/-- Further accesses are added to those so far where they leave an earlier fault alone. -/
theorem KeepsFirst.append (h : v.KeepsFirst recent) {w : View} {accesses : List UInt16}
    (hbuild : w.build = v.build)
    (hfault : w.fault = (v.fault <|> v.build.decoding.firstViolation? accesses)) :
    w.KeepsFirst (recent ++ accesses) := by
  rw [KeepsFirst, hfault, hbuild, Decoding.firstViolation?_append, h]

/-- An operation of the bus keeps an earlier fault, and else one of its own; only asking for the
    fault forgets it. -/
theorem fault_operate (v : View) {op : BusOp} (hop : op ≠ .takeFault) :
    (v.operate op).fault =
      (v.fault <|> v.build.decoding.firstViolation? (Handling.op op).accesses) := by
  have hidle : v.fault = (v.fault <|> v.build.decoding.firstViolation? []) := by
    cases v.fault <;> rfl
  cases op with
  | read addr => rw [operate, fault_read, Handling.accesses, Decoding.firstViolation?_singleton]
  | write addr value =>
    rw [operate, fault_write, Handling.accesses, Decoding.firstViolation?_singleton]
  | poke addr value =>
    have hpoke : (v.operate (.poke addr value)).fault = v.fault := by
      rw [operate, poke?]
      cases v.contents.store? addr value <;> rfl
    rw [hpoke]
    exact hidle
  | takeFault => exact absurd rfl hop
  | nop | reset cause | burn word | takeResetRequest => exact hidle

theorem fault_undertake (v : View) {task : Task} (htask : task ≠ .handling (.op .takeFault)) :
    (v.undertake task).fault = (v.fault <|> v.build.decoding.firstViolation? task.accesses) := by
  cases task with
  | delay count =>
    rw [undertake, fault_delay]
    cases v.fault <;> rfl
  | handling x =>
    cases x with
    | op o => exact fault_operate v fun h => htask (by rw [h])
    | setBits addr mask | toggleBits addr mask =>
      rw [undertake, handle, fault_modify, Task.accesses, Handling.accesses,
        Decoding.firstViolation?_twice]

theorem KeepsFirst.undertake (h : v.KeepsFirst recent) (task : Task) :
    (v.undertake task).KeepsFirst (task.recentAfter recent) := by
  by_cases htask : task = .handling (.op .takeFault)
  · subst htask
    rfl
  · have hrecent : task.recentAfter recent = recent ++ task.accesses := by
      unfold Task.recentAfter
      split
      · exact absurd rfl htask
      · rfl
    rw [hrecent]
    exact h.append (build_undertake v task) (fault_undertake v htask)

theorem KeepsFirst.foldl_undertake (h : v.KeepsFirst recent) (tasks : List Task) :
    (tasks.foldl View.undertake v).KeepsFirst (tasks.foldl Task.recentAfter recent) := by
  induction tasks generalizing v recent with
  | nil => exact h
  | cons task rest ih => exact ih (h.undertake task)

variable {addr : UInt16}

/-- A write where nothing answers is a failed access and nothing else. -/
theorem write_of_not_maps (hvoid : ¬ v.contents.decoding.Maps addr) (value : UInt8) :
    v.write addr value = (v.lapse 1).latch addr := by
  have hstore : v.contents.store? addr value = none := by
    rw [← Option.not_isSome_iff_eq_none, Contents.store?_isSome_iff]
    exact hvoid
  have hpoke : (v.lapse 1).poke? addr value = none := by
    rw [poke?, Option.map_eq_none_iff]
    exact hstore
  rw [write, hpoke, Option.getD_none]

theorem load_of_not_maps (hvoid : ¬ v.contents.decoding.Maps addr) : v.load addr = 0 := by
  have hload : v.contents.load? addr = none := by
    rw [← Option.not_isSome_iff_eq_none, Contents.load?_isSome_iff]
    exact hvoid
  rw [load, hload, Option.getD_none]

end View

namespace Bus

/-- Between two states of a bus no register, no byte of memory and so no pin has changed, and nobody
    was told anything. -/
structure Undisturbed (b b' : Bus) : Prop where
  memory_eq : b'.chip.memory = b.chip.memory
  ports_eq : b'.chip.ports = b.chip.ports
  events_eq : b'.journal.events = b.journal.events

/-- Nothing answers at an address: a write from outside fails, and an access of the program, for
    which the cycle counter has room, reads 0 and disturbs nothing. -/
structure Silent (b : Bus) (addr : UInt16) : Prop where
  peek : b.peek? addr = none
  poke : ∀ value, b.poke? addr value = none
  read : b.cycles.toNat + 1 < UInt64.size →
    ∃ b', b.read addr = .ok (0, b') ∧ b.Undisturbed b'
  write : ∀ value, b.cycles.toNat + 1 < UInt64.size →
    ∃ b', b.write addr value = .ok b' ∧ b.Undisturbed b'
  modify : ∀ f, b.cycles.toNat + 2 < UInt64.size →
    ∃ b', Hardware.modify b addr f = .ok b' ∧ b.Undisturbed b'

variable {b b' : Bus} {addr : UInt16}

theorem Undisturbed.of_view (hcontents : b'.view.contents = b.view.contents)
    (hevents : b'.view.events = b.view.events) : b.Undisturbed b' :=
  ⟨congrArg Contents.memory hcontents, congrArg Contents.ports hcontents, hevents⟩

theorem silent_of_not_maps (hsound : b.clock.Sound) (hvoid : ¬ b.contents.decoding.Maps addr) :
    b.Silent addr := by
  have hload : b.contents.load? addr = none := by
    rw [← Option.not_isSome_iff_eq_none, Contents.load?_isSome_iff]
    exact hvoid
  refine ⟨by rw [peek?_eq_load?, hload], ?_, ?_, ?_, ?_⟩
  · intro value
    have hstore : b.contents.store? addr value = none := by
      rw [← Option.not_isSome_iff_eq_none, Contents.store?_isSome_iff]
      exact hvoid
    have hpoke := view_poke? b addr value
    rw [View.poke?, show b.view.contents.store? addr value = none from hstore, Option.map_none,
      Option.map_eq_none_iff] at hpoke
    exact hpoke
  · intro hroom
    obtain ⟨⟨value, b'⟩, hread, hvalue, hview⟩ := (read_takes hsound addr).ok hroom
    dsimp only at hvalue hview
    obtain rfl : value = 0 := hvalue.trans (View.load_of_not_maps hvoid)
    refine ⟨b', hread, .of_view ?_ ?_⟩
    · rw [hview, View.contents_read]
    · rw [hview, View.events_read]
  · intro value hroom
    obtain ⟨b', hwrite, hview⟩ := (write_takes hsound addr value).ok hroom
    rw [View.write_of_not_maps hvoid] at hview
    exact ⟨b', hwrite, .of_view (by rw [hview]; rfl) (by rw [hview]; rfl)⟩
  · intro f hroom
    obtain ⟨b', hmodify, hview⟩ := (modify_takes hsound addr f).ok hroom
    have hvoid' : ¬ (b.view.read addr).contents.decoding.Maps addr := by
      rw [View.contents_read]
      exact hvoid
    rw [View.modify, View.write_of_not_maps hvoid'] at hview
    refine ⟨b', hmodify, .of_view ?_ ?_⟩
    · rw [hview]
      exact View.contents_read b.view addr
    · rw [hview]
      exact View.events_read b.view addr

/-- On a chip that passes the checks the fault that is kept, whatever was done with the bus since it
    was built, is the first address of those that the program has accessed since somebody last asked
    for the fault at which neither a register of a port nor data memory answers; there is none if
    all of these answer. Who asks a second time at once hears of none, and a reset of either cause
    neither sets nor forgets it. Every access has taken one cycle, failed or not, and every no-op its
    own. Where nothing answers, and only there, a write from outside fails and is not carried out,
    and an access of the program reads 0, changes neither memory nor registers and tells nobody. The
    cycle counter must have room for the tasks; where it has not, the simulation traps. -/
theorem takeFault_carryOut {d : Descriptor} {size : UInt64} (hcheck : d.check = .ok ())
    (hsize : Size.parse d.dataMemory = .ok size) (tasks : List Task)
    (hroom : Task.cycles d.cyclesPerDelayIteration tasks < UInt64.size) :
    ∃ b b', ofDescriptor d = .ok b ∧ b.carryOut tasks = .ok b' ∧
      b'.takeFault.1 =
        (Build.ofDescriptor d size).decoding.firstViolation? (Task.recent tasks) ∧
      b'.takeFault.2.takeFault.1 = none ∧
      (∀ cause, (b'.reset cause).takeFault.1 = b'.takeFault.1) ∧
      b'.cycles.toNat = Task.cycles d.cyclesPerDelayIteration tasks ∧
      ∀ addr, if (Build.ofDescriptor d size).decoding.Maps addr then
          ∀ value, (b'.poke? addr value).isSome = true
        else b'.Silent addr := by
  obtain ⟨size', hsound⟩ := Descriptor.check_eq_ok_iff.mp hcheck
  obtain rfl : size' = size := Except.ok.inj (hsound.parse.symm.trans hsize)
  obtain ⟨b, b', hbus, hrun, hview, hreached, hcycles⟩ := exists_carryOut_powered hsound hroom
  refine ⟨b, b', hbus, hrun, ?_, rfl, ?_, hcycles, ?_⟩
  · have hblank : (View.powered d size').KeepsFirst [] := rfl
    have hkeeps := hblank.foldl_undertake tasks
    rw [← hview, View.KeepsFirst, hreached.build_eq] at hkeeps
    exact hkeeps
  · intro cause
    exact congrArg View.fault (view_reset b' cause)
  · intro addr
    split
    · rename_i hmaps
      intro value
      rw [← hreached.decoding_eq] at hmaps
      have hstore : (b'.view.contents.store? addr value).isSome = true :=
        Contents.store?_isSome_iff.mpr hmaps
      rw [← Option.isSome_map (f := Bus.view), view_poke?, View.poke?, Option.isSome_map]
      exact hstore
    · rename_i hvoid
      rw [← hreached.decoding_eq] at hvoid
      exact silent_of_not_maps hreached.sound hvoid

/-- Of three places past the end of the 18-pin part's memory the first is forgotten by who asked for
    it, and of the two reached for since then the second is not heard of, in spite of a reset. -/
theorem takeFault_carryOut_pic16f628a :
    ∃ b b', ofDescriptor pic16f628a = .ok b ∧
      b.carryOut [.handling (.op (.write 0x3000 1)), .handling (.op .takeFault),
        .handling (.toggleBits 0x006 0xFF), .delay 3, .handling (.setBits 0x200 0x80),
        .handling (.op (.reset .watchdog)), .handling (.op (.read 0xFFFF))] = .ok b' ∧
      b'.takeFault.1 = some 0x200 ∧ b'.takeFault.2.takeFault.1 = none ∧
      b'.cycles.toNat = 9 ∧ b'.Silent 0x200 := by
  have hcheck : pic16f628a.check = .ok () := by decide +kernel
  have hsize : Size.parse pic16f628a.dataMemory = .ok 512 := by decide +kernel
  obtain ⟨b, b', hbus, hrun, hfault, hagain, -, hcycles, hsilent⟩ :=
    takeFault_carryOut hcheck hsize
      [.handling (.op (.write 0x3000 1)), .handling (.op .takeFault),
        .handling (.toggleBits 0x006 0xFF), .delay 3, .handling (.setBits 0x200 0x80),
        .handling (.op (.reset .watchdog)), .handling (.op (.read 0xFFFF))] (by decide)
  refine ⟨b, b', hbus, hrun, hfault.trans (by decide), hagain, hcycles.trans (by decide), ?_⟩
  have hvoid : ¬ (Build.ofDescriptor pic16f628a 512).decoding.Maps 0x200 := by decide
  have hat := hsilent 0x200
  rwa [if_neg hvoid] at hat

end Bus

end LedBench.Bench
