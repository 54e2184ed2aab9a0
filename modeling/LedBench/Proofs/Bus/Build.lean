import LedBench.Proofs.Bus.Program
import LedBench.Proofs.Chip.Sound

namespace LedBench.Bench

open Chip Firmware

/-- The address, if nothing answers there. -/
def Decoding.violation? (k : Decoding) (addr : UInt16) : Option UInt16 :=
  if k.Maps addr then none else some addr

theorem Decoding.violation?_eq_none_iff {k : Decoding} {addr : UInt16} :
    k.violation? addr = none ↔ k.Maps addr := by
  simp [violation?]

/-- What no operation of a bus changes. -/
structure Build where
  decoding : Decoding
  watchdog : WatchdogLayout
  periodCycles : UInt64
  cyclesPerNop : UInt64

/-- The chip that a descriptor describes, with so many bytes of data memory. -/
def Build.ofDescriptor (d : Descriptor) (size : UInt64) : Build where
  decoding := ⟨d.ports, size.toNat⟩
  watchdog := d.watchdog
  periodCycles := d.periodCycles
  cyclesPerNop := d.cyclesPerDelayIteration

namespace View

/-- A part of the view that no access of the program changes: neither by the time that it takes nor
    by what it does nor by its failure. -/
structure Inert {α : Type} (f : View → α) : Prop where
  lapse : ∀ (v : View) (cycles : UInt64), f (v.lapse cycles) = f v
  latch : ∀ (v : View) (addr : UInt16), f (v.latch addr) = f v
  poke : ∀ {v w : View} {addr : UInt16} {value : UInt8}, v.poke? addr value = some w → f w = f v

namespace Inert

variable {α : Type} {f : View → α}

theorem read (h : Inert f) (v : View) (addr : UInt16) : f (v.read addr) = f v := by
  unfold View.read
  split
  · exact h.lapse v 1
  · rw [h.latch, h.lapse]

theorem write (h : Inert f) (v : View) (addr : UInt16) (value : UInt8) :
    f (v.write addr value) = f v := by
  unfold View.write
  cases hpoke : (v.lapse 1).poke? addr value with
  | none => rw [Option.getD_none, h.latch, h.lapse]
  | some w => rw [Option.getD_some, h.poke hpoke, h.lapse]

theorem modify (h : Inert f) (v : View) (addr : UInt16) (g : UInt8 → UInt8) :
    f (v.modify addr g) = f v := by
  rw [View.modify, h.write, h.read]

theorem exec (h : Inert f) (v : View) (i : Instr) : f (v.exec i) = f v := by
  cases i with
  | write addr value => exact h.write v addr value
  | setBits addr mask => exact h.modify v addr (· ||| mask)

theorem startup (h : Inert f) (v : View) (t : Target) : f (v.startup t) = f v := by
  unfold View.startup
  induction t.startup generalizing v with
  | nil => rfl
  | cons i rest ih => rw [List.foldl_cons, ih, h.exec]

/-- A wait changes it no more than an access, unless it counts the no-ops. -/
theorem delay (h : Inert f)
    (hnops : ∀ (v : View) nops, f { v with clock := { v.clock with nops } } = f v)
    (v : View) (count : Nat) : f (v.delay count) = f v := by
  induction count generalizing v with
  | zero => rfl
  | succ count ih =>
    have hnop : f { v with clock := v.clock.nop } = f v :=
      (h.lapse { v with clock := { v.clock with nops := v.clock.nops + 1 } }
        v.clock.cyclesPerNop).trans (hnops v _)
    rw [← hnop]
    exact ih { v with clock := v.clock.nop }

theorem pass (h : Inert f)
    (hnops : ∀ (v : View) nops, f { v with clock := { v.clock with nops } } = f v)
    (v : View) (t : Target) : f (v.pass t) = f v := by
  rw [View.pass, h.delay hnops, h.modify]

end Inert

def build (v : View) : Build where
  decoding := v.contents.decoding
  watchdog := v.clock.watchdog.layout
  periodCycles := v.clock.watchdog.periodCycles
  cyclesPerNop := v.clock.cyclesPerNop

theorem build_emit (v : View) (e : Event) : (v.emit e).build = v.build := rfl

theorem build_settle (v : View) : v.settle.build = v.build := rfl

theorem build_release (v : View) : v.release.build = v.build := rfl

theorem build_burn (v : View) (word : UInt16) : (v.burn word).build = v.build := rfl

theorem inert_build : Inert build where
  lapse := by
    intro v cycles
    have hwatchdog : (v.clock.watchdog.lapse cycles).layout = v.clock.watchdog.layout ∧
        (v.clock.watchdog.lapse cycles).periodCycles = v.clock.watchdog.periodCycles := by
      unfold Watchdog.lapse
      split <;> exact ⟨rfl, rfl⟩
    simp only [build, lapse, Clock.lapse, hwatchdog]
  latch := fun _ _ => rfl
  poke := by
    intro v w addr value hpoke
    obtain ⟨c, hstore, rfl⟩ := Option.map_eq_some_iff.mp hpoke
    simp only [build, Contents.decoding_of_store? hstore]

/-- No access counts as a no-op. -/
theorem inert_nops : Inert fun v => v.clock.nops where
  lapse := fun _ _ => rfl
  latch := fun _ _ => rfl
  poke := by
    intro v w addr value hpoke
    obtain ⟨c, -, rfl⟩ := Option.map_eq_some_iff.mp hpoke
    rfl

theorem build_delay (v : View) (count : Nat) : (v.delay count).build = v.build :=
  inert_build.delay (fun _ _ => rfl) v count

theorem build_write (v : View) (addr : UInt16) (value : UInt8) :
    (v.write addr value).build = v.build := inert_build.write v addr value

theorem build_modify (v : View) (addr : UInt16) (f : UInt8 → UInt8) :
    (v.modify addr f).build = v.build := inert_build.modify v addr f

theorem build_startup (v : View) (t : Target) : (v.startup t).build = v.build :=
  inert_build.startup v t

theorem build_pass (v : View) (t : Target) : (v.pass t).build = v.build :=
  inert_build.pass (fun _ _ => rfl) v t

theorem decoding_eq_of_build {v w : View} (h : v.build = w.build) :
    v.contents.decoding = w.contents.decoding :=
  congrArg Build.decoding h

theorem build_reset (v : View) (cause : ResetCause) : (v.reset cause).build = v.build := by
  simp only [build, reset, Contents.decoding_reset, Clock.reset, Watchdog.clear]

theorem fault_read (v : View) (addr : UInt16) :
    (v.read addr).fault = (v.fault <|> v.build.decoding.violation? addr) := by
  have hbuild : v.contents.decoding = v.build.decoding := rfl
  rw [read, Decoding.violation?, hbuild]
  split
  · cases hfault : v.fault <;> simp [lapse, hfault]
  · rfl

theorem fault_write (v : View) (addr : UInt16) (value : UInt8) :
    (v.write addr value).fault = (v.fault <|> v.build.decoding.violation? addr) := by
  have hmaps : (v.contents.store? addr value).isSome = true ↔ v.build.decoding.Maps addr :=
    Contents.store?_isSome_iff
  have hcontents : (v.lapse 1).contents = v.contents := rfl
  rw [write, poke?, hcontents, Decoding.violation?]
  cases h : v.contents.store? addr value with
  | none =>
    rw [h] at hmaps
    rw [if_neg (mt hmaps.mpr (by simp))]
    rfl
  | some c =>
    rw [h] at hmaps
    rw [if_pos (hmaps.mp rfl)]
    cases hfault : v.fault <;> simp [lapse, hfault]

theorem fault_modify (v : View) (addr : UInt16) (f : UInt8 → UInt8) :
    (v.modify addr f).fault = (v.fault <|> v.build.decoding.violation? addr) := by
  rw [modify, fault_write, fault_read, inert_build.read]
  cases v.fault <;> cases v.build.decoding.violation? addr <;> rfl

end View

end LedBench.Bench

namespace LedBench.Firmware

def Instr.addr : Instr → UInt16
  | .write addr _ => addr
  | .setBits addr _ => addr

/-- The initializer ends with the LED's port, which is all that a turn of the loop accesses. -/
theorem Target.setBits_mem_startup (t : Target) : .setBits t.led.port t.ledMask ∈ t.startup := by
  simp [startup]

end LedBench.Firmware

namespace LedBench.Bench

open Chip Firmware

/-- The first register of the initializer at which nothing answers. -/
def Decoding.startupViolation? (k : Decoding) (t : Target) : Option UInt16 :=
  t.startup.findSome? fun i => k.violation? i.addr

theorem Decoding.startupViolation?_eq_none_iff {k : Decoding} {t : Target} :
    k.startupViolation? t = none ↔ ∀ i ∈ t.startup, k.Maps i.addr := by
  simp [startupViolation?, violation?_eq_none_iff]

namespace View

theorem fault_exec (v : View) (i : Instr) :
    (v.exec i).fault = (v.fault <|> v.build.decoding.violation? i.addr) := by
  cases i with
  | write addr value => rw [exec, fault_write, Instr.addr]
  | setBits addr mask => rw [exec, fault_modify, Instr.addr]

/-- The initializer keeps an earlier fault, and else the first register at which nothing
    answers. -/
theorem fault_startup (v : View) (t : Target) :
    (v.startup t).fault = (v.fault <|> v.build.decoding.startupViolation? t) := by
  unfold startup Decoding.startupViolation?
  generalize t.startup = instrs
  induction instrs generalizing v with
  | nil => cases hfault : v.fault <;> simp [hfault]
  | cons i rest ih =>
    rw [List.foldl_cons, ih, fault_exec, inert_build.exec, List.findSome?_cons]
    cases v.fault <;> cases v.build.decoding.violation? i.addr <;> rfl

theorem fault_pass (v : View) (t : Target) :
    (v.pass t).fault = (v.fault <|> v.build.decoding.violation? t.led.port) := by
  rw [pass, fault_delay, fault_modify]

/-- The view of a chip before anything is burned or run. -/
def powered (d : Descriptor) (size : UInt64) : View where
  clock := ⟨0, 0, d.cyclesPerDelayIteration, ⟨d.watchdog, d.periodCycles, false, 0⟩, false⟩
  contents := ⟨.blank size, d.ports.map Port.powered⟩
  fault := none
  configWord := d.configWord.erased
  events := []

theorem build_powered {d : Descriptor} {size : UInt64} (hsound : d.Sound size) :
    (powered d size).build = .ofDescriptor d size := by
  have hsize : min size.toNat 65536 = size.toNat := by
    have : size.toNat ≤ 65536 := hsound.size_le
    omega
  have hlayout : (fun l => (Port.powered l).layout) = id := rfl
  simp [powered, build, Contents.decoding, DataMemory.blank, Build.ofDescriptor,
    Function.comp_def, hlayout, hsize]

theorem clock_sound_powered {d : Descriptor} {size : UInt64} (hsound : d.Sound size) :
    (powered d size).clock.Sound := by
  refine ⟨Nat.zero_le _, Nat.zero_le _, ?_⟩
  have hdelay := hsound.delay
  rw [Ne, ← UInt64.toNat_inj] at hdelay
  exact Nat.pos_of_ne_zero hdelay

end View

/-- Data memory that passes the checks is laid out. -/
theorem Bus.exists_ofDescriptor {d : Descriptor} {size : UInt64} (hsound : d.Sound size) :
    ∃ bus, Bus.ofDescriptor d = .ok bus ∧ bus.view = .powered d size := by
  have hsize : ¬ Bus.largestBlock < size.toNat := by
    have : size.toNat ≤ 65536 := hsound.size_le
    unfold Bus.largestBlock
    omega
  rw [Bus.ofDescriptor, hsound.parse]
  dsimp only
  rw [if_neg hsize]
  exact ⟨_, rfl, rfl⟩

end LedBench.Bench
