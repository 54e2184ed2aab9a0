import LedBench.Bench.Machine
import LedBench.Proofs.Bus.Program

namespace LedBench.Bench

open Chip Firmware

/-- What the owner of a machine may do with it between two turns of the loop. -/
inductive Command where
  | step
  | reset
  | burn (word : UInt16)
  | stop
  deriving DecidableEq, Repr

/-- What the program does in a machine between two rests: a turn of its loop, or a start from the
    top after a reset. -/
inductive Turn where
  | pass
  | restart (cause : ResetCause)
  deriving DecidableEq, Repr

/-- The level to which the program has driven the LED after a turn. -/
def Turn.level (before : Bool) : Turn → Bool
  | .pass => !before
  | .restart _ => true

/-- The turns that a command made the program do, told by the machine before it and after it: a
    step is a turn of the loop, and a restart as well if the watchdog's count of resets moved. -/
def Command.turns (before after : Machine) : Command → List Turn
  | .step =>
    if after.watchdogResets = before.watchdogResets then [.pass] else [.pass, .restart .watchdog]
  | .reset => [.restart .powerOn]
  | .burn _ => []
  | .stop => []

namespace Machine

/-- A machine for a described chip, powered up with nobody's hands on the bus. -/
def powerUp (t : Target) (d : Descriptor) (led : PinRef) :
    Except (Halt SimulationError) Machine :=
  match Bus.ofDescriptor d with
  | .error h => .error h
  | .ok bus =>
    match boot t d led bus with
    | .error s => .error s.halt
    | .ok m => .ok m

def perform (m : Machine) : Command → Except (Stopped SimulationError Machine) Machine
  | .step => m.step
  | .reset => m.reset
  | .burn word => .ok (m.withBus (m.bus.burn word))
  | .stop => .ok m.stop

/-- Carries out commands in order, up to the first that fails. -/
def run : Machine → List Command → Except (Stopped SimulationError Machine) Machine
  | m, [] => .ok m
  | m, c :: rest =>
    match m.perform c with
    | .ok m => m.run rest
    | .error s => .error s

/-- The next turn of the loop will end in a reset by the watchdog. -/
def expires (m : Machine) : Bool :=
  m.bus.chip.resetRequested || m.bus.chip.watchdog.due (passCycles m.bus.cyclesPerNop)

/-- The cycles that a command takes: a turn of the loop, the initializer, or both where the
    watchdog ends the turn. -/
def cost (m : Machine) : Command → Nat
  | .step =>
    passCycles m.bus.cyclesPerNop + if m.expires then m.target.startupCycles else 0
  | .reset => m.target.startupCycles
  | .burn _ => 0
  | .stop => 0

/-- No command of the run makes the cycle counter overflow. -/
def Fits : Machine → List Command → Prop
  | _, [] => True
  | m, c :: rest =>
    m.bus.cycles.toNat + m.cost c < UInt64.size ∧ ∀ m', m.perform c = .ok m' → m'.Fits rest

/-- The turns of a run, up to the first command that fails. -/
def turns : Machine → List Command → List Turn
  | _, [] => []
  | m, c :: rest =>
    match m.perform c with
    | .ok m' => c.turns m m' ++ m'.turns rest
    | .error _ => []

private theorem exists_run_from {P : Command → Prop} {I : List Command → List Turn → Machine → Prop}
    (hstep : ∀ past done m c, P c → I past done m →
      m.bus.cycles.toNat + m.cost c < UInt64.size →
      ∃ m', m.perform c = .ok m' ∧ I (past ++ [c]) (done ++ c.turns m m') m')
    (past : List Command) (done : List Turn) {m : Machine} (hinv : I past done m)
    {cmds : List Command} (hcmds : ∀ c ∈ cmds, P c) (hfits : m.Fits cmds) :
    ∃ m', m.run cmds = .ok m' ∧ I (past ++ cmds) (done ++ m.turns cmds) m' := by
  induction cmds generalizing past done m with
  | nil =>
    refine ⟨m, rfl, ?_⟩
    rwa [turns, List.append_nil, List.append_nil]
  | cons c rest ih =>
    obtain ⟨hc, hrest⟩ := List.forall_mem_cons.mp hcmds
    obtain ⟨m', hperform, hinv'⟩ := hstep past done m c hc hinv hfits.1
    obtain ⟨m'', hrun, hinv''⟩ := ih _ _ hinv' hrest (hfits.2 m' hperform)
    rw [List.append_assoc, List.append_assoc] at hinv''
    refine ⟨m'', ?_, ?_⟩
    · rw [run, hperform]
      exact hrun
    · rw [turns, hperform]
      exact hinv''

/-- What one command of some kind keeps and makes succeed, a whole run of such commands keeps and
    makes succeed. It may depend on the turns done so far. -/
theorem exists_run_of_forall {P : Command → Prop} {I : List Turn → Machine → Prop}
    (hstep : ∀ done m c, P c → I done m → m.bus.cycles.toNat + m.cost c < UInt64.size →
      ∃ m', m.perform c = .ok m' ∧ I (done ++ c.turns m m') m')
    {m : Machine} (hstart : I [] m) {cmds : List Command} (hcmds : ∀ c ∈ cmds, P c)
    (hfits : m.Fits cmds) :
    ∃ m', m.run cmds = .ok m' ∧ I (m.turns cmds) m' := by
  obtain ⟨m', hrun, hinv⟩ :=
    exists_run_from (I := fun _ => I) (fun _ => hstep) [] [] hstart hcmds hfits
  exact ⟨m', hrun, by rwa [List.nil_append] at hinv⟩

/-- The same where every command does so. -/
theorem exists_run_of_step {I : List Turn → Machine → Prop}
    (hstep : ∀ done m c, I done m → m.bus.cycles.toNat + m.cost c < UInt64.size →
      ∃ m', m.perform c = .ok m' ∧ I (done ++ c.turns m m') m')
    {m : Machine} (hstart : I [] m) {cmds : List Command} (hfits : m.Fits cmds) :
    ∃ m', m.run cmds = .ok m' ∧ I (m.turns cmds) m' :=
  exists_run_of_forall (P := fun _ => True) (fun done m c _ => hstep done m c) hstart
    (fun _ _ => trivial) hfits

/-- The same for what may depend on the commands given so far. -/
theorem exists_run_of_commands {P : Command → Prop} {I : List Command → Machine → Prop}
    (hstep : ∀ past m c, P c → I past m → m.bus.cycles.toNat + m.cost c < UInt64.size →
      ∃ m', m.perform c = .ok m' ∧ I (past ++ [c]) m')
    {past : List Command} {m : Machine} (hinv : I past m) {cmds : List Command}
    (hcmds : ∀ c ∈ cmds, P c) (hfits : m.Fits cmds) :
    ∃ m', m.run cmds = .ok m' ∧ I (past ++ cmds) m' :=
  exists_run_from (I := fun past _ => I past) (fun past _ => hstep past) past [] hinv hcmds hfits

theorem run_append {m m' : Machine} {first second : List Command} (h : m.run first = .ok m') :
    m.run (first ++ second) = m'.run second := by
  induction first generalizing m with
  | nil =>
    cases h
    rfl
  | cons c rest ih =>
    rw [run] at h
    rw [List.cons_append, run]
    cases hperform : m.perform c with
    | ok n =>
      rw [hperform] at h
      exact ih h
    | error s =>
      rw [hperform] at h
      cases h

/-- A run for which there is room has room for its first part, and after that for the rest. -/
theorem Fits.of_append {m : Machine} {first second : List Command}
    (h : m.Fits (first ++ second)) :
    m.Fits first ∧ ∀ m', m.run first = .ok m' → m'.Fits second := by
  induction first generalizing m with
  | nil =>
    refine ⟨trivial, ?_⟩
    rintro m' hrun
    cases hrun
    exact h
  | cons c rest ih =>
    obtain ⟨hroom, hrest⟩ := h
    refine ⟨⟨hroom, fun m' hperform => (ih (hrest m' hperform)).1⟩, ?_⟩
    intro m' hrun
    rw [run] at hrun
    cases hperform : m.perform c with
    | ok n =>
      rw [hperform] at hrun
      exact (ih (hrest n hperform)).2 m' hrun
    | error s =>
      rw [hperform] at hrun
      cases hrun

end Machine

end LedBench.Bench
