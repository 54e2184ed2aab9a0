import LedBench.CommandLine.Perform
import LedBench.Proofs.CommandLine.Loading
import LedBench.Proofs.Machine.Overflow
import LedBench.Proofs.Run.Faultless
import LedBench.Proofs.Run.Limits

namespace LedBench.CommandLine

open Bench Chip Files Firmware Run

variable {files : FileTree} {a : TestArguments} {script : Script} {t : Target} {s : Setup}
  {m : Machine} {path : String}

/-- The script that a test goes by, with the limit that its arguments set, and its target. -/
structure Scripted (files : FileTree) (a : TestArguments) (script : Script) (t : Target) :
    Prop where
  limited : ∃ given, files.yields (Script.load a.script) = .ok given ∧ a.limited given = .ok script
  target : Target.namedIgnoringCase? script.inputs.target = some t

/-- The set-up of a run: the built-in chip, or what a manifest says. -/
inductive SetUp (files : FileTree) (t : Target) : Option String → Setup → Prop
  | builtin : SetUp files t none ⟨.ofTarget t, none⟩
  | manifest {path : String} {system : Manifest} {chip : Descriptor} {led : Option PinRef}
    (hsystem : files.yields (Manifest.load path) = .ok system)
    (hchip : files.yields (system.loadChip (Path.directory path)) = .ok chip)
    (hled : system.led = .ok led) : SetUp files t (some path) ⟨chip, led⟩

/-- A manifest from which no set-up is made: it, its chip or its first LED is refused. -/
inductive Unset (files : FileTree) (path : String) : Prop
  | manifest {e : LoadError} (h : files.yields (Manifest.load path) = .error (.refused e))
  | chip {system : Manifest} {e : LoadError}
    (hsystem : files.yields (Manifest.load path) = .ok system)
    (h : files.yields (system.loadChip (Path.directory path)) = .error (.refused e))
  | led {system : Manifest} {chip : Descriptor} {e : DeviceError}
    (hsystem : files.yields (Manifest.load path) = .ok system)
    (hchip : files.yields (system.loadChip (Path.directory path)) = .ok chip)
    (h : system.led = .error e)

/-- The chip of a manifest is described by a file, and its size is torn. -/
def TornChip (files : FileTree) (path : String) : Prop :=
  ∃ system text d, files.yields (Manifest.load path) = .ok system ∧
    Target.namedIgnoringCase? system.chip = none ∧
    files.yields (FileKind.chip.load (Path.join (Path.directory path) system.chip)) = .ok text ∧
    (Yaml.Place.parse? text).bind Descriptor.read? = some d ∧ d.Torn

/-- A test that has got its set-up. -/
structure Prepared (files : FileTree) (a : TestArguments) (script : Script) (t : Target)
    (s : Setup) : Prop extends Scripted files a script t where
  setup : SetUp files t (script.inputs.system.map (Path.besides a.script)) s

/-- What becomes of the chip of a test when it is switched on. -/
structure Powered (files : FileTree) (a : TestArguments) (script : Script) (t : Target) (s : Setup)
    (x : Except (Halt SimulationError) Machine) : Prop extends Prepared files a script t s where
  powerUp : ∃ led, (s.led <|> firmwareLed? t s.chip) = some led ∧ Machine.powerUp t s.chip led = x

/-- What is wrong with a test that has nothing to run. -/
inductive Prevented (files : FileTree) (a : TestArguments) : Prop
  | script {e : LoadError} (h : files.yields (Script.load a.script) = .error (.refused e))
  | limit {given : Script} {e : LoadError}
    (hload : files.yields (Script.load a.script) = .ok given)
    (h : a.limited given = .error (.refused e))
  | target {given script : Script} (hload : files.yields (Script.load a.script) = .ok given)
    (hlimit : a.limited given = .ok script)
    (h : Target.namedIgnoringCase? script.inputs.target = none)
  | setup {script : Script} {t : Target} {path : String} (hscript : Scripted files a script t)
    (hpath : script.inputs.system = some path) (h : Unset files (Path.besides a.script path))
  | noPort {script : Script} {t : Target} {s : Setup} (hprepared : Prepared files a script t s)
    (hled : s.led = none) (hport : ∀ l ∈ s.chip.ports, l.port ≠ t.led.port)
  | boot {script : Script} {t : Target} {s : Setup} {e : SimulationError}
    (hpowered : Powered files a script t s (.error (.refused e)))
    (h : ∀ addr, e ≠ .memoryViolation addr)

/-- The test's chip is described by a file, and its size is torn. -/
def Torn (files : FileTree) (a : TestArguments) : Prop :=
  ∃ script t path, Scripted files a script t ∧ script.inputs.system = some path ∧
    TornChip files (Path.besides a.script path)

theorem SetUp.check {system : Option String} (h : SetUp files t system s) :
    s.chip.check = .ok () := by
  cases h with
  | builtin => exact Descriptor.check_ofTarget t
  | manifest hsystem hchip hled => exact FileTree.check_of_loadChip hchip

theorem SetUp.bit_lt {system : Option String} (h : SetUp files t system s) :
    ∀ pin ∈ s.led, pin.bit < 8 := by
  cases h with
  | builtin => nofun
  | manifest hsystem hchip hled =>
    rintro pin ⟨⟩
    exact Manifest.bit_lt_of_led hled

/-- A manifest yields a set-up, or is refused, or its chip is torn. -/
theorem setUp_cases (files : FileTree) (t : Target) (path : String) :
    (∃ s, SetUp files t (some path) s) ∨ Unset files path ∨ TornChip files path := by
  cases hsystem : files.yields (Manifest.load path) with
  | error h =>
    cases h with
    | refused e => exact .inr (.inl (.manifest hsystem))
    | trap => exact absurd hsystem (files.yields_loadManifest_ne_trap path)
  | ok system =>
    cases hchip : files.yields (system.loadChip (Path.directory path)) with
    | error h =>
      cases h with
      | refused e => exact .inr (.inl (.chip hsystem hchip))
      | trap =>
        obtain ⟨hname, text, d, htext, hread, htorn⟩ :=
          FileTree.yields_loadChip_eq_trap_iff.mp hchip
        exact .inr (.inr ⟨system, text, d, hsystem, hname, htext, hread, htorn⟩)
    | ok chip =>
      cases hled : system.led with
      | error e => exact .inr (.inl (.led hsystem hchip hled))
      | ok led => exact .inl ⟨_, .manifest hsystem hchip hled⟩

theorem TestArguments.limited_ne_trap (a : TestArguments) (s : Script) :
    a.limited s ≠ .error .trap := by
  unfold TestArguments.limited
  split
  · nofun
  · dsimp only
    cases Script.check _ <;> nofun

/-- Every test is prevented, has a torn chip, or gets as far as switching its chip on. -/
theorem fate_cases (files : FileTree) (a : TestArguments) :
    Prevented files a ∨ Torn files a ∨ ∃ script t s x, Powered files a script t s x := by
  cases hload : files.yields (Script.load a.script) with
  | error h =>
    cases h with
    | refused e => exact .inl (.script hload)
    | trap => exact absurd hload (files.yields_loadScript_ne_trap a.script)
  | ok given =>
  cases hlimit : a.limited given with
  | error h =>
    cases h with
    | refused e => exact .inl (.limit hload hlimit)
    | trap => exact absurd hlimit (a.limited_ne_trap given)
  | ok script =>
  cases htarget : Target.namedIgnoringCase? script.inputs.target with
  | none => exact .inl (.target hload hlimit htarget)
  | some t =>
  have hscript : Scripted files a script t := ⟨⟨given, hload, hlimit⟩, htarget⟩
  have hpower : ∀ s, Prepared files a script t s →
      Prevented files a ∨ ∃ x, Powered files a script t s x := by
    intro s hprepared
    cases hled : s.led <|> firmwareLed? t s.chip with
    | some led => exact .inr ⟨_, hprepared, led, hled, rfl⟩
    | none =>
      obtain ⟨hnone, hports⟩ : s.led = none ∧ firmwareLed? t s.chip = none := by
        cases hdeclared : s.led with
        | none => exact ⟨rfl, by rw [hdeclared] at hled; exact hled⟩
        | some pin => rw [hdeclared] at hled; cases hled
      refine .inl (.noPort hprepared hnone fun l hl heq => ?_)
      have hfind := List.find?_eq_none.mp (Option.map_eq_none_iff.mp hports) l hl
      exact hfind (by simpa using heq)
  cases hpath : script.inputs.system with
  | none =>
    rcases hpower ⟨.ofTarget t, none⟩ ⟨hscript, by rw [hpath]; exact .builtin⟩ with h | ⟨x, h⟩
    · exact .inl h
    · exact .inr (.inr ⟨script, t, _, x, h⟩)
  | some path =>
    rcases setUp_cases files t (Path.besides a.script path) with ⟨s, hs⟩ | hunset | htorn
    · rcases hpower s ⟨hscript, by rw [hpath]; exact hs⟩ with h | ⟨x, h⟩
      · exact .inl h
      · exact .inr (.inr ⟨script, t, _, x, h⟩)
    · exact .inl (.setup hscript hpath hunset)
    · exact .inr (.inl ⟨script, t, path, hscript, hpath, htorn⟩)

theorem SetUp.yields (h : SetUp files t (some path) s) :
    files.yields (Setup.load path) = .ok s := by
  cases h with
  | manifest hsystem hchip hled =>
    rw [FileTree.yields_loadSetup, hsystem, Except.bind, hchip, Except.bind, Manifest.loadLed, hled]
    rfl

theorem Unset.yields (h : Unset files path) :
    ∃ e, files.yields (Setup.load path) = .error (.refused e) := by
  rw [FileTree.yields_loadSetup]
  cases h with
  | manifest h => exact ⟨_, by rw [h, Except.bind]⟩
  | chip hsystem h => exact ⟨_, by rw [hsystem, Except.bind, h, Except.bind]⟩
  | led hsystem hchip h =>
    exact ⟨_, by rw [hsystem, Except.bind, hchip, Except.bind, Manifest.loadLed, h]; rfl⟩

theorem TornChip.yields (h : TornChip files path) :
    files.yields (Setup.load path) = .error .trap := by
  obtain ⟨system, text, d, hsystem, hname, htext, hread, htorn⟩ := h
  have hchip : files.yields (system.loadChip (Path.directory path)) = .error .trap :=
    FileTree.yields_loadChip_eq_trap_iff.mpr ⟨hname, text, d, htext, hread, htorn⟩
  rw [FileTree.yields_loadSetup, hsystem, Except.bind, hchip, Except.bind]

/-- What a set-up without a pin to watch is worth. -/
theorem result_of_noPort (hled : s.led = none) (hport : ∀ l ∈ s.chip.ports, l.port ≠ t.led.port)
    (maxPasses : UInt64) (maxCycles : Option UInt64) :
    (Run.simulate t s maxPasses maxCycles).result =
      .error (.refused (.noLedPort s.chip.name t)) := by
  have hfind : s.chip.ports.find? (·.port = t.led.port) = none :=
    List.find?_eq_none.mpr fun l hl => by simpa using hport l hl
  rw [Run.simulate, hled, firmwareLed?, hfind]
  rfl

/-- A chip that cannot be switched on is not run. -/
theorem result_of_powerUp {led : PinRef} {h : Halt SimulationError}
    (hled : (s.led <|> firmwareLed? t s.chip) = some led)
    (hboot : Machine.powerUp t s.chip led = .error h) (maxPasses : UInt64)
    (maxCycles : Option UInt64) :
    (Run.simulate t s maxPasses maxCycles).result = .error (h.map .simulation) := by
  rw [Machine.powerUp] at hboot
  rw [Run.simulate, hled]
  cases hbus : Bus.ofDescriptor s.chip with
  | error e =>
    rw [hbus] at hboot
    cases hboot
    rfl
  | ok bus =>
    rw [hbus] at hboot
    dsimp only at hboot ⊢
    cases hm : Machine.boot t s.chip led bus with
    | error e =>
      rw [hm] at hboot
      cases hboot
      rfl
    | ok m =>
      rw [hm] at hboot
      cases hboot

/-- A test whose chip has booted and has been run. -/
structure Ran (files : FileTree) (a : TestArguments) (script : Script) (t : Target) (s : Setup)
    (m : Machine) (r : Report) : Prop extends Powered files a script t s (.ok m) where
  result : (Run.simulate t s script.limits.maxPasses script.limits.maxCycles).result = .ok r

/-- How a test ends. -/
inductive Fate (files : FileTree) (a : TestArguments) : Ending → Prop
  | torn (h : Torn files a) : Fate files a .trap
  | prevented (h : Prevented files a) : Fate files a (.exit .badSetup)
  | violated {script : Script} {t : Target} {s : Setup} {addr : UInt16}
    (h : Powered files a script t s (.error (.refused (.memoryViolation addr)))) :
    Fate files a (.exit .badRun)
  | failed {script : Script} {t : Target} {s : Setup} {m : Machine} {r : Report}
    (h : Ran files a script t s m r)
    (hfalse : ∃ x ∈ script.assertions, x.holds r.observed = false) :
    Fate files a (.exit .failedAssertion)
  | passed {script : Script} {t : Target} {s : Setup} {m : Machine} {r : Report}
    (h : Ran files a script t s m r)
    (htrue : ∀ x ∈ script.assertions, x.holds r.observed = true) : Fate files a (.exit .pass)

/-- A test whose chip boots is run as long as no counter overflows. -/
theorem Powered.exists_ran (h : Powered files a script t s (.ok m))
    (hroom : ∀ n,
      IsLeast {j | Boundary m script.limits.maxPasses.toNat script.limits.maxCycles j} n →
        m.Fits (List.replicate n .step)) : ∃ r, Ran files a script t s m r := by
  obtain ⟨led, hled, hboot⟩ := h.powerUp
  obtain ⟨size, -, hbooted⟩ := Machine.booted_of_powerUp h.setup.check hboot
  have hlimit : ∃ j, Boundary m script.limits.maxPasses.toNat script.limits.maxCycles j :=
    ⟨_, .inl rfl⟩
  have hleast : ∃ n, IsLeast {j | Boundary m script.limits.maxPasses.toNat
      script.limits.maxCycles j} n := by
    classical
    exact ⟨Nat.find hlimit, Nat.find_spec hlimit, fun j hj => Nat.find_min' hlimit hj⟩
  obtain ⟨n, hn⟩ := hleast
  obtain ⟨o, hrun, -⟩ := hbooted.toReady.exists_run (hroom n hn)
  obtain ⟨-, r, -, hresult, -⟩ := exists_report_of_isLeast s hled hboot h.setup.bit_lt hn
    fun e he => nomatch hrun.symm.trans he
  exact ⟨r, h, hresult⟩

theorem Ran.stopReason_ne {r : Report} (h : Ran files a script t s m r) :
    r.stopReason ≠ .memoryViolation :=
  (reason_of_simulate h.setup.check h.result).1

/-- Every test meets a fate. -/
theorem exists_fate (files : FileTree) (a : TestArguments)
    (hroom : ∀ script t s m n, Powered files a script t s (.ok m) →
      IsLeast {j | Boundary m script.limits.maxPasses.toNat script.limits.maxCycles j} n →
        m.Fits (List.replicate n .step)) : ∃ e, Fate files a e := by
  rcases fate_cases files a with hprevented | htorn | ⟨script, t, s, x, hpowered⟩
  · exact ⟨_, .prevented hprevented⟩
  · exact ⟨_, .torn htorn⟩
  match x with
  | .ok m =>
    obtain ⟨r, hran⟩ := hpowered.exists_ran fun n hn => hroom script t s m n hpowered hn
    by_cases hfalse : ∃ x ∈ script.assertions, x.holds r.observed = false
    · exact ⟨_, .failed hran hfalse⟩
    · exact ⟨_, .passed hran (by simpa using hfalse)⟩
  | .error .trap =>
    obtain ⟨led, -, hboot⟩ := hpowered.powerUp
    obtain ⟨size, hsound⟩ := Descriptor.check_eq_ok_iff.mp hpowered.setup.check
    exact absurd hboot (Machine.powerUp_ne_trap hsound t led)
  | .error (.refused e) =>
    by_cases hviolation : ∃ addr, e = .memoryViolation addr
    · obtain ⟨addr, rfl⟩ := hviolation
      exact ⟨_, .violated hpowered⟩
    · exact ⟨_, .prevented (.boot hpowered fun addr he => hviolation ⟨addr, he⟩)⟩

end LedBench.CommandLine
