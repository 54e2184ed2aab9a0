import LedBench.Proofs.CommandLine.Fate
import LedBench.Proofs.CommandLine.Session
import LedBench.Proofs.Watchdog.Schedule

namespace LedBench

open Bench Chip Files Firmware Run

/-- Writes the two files of a record into a directory, which is made if it is missing. Without a
    directory nothing is written. -/
def Files.FileTree.record (t : FileTree) (directory : Option String) (result changes : String) :
    Except FileError FileTree :=
  match directory with
  | none => .ok t
  | some path =>
    match t.ensureDirectories path with
    | (_, .error e) => .error e
    | (t, .ok ()) =>
      match t.write (Path.join path "result.json") result with
      | .error e => .error e
      | .ok t => t.write (Path.join path "trace.json") changes

namespace CommandLine

variable {files : FileTree} {a : TestArguments} {script : Script} {t : Target} {s : Setup}
  {m : Machine} {w : Workspace} {path : String}

/-- The number that a command ends with, unless it traps. -/
def Ending.code? : Ending → Option Nat
  | .exit code => some code.toNat
  | .trap => none

theorem Ending.code?_eq_some_iff {e : Ending} (c : ExitCode) :
    e.code? = some c.toNat ↔ e = .exit c := by
  rcases e with ⟨⟨⟩⟩ | _ <;> cases c <;> simp [code?, ExitCode.toNat]

theorem Ending.code?_eq_none_iff {e : Ending} : e.code? = none ↔ e = .trap := by
  cases e <;> simp [code?]

open Session

theorem answers_limited (a : TestArguments) (w : Workspace) :
    Answers (loaded do liftExcept (a.limited (← Script.load a.script))) w
      (((w.files.yields (Script.load a.script)).bind a.limited).mapError
        (.ofHalt fun _ => .badSetup)) := by
  have hscript : Looks (Script.load a.script) (Script.load a.script) :=
    .loadAs .script a.script Script.ofYaml
  have hload := answers_loaded (hscript.bind fun given => .liftExcept (a.limited given)) w
  rw [hscript.yields_bind] at hload
  simpa only [FileTree.yields_liftExcept] using hload

theorem Scripted.answers (h : Scripted w.files a script t) :
    Answers (loaded do liftExcept (a.limited (← Script.load a.script))) w (.ok script) := by
  obtain ⟨given, hload, hlimit⟩ := h.limited
  have hlimited := answers_limited a w
  rwa [hload, Except.bind, hlimit] at hlimited

theorem SetUp.answers {system : Option String} (h : SetUp w.files t system s) :
    Answers (setup t system) w (.ok s) := by
  cases system with
  | none =>
    cases h
    exact (answers_log ..).bind fun lines => .of_on (on_pure _ _)
  | some path =>
    have hload := answers_setup_some t path w
    rwa [h.yields] at hload

/-- A test whose manifest gives no set-up ends there. -/
theorem Scripted.answers_perform (h : Scripted w.files a script t) (limit : Severity)
    (hpath : script.inputs.system = some path) {halt : Halt LoadError}
    (hload : w.files.yields (Setup.load (Path.besides a.script path)) = .error halt) :
    Answers (a.perform limit) w (.error (.ofHalt (fun _ => .badSetup) halt)) := by
  unfold TestArguments.perform
  refine h.answers.bind fun lines => ?_
  rw [h.target, hpath]
  have hsetup := answers_setup_some t (Path.besides a.script path) (w.withLog lines)
  rw [show (w.withLog lines).files = w.files from rfl, hload] at hsetup
  exact hsetup.bind_error _

/-- A test whose set-up cannot be run ends there. -/
theorem Prepared.answers_perform (h : Prepared w.files a script t s) (limit : Severity)
    {halt : Halt RunError}
    (hrun : (Run.simulate t s script.limits.maxPasses script.limits.maxCycles).result =
      .error halt) :
    Answers (a.perform limit) w (.error (.ofHalt .ofRunError halt)) := by
  unfold TestArguments.perform
  refine h.answers.bind fun lines => ?_
  rw [h.target]
  refine SetUp.answers (w := w.withLog lines) h.setup |>.bind fun more => ?_
  have hsimulate := answers_simulate limit t s script.limits.maxPasses script.limits.maxCycles
    ((w.withLog lines).withLog more)
  rw [hrun] at hsimulate
  exact hsimulate.bind_error _

theorem ofRunError_simulation {e : SimulationError} (h : ∀ addr, e ≠ .memoryViolation addr) :
    ExitCode.ofRunError (.simulation e) = .badSetup := by
  cases e with
  | memoryViolation addr => exact absurd rfl (h addr)
  | _ => rfl

/-- A test that has something wrong with it ends as a bad set-up. -/
theorem Prevented.answers (limit : Severity) (h : Prevented w.files a) :
    Answers (a.perform limit) w (.error (.exit .badSetup)) := by
  cases h with
  | script h =>
    have hlimited := answers_limited a w
    rw [h] at hlimited
    exact hlimited.bind_error _
  | limit hload h =>
    have hlimited := answers_limited a w
    rw [hload, Except.bind, h] at hlimited
    exact hlimited.bind_error _
  | target hload hlimit h =>
    have hlimited := answers_limited a w
    rw [hload, Except.bind, hlimit] at hlimited
    refine hlimited.bind fun lines => ?_
    rw [h]
    exact ⟨_, on_fail ..⟩
  | setup hscript hpath h =>
    obtain ⟨e, he⟩ := h.yields
    exact hscript.answers_perform limit hpath he
  | noPort hprepared hled hport =>
    exact hprepared.answers_perform limit (result_of_noPort hled hport _ _)
  | boot hpowered h =>
    obtain ⟨led, hled, hboot⟩ := hpowered.powerUp
    have hend := hpowered.answers_perform limit (result_of_powerUp hled hboot _ _)
    rwa [Halt.map, Ending.ofHalt, ofRunError_simulation h] at hend

theorem Torn.answers (limit : Severity) (h : Torn w.files a) :
    Answers (a.perform limit) w (.error .trap) := by
  obtain ⟨script, t, path, hscript, hpath, htorn⟩ := h
  exact hscript.answers_perform limit hpath htorn.yields

/-- The record is written as it would be by hand. -/
theorem on_writeResult {directory : String} {result : TestResult} {r : Report} {v : FileTree}
    (h : w.files.record (some directory) result.toJson.pretty (changesJson r).pretty = .ok v) :
    on (writeResult directory result r) w = (.ok (), { w with files := v }) := by
  unfold FileTree.record at h
  have hmake : on (ExceptT.lift (FileStore.ensureDirectories directory)) w =
      (.ok (w.files.ensureDirectories directory).2,
        { w with files := (w.files.ensureDirectories directory).1 }) := rfl
  rw [writeResult, on_bind_of_ok hmake]
  dsimp only at h
  split at h
  · cases h
  rename_i made hmade
  rw [hmade]
  split at h
  · cases h
  rename_i written hresult
  rw [on_bind_of_ok (on_writeJson_of_ok (w := { w with files := made }) hresult)]
  exact on_writeJson_of_ok (w := { w with files := written }) h

/-- A test that has run prints its verdict and logs its judgements. -/
theorem Prepared.on_perform (h : Prepared w.files a script t s) (limit : Severity) {r : Report}
    (hrun : (Run.simulate t s script.limits.maxPasses script.limits.maxCycles).result = .ok r)
    {js : List Judgement} (hjs : judge r.observed script.assertions = js) {result : TestResult}
    (hresult : TestResult.ofReport r s.chip t script.limits js
      ⟨a.script, script.inputs.system.map (Path.besides a.script)⟩ = result) {v : FileTree}
    (hwrite : w.files.record a.outputDir result.toJson.pretty (changesJson r).pretty = .ok v) :
    ∃ lines, on (a.perform limit) w =
      (.ok (.ofVerdict (.ofJudgements r.stopReason js)),
        { w.withLog (lines ++ js.map judgementLine) with
          page := (a.script ++ ": " ++ (Verdict.ofJudgements r.stopReason js).name) :: w.page
          files := v }) := by
  obtain ⟨lines, hlimited⟩ := Scripted.answers h.toScripted
  obtain ⟨more, hsetup⟩ := SetUp.answers (w := w.withLog lines) h.setup
  have hsimulate := answers_simulate limit t s script.limits.maxPasses script.limits.maxCycles
    ((w.withLog lines).withLog more)
  rw [hrun] at hsimulate
  obtain ⟨last, hsimulate⟩ := hsimulate
  refine ⟨lines ++ more ++ last, ?_⟩
  rw [TestArguments.perform, on_bind_of_ok hlimited, h.target]
  dsimp only
  rw [on_bind_of_ok hsetup, on_bind_of_ok hsimulate, hjs, on_bind_of_ok (on_logAll _ _),
    on_bind_of_ok (on_printAll _ _), hresult]
  simp only [Workspace.withLog_withLog, List.append_assoc]
  cases hdirectory : a.outputDir with
  | none =>
    rw [hdirectory] at hwrite
    cases hwrite
    exact on_pure _ _
  | some directory =>
    rw [hdirectory] at hwrite
    exact (on_bind_of_ok (on_writeResult (w := { w.withLog _ with page := _ }) hwrite) _).trans
      (on_pure _ _)

theorem any_failed_iff {o : Observed} {assertions : List Assertion} :
    (judge o assertions).any (!·.passed) = true ↔ ∃ x ∈ assertions, x.holds o = false := by
  simp [judge]

theorem ofJudgements_of_failed {o : Observed} {assertions : List Assertion}
    (h : ∃ x ∈ assertions, x.holds o = false) (reason : StopReason) :
    Verdict.ofJudgements reason (judge o assertions) = .fail := by
  rw [Verdict.ofJudgements, if_pos (any_failed_iff.mpr h)]

/-- Unless a fault ends a run, it passes when no assertion fails. -/
theorem ofJudgements_of_passed {o : Observed} {assertions : List Assertion}
    (h : ∀ x ∈ assertions, x.holds o = true) {reason : StopReason}
    (hreason : reason ≠ .memoryViolation) :
    Verdict.ofJudgements reason (judge o assertions) = .pass := by
  have hnone : ¬ (judge o assertions).any (!·.passed) = true := by
    rw [any_failed_iff]
    rintro ⟨x, hx, hfalse⟩
    rw [h x hx] at hfalse
    cases hfalse
  rw [Verdict.ofJudgements, if_neg hnone, decide_eq_false hreason]
  rfl

/-- What a test leaves that has run. -/
theorem Ran.on_perform {r : Report} (h : Ran w.files a script t s m r) (limit : Severity)
    (hwrites : ∀ result changes, ∃ v, w.files.record a.outputDir result changes = .ok v) :
    ∃ (lines : List LogLine) (v : Workspace) (verdict : Verdict) (record : TestResult),
      Verdict.ofJudgements r.stopReason (judge r.observed script.assertions) = verdict ∧
      on (a.perform limit) w = (.ok (.ofVerdict verdict), v) ∧
      record.status = verdict.name ∧
      record.judgements = judge r.observed script.assertions ∧
      v.log = w.log ++ lines ++ record.judgements.map judgementLine ∧
      v.page = (a.script ++ ": " ++ record.status) :: w.page ∧
      w.files.record a.outputDir record.toJson.pretty (changesJson r).pretty = .ok v.files := by
  let record := TestResult.ofReport r s.chip t script.limits (judge r.observed script.assertions)
    ⟨a.script, script.inputs.system.map (Path.besides a.script)⟩
  obtain ⟨v, hwrite⟩ := hwrites record.toJson.pretty (changesJson r).pretty
  obtain ⟨lines, hperform⟩ := h.toPrepared.on_perform limit h.result rfl rfl hwrite
  refine ⟨lines, _, _, record, rfl, hperform, rfl, rfl, ?_, rfl, hwrite⟩
  rw [List.append_assoc]
  exact Workspace.log_withLog w _

theorem Fate.ending_eq {e : Ending} (h : Fate w.files a e) (limit : Severity)
    (hwrites : ∀ result changes, ∃ v, w.files.record a.outputDir result changes = .ok v) :
    ((ending (a.perform limit) : StateM Workspace Ending).run w).1 = e := by
  rw [run_ending]
  cases h with
  | torn h =>
    obtain ⟨lines, hperform⟩ := h.answers limit
    rw [hperform]
  | prevented h =>
    obtain ⟨lines, hperform⟩ := h.answers limit
    rw [hperform]
  | violated h =>
    obtain ⟨led, hled, hboot⟩ := h.powerUp
    obtain ⟨lines, hperform⟩ :=
      h.toPrepared.answers_perform limit (result_of_powerUp hled hboot _ _)
    rw [hperform]
    rfl
  | failed h hfalse =>
    obtain ⟨lines, v, verdict, record, hverdict, hperform, -⟩ := h.on_perform limit hwrites
    rw [hperform, ← hverdict, ofJudgements_of_failed hfalse]
    rfl
  | passed h htrue =>
    obtain ⟨lines, v, verdict, record, hverdict, hperform, -⟩ := h.on_perform limit hwrites
    rw [hperform, ← hverdict, ofJudgements_of_passed htrue h.stopReason_ne]
    rfl

/-- What is not run prints nothing and writes nothing. -/
theorem Fate.unchanged {e : Ending} (h : Fate w.files a e)
    (hnot : ¬ ∃ script t s m, Powered w.files a script t s (.ok m)) (limit : Severity) :
    (on (a.perform limit) w).2.page = w.page ∧ (on (a.perform limit) w).2.files = w.files := by
  have hlogs : ∀ x, Answers (a.perform limit) w x →
      (on (a.perform limit) w).2.page = w.page ∧ (on (a.perform limit) w).2.files = w.files := by
    rintro x ⟨lines, hperform⟩
    rw [hperform]
    exact ⟨rfl, rfl⟩
  cases h with
  | torn h => exact hlogs _ (h.answers limit)
  | prevented h => exact hlogs _ (h.answers limit)
  | violated h =>
    obtain ⟨led, hled, hboot⟩ := h.powerUp
    exact hlogs _ (h.toPrepared.answers_perform limit (result_of_powerUp hled hboot _ _))
  | failed h hfalse => exact absurd ⟨_, _, _, _, h.toPowered⟩ hnot
  | passed h htrue => exact absurd ⟨_, _, _, _, h.toPowered⟩ hnot

/-- Where no counter overflows and the record can be written, a test ends with the number 2 exactly
    when something prevents its run, with 3 exactly when its chip violates memory while it is
    switched on, and else with 1 or 0, as some assertion fails on the report or none does. It traps
    exactly when the size of its chip is torn. A test that is not run prints and writes nothing. Of
    one that is, the verdict that is printed and the record agree with its assertions, which stand
    in the log and in the record in the order of the script: its status is never an error, and to
    expect a violation of memory always fails. -/
theorem code?_perform (w : Workspace) (trace : Bool) (a : TestArguments)
    (hwrites : ∀ result changes, ∃ v, w.files.record a.outputDir result changes = .ok v)
    (hroom : ∀ script t s m n, Powered w.files a script t s (.ok m) →
      IsLeast {j | Boundary m script.limits.maxPasses.toNat script.limits.maxCycles j} n →
        m.Fits (List.replicate n .step)) :
    ∃ (e : Ending) (v : Workspace),
      (Arguments.perform ⟨trace, .test a⟩ : StateM Workspace Ending).run w = (e, v) ∧
      (e.code? = none ↔ Torn w.files a) ∧
      (e.code? = some 2 ↔ Prevented w.files a) ∧
      (e.code? = some 3 ↔ ∃ script t s addr,
        Powered w.files a script t s (.error (.refused (.memoryViolation addr)))) ∧
      (e.code? = some 1 ↔ ∃ script t s m r, Ran w.files a script t s m r ∧
        ∃ x ∈ script.assertions, x.holds r.observed = false) ∧
      (e.code? = some 0 ↔ ∃ script t s m r, Ran w.files a script t s m r ∧
        ∀ x ∈ script.assertions, x.holds r.observed = true) ∧
      ((¬ ∃ script t s m, Powered w.files a script t s (.ok m)) →
        v.page = w.page ∧ v.files = w.files) ∧
      ∀ script t s m, Powered w.files a script t s (.ok m) →
        ∃ (lines : List LogLine) (r : Report) (record : TestResult),
          Ran w.files a script t s m r ∧
          (Assertion.stopReason .memoryViolation).holds r.observed = false ∧
          record.status =
            (if ∃ x ∈ script.assertions, x.holds r.observed = false then "fail" else "pass") ∧
          record.judgements = script.assertions.map (fun x => ⟨x, x.holds r.observed⟩) ∧
          v.log = w.log ++ lines ++ record.judgements.map judgementLine ∧
          v.page = (a.script ++ ": " ++ record.status) :: w.page ∧
          w.files.record a.outputDir record.toJson.pretty (changesJson r).pretty = .ok v.files := by
  let limit : Severity := if trace then .debug else .info
  obtain ⟨e, hmet⟩ := exists_fate w.files a hroom
  have hending := hmet.ending_eq limit hwrites
  have hfate : ∀ e', e = e' ↔ Fate w.files a e' :=
    fun e' => ⟨fun h => h ▸ hmet, fun h => hending.symm.trans (h.ending_eq limit hwrites)⟩
  refine ⟨e, (on (a.perform limit) w).2, ?_, ?_, ?_, ?_, ?_, ?_, ?_, ?_⟩
  · exact Prod.ext hending (by rw [Arguments.perform, run_ending])
  · rw [Ending.code?_eq_none_iff, hfate]
    exact ⟨fun | .torn h => h, .torn⟩
  · rw [show 2 = ExitCode.toNat .badSetup from rfl, Ending.code?_eq_some_iff, hfate]
    exact ⟨fun | .prevented h => h, .prevented⟩
  · rw [show 3 = ExitCode.toNat .badRun from rfl, Ending.code?_eq_some_iff, hfate]
    exact ⟨fun | .violated h => ⟨_, _, _, _, h⟩, fun ⟨_, _, _, _, h⟩ => .violated h⟩
  · rw [show 1 = ExitCode.toNat .failedAssertion from rfl, Ending.code?_eq_some_iff, hfate]
    exact ⟨fun | .failed h hfalse => ⟨_, _, _, _, _, h, hfalse⟩,
      fun ⟨_, _, _, _, _, h, hfalse⟩ => .failed h hfalse⟩
  · rw [show 0 = ExitCode.toNat .pass from rfl, Ending.code?_eq_some_iff, hfate]
    exact ⟨fun | .passed h htrue => ⟨_, _, _, _, _, h, htrue⟩,
      fun ⟨_, _, _, _, _, h, htrue⟩ => .passed h htrue⟩
  · exact fun hnot => hmet.unchanged hnot limit
  · intro script t s m hpowered
    obtain ⟨r, hran⟩ := hpowered.exists_ran fun n hn => hroom script t s m n hpowered hn
    obtain ⟨lines, v, verdict, record, hverdict, hperform, hstatus, hleft⟩ :=
      hran.on_perform limit hwrites
    rw [hperform]
    refine ⟨lines, r, record, hran, decide_eq_false hran.stopReason_ne, ?_, hleft⟩
    rw [hstatus, ← hverdict]
    split
    · rename_i hfalse
      rw [ofJudgements_of_failed hfalse]
      rfl
    · rename_i htrue
      rw [ofJudgements_of_passed (by simpa using htrue) hran.stopReason_ne]
      rfl

/-- A test that expects a violation of memory from the built-in 18-pin part. -/
def expectsViolation : FileTree where
  home := []
  entries := [(["test.yaml"], .file ("schema_version: '1.0'\n" ++
    "inputs: \x7btarget: PIC16F628A\x7d\n" ++
    "limits: \x7bmax_passes: 1\x7d\nassertions: [expected_stop_reason: memory_violation]\n"))]

/-- What there is to run for a test that expects a violation. -/
theorem powered_expectsViolation {x : Except (Halt SimulationError) Machine} :
    Powered expectsViolation { script := "test.yaml" } script t s x ↔
      script = ⟨"1.0", ⟨"PIC16F628A", none⟩, ⟨1, none⟩, [.stopReason .memoryViolation]⟩ ∧
        t = .pic16f628a ∧ s = ⟨.ofTarget .pic16f628a, none⟩ ∧
        Machine.powerUp .pic16f628a (.ofTarget .pic16f628a) ⟨"portb", 0⟩ = x := by
  have hyields : expectsViolation.yields (Script.load "test.yaml") =
      .ok ⟨"1.0", ⟨"PIC16F628A", none⟩, ⟨1, none⟩, [.stopReason .memoryViolation]⟩ := by
    decide +kernel
  have hname : Target.namedIgnoringCase? "PIC16F628A" = some .pic16f628a := by
    decide +kernel
  constructor
  · rintro ⟨⟨⟨⟨given, hload, hlimit⟩, htarget⟩, hsetup⟩, led, hled, hboot⟩
    cases hyields.symm.trans hload
    cases hlimit
    cases hname.symm.trans htarget
    cases hsetup
    cases hled
    exact ⟨rfl, rfl, rfl, hboot⟩
  · rintro ⟨rfl, rfl, rfl, hboot⟩
    exact ⟨⟨⟨⟨_, hyields, rfl⟩, hname⟩, .builtin⟩, _, rfl, hboot⟩

/-- To expect a violation of memory fails on a chip that boots. -/
theorem code?_perform_expectsViolation :
    ∃ (e : Ending) (v : Workspace),
      (Arguments.perform ⟨false, .test { script := "test.yaml" }⟩ : StateM Workspace Ending).run
        { files := expectsViolation } = (e, v) ∧
      e.code? = some 1 ∧ v.page = ["test.yaml: fail"] := by
  have hbooted : ∃ m, Machine.powerUp .pic16f628a (.ofTarget .pic16f628a) ⟨"portb", 0⟩ = .ok m :=
    Machine.exists_powerUp (by decide +kernel)
  obtain ⟨e, v, hperform, -, -, -, hfailed, -, -, hran⟩ :=
    code?_perform { files := expectsViolation } false { script := "test.yaml" }
      (fun _ _ => ⟨_, rfl⟩) (by
        intro script t s m n hpowered hn
        obtain ⟨rfl, rfl, rfl, hboot⟩ := powered_expectsViolation.mp hpowered
        obtain ⟨size, hsound, hbooted⟩ :=
          Machine.booted_of_powerUp (Descriptor.check_ofTarget .pic16f628a) hboot
        have hle : n ≤ 1 := hn.2 (.inl rfl)
        obtain ⟨o, hrun, -⟩ := (hbooted.onSchedule hsound).exists_run n
          (Nat.lt_of_le_of_lt (Descriptor.cyclesWithin_mono _ _ (by omega)) (by decide :
            (Descriptor.ofTarget .pic16f628a).cyclesWithin .pic16f628a 1 < UInt64.size))
        exact hbooted.fits_iff.mpr ⟨o, hrun⟩)
  obtain ⟨m, hboot⟩ := hbooted
  obtain ⟨lines, r, record, hr, hviolation, hstatus, -, -, hpage, -⟩ :=
    hran _ _ _ m (powered_expectsViolation.mpr ⟨rfl, rfl, rfl, hboot⟩)
  have hfalse : ∃ x ∈ [Assertion.stopReason .memoryViolation], x.holds r.observed = false :=
    ⟨_, List.mem_singleton_self _, hviolation⟩
  rw [if_pos hfalse] at hstatus
  refine ⟨e, v, hperform, hfailed.mpr ⟨_, _, _, _, _, hr, hfalse⟩, ?_⟩
  rw [hpage, hstatus]
  decide

/-- The test of a chip whose size is half a byte, in a numeral that takes two bytes. -/
def halfByte : FileTree where
  home := []
  entries := [
    (["test.yaml"], .file ("schema_version: '1.0'\n" ++
      "inputs: \x7btarget: pic16f1823, system: system.yaml\x7d\nlimits: \x7bmax_passes: 1\x7d\n")),
    (["system.yaml"], .file "name: bench\nchip: chip.yaml\n"),
    (["chip.yaml"], .file ("name: pic16f1823\ndata_memory: ½B\ninstruction_clock_hz: 1\n" ++
      "config_word: \x7baddress: 0\x7d\n" ++
      "watchdog: \x7bmask: 0, enabled_when: [], period_us: 0\x7d\n" ++
      "ports: [\x7bid: porta, width: 1, port: 0, tris: 1\x7d]\n"))]

/-- The chip of this test does not load, and yet the test has no number to end with. -/
theorem code?_perform_halfByte :
    (halfByte.yields (Setup.load "system.yaml")).isOk = false ∧
      ((Arguments.perform ⟨false, .test { script := "test.yaml" }⟩ : StateM Workspace Ending).run
        { files := halfByte }).1.code? = none := by
  decide +kernel

end CommandLine

end LedBench
