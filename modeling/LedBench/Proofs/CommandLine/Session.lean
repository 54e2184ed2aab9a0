import LedBench.Proofs.CommandLine.Loading

namespace LedBench.CommandLine

open Bench Files Firmware Run

variable {α β ε : Type} {w v : Workspace}

/-- The workspace with more lines in its log. -/
def Workspace.withLog (w : Workspace) (lines : List LogLine) : Workspace :=
  { w with logged := lines.reverse ++ w.logged }

theorem Workspace.log_withLog (w : Workspace) (lines : List LogLine) :
    (w.withLog lines).log = w.log ++ lines := by
  simp [Workspace.log, Workspace.withLog]

theorem Workspace.withLog_withLog (w : Workspace) (lines more : List LogLine) :
    (w.withLog lines).withLog more = w.withLog (lines ++ more) := by
  simp [Workspace.withLog]

/-- How a session ends that cannot go on. -/
def Ending.ofHalt (code : ε → ExitCode) : Halt ε → Ending
  | .refused e => .exit (code e)
  | .trap => .trap

namespace Session

/-- What a session answers in a workspace, and the workspace it leaves. -/
def on (s : Session (StateM Workspace) α) (w : Workspace) : Except Ending α × Workspace :=
  s.run.run w

@[simp]
theorem on_pure (a : α) (w : Workspace) : on (pure a) w = (.ok a, w) := rfl

@[simp]
theorem on_throw (e : Ending) (w : Workspace) :
    on (throw e : Session (StateM Workspace) α) w = (.error e, w) := rfl

theorem on_lift (action : StateM Workspace α) (w : Workspace) :
    on (ExceptT.lift action) w = (.ok (action.run w).1, (action.run w).2) := rfl

theorem on_bind (s : Session (StateM Workspace) α) (f : α → Session (StateM Workspace) β)
    (w : Workspace) :
    on (s >>= f) w =
      match on s w with
      | (.ok a, v) => on (f a) v
      | (.error e, v) => (.error e, v) := by
  unfold on
  rw [ExceptT.run_bind, StateT.run_bind]
  rcases s.run.run w with ⟨⟨⟩ | ⟨⟩, v⟩ <;> rfl

theorem on_bind_of_ok {s : Session (StateM Workspace) α} {a : α} (h : on s w = (.ok a, v))
    (f : α → Session (StateM Workspace) β) : on (s >>= f) w = on (f a) v := by
  rw [on_bind, h]

theorem on_bind_of_error {s : Session (StateM Workspace) α} {e : Ending}
    (h : on s w = (.error e, v)) (f : α → Session (StateM Workspace) β) :
    on (s >>= f) w = (.error e, v) := by
  rw [on_bind, h]

theorem run_forM_log (lines : List LogLine) (w : Workspace) :
    (lines.forM Console.log : StateM Workspace PUnit).run w = ((), w.withLog lines) := by
  induction lines generalizing w with
  | nil => rfl
  | cons line rest ih =>
    change (rest.forM Console.log : StateM Workspace PUnit).run (w.withLog [line]) = _
    rw [ih]
    simp [Workspace.withLog]

@[simp]
theorem on_logAll (lines : List LogLine) (w : Workspace) :
    on (logAll lines) w = (.ok (), w.withLog lines) := by
  rw [logAll, on_lift, run_forM_log]

theorem run_ending (s : Session (StateM Workspace) ExitCode) (w : Workspace) :
    (ending s).run w =
      (match (on s w).1 with
        | .ok code => .exit code
        | .error e => e, (on s w).2) := by
  unfold on ending
  rw [StateT.run_bind]
  rcases s.run.run w with ⟨⟨⟩ | ⟨⟩, v⟩ <;> rfl

@[simp]
theorem on_log (severity : Severity) (text : String) (w : Workspace) :
    on (log severity text) w = (.ok (), w.withLog [⟨severity, text⟩]) := rfl

theorem run_forM_print (lines : List String) (w : Workspace) :
    (lines.forM Console.print : StateM Workspace PUnit).run w =
      ((), { w with page := lines.reverse ++ w.page }) := by
  induction lines generalizing w with
  | nil => rfl
  | cons line rest ih =>
    change (rest.forM Console.print : StateM Workspace PUnit).run _ = _
    rw [ih]
    simp

@[simp]
theorem on_printAll (lines : List String) (w : Workspace) :
    on (printAll lines) w = (.ok (), { w with page := lines.reverse ++ w.page }) := by
  rw [printAll, on_lift, run_forM_print]

@[simp]
theorem on_fail (code : ExitCode) (reason : String) (w : Workspace) :
    on (fail code reason : Session (StateM Workspace) α) w =
      (.error (.exit code), w.withLog [⟨.error, reason⟩]) := rfl

theorem on_writeJson_of_ok {path : String} {j : Json} {t : FileTree}
    (h : w.files.write path j.pretty = .ok t) :
    on (writeJson path j) w = (.ok (), { w with files := t }) := by
  have hfiles : (FileStore.write path j.pretty : StateM FileTree (Except FileError Unit)).run
      w.files = (.ok (), t) := by
    simp [FileStore.write, h]
    rfl
  have hwrite : (FileStore.write path j.pretty : StateM Workspace (Except FileError Unit)).run w =
      (.ok (), { w with files := t }) :=
    congrArg (fun x : Except FileError Unit × FileTree =>
      (x.1, ({ w with files := x.2 } : Workspace))) hfiles
  rw [writeJson, on_bind, on_lift, hwrite]
  rfl

/-- A session that answers something in a workspace and does no more there than to log. -/
def Answers (s : Session (StateM Workspace) α) (w : Workspace) (x : Except Ending α) : Prop :=
  ∃ lines, on s w = (x, w.withLog lines)

theorem Answers.of_on {s : Session (StateM Workspace) α} {x : Except Ending α}
    (h : on s w = (x, w)) : Answers s w x :=
  ⟨[], h⟩

/-- A session goes on in the same workspace, more of its log apart. -/
theorem Answers.bind {s : Session (StateM Workspace) α} {a : α} (h : Answers s w (.ok a))
    {f : α → Session (StateM Workspace) β} {x : Except Ending β}
    (hf : ∀ lines, Answers (f a) (w.withLog lines) x) : Answers (s >>= f) w x := by
  obtain ⟨lines, hs⟩ := h
  obtain ⟨more, hmore⟩ := hf lines
  refine ⟨lines ++ more, ?_⟩
  rw [on_bind_of_ok hs, hmore, Workspace.withLog_withLog]

theorem Answers.bind_error {s : Session (StateM Workspace) α} {e : Ending}
    (h : Answers s w (.error e)) (f : α → Session (StateM Workspace) β) :
    Answers (s >>= f) w (.error e) := by
  obtain ⟨lines, hs⟩ := h
  exact ⟨lines, on_bind_of_error hs f⟩

theorem answers_orFail (code : ε → ExitCode) (message : ε → String) (x : Except (Halt ε) α)
    (w : Workspace) : Answers (orFail code message x) w (x.mapError (.ofHalt code)) := by
  match x with
  | .ok a => exact .of_on (on_pure a w)
  | .error (.refused e) => exact ⟨_, on_fail (code e) (message e) w⟩
  | .error .trap => exact .of_on (on_throw .trap w)

theorem answers_log (severity : Severity) (text : String) (w : Workspace) :
    Answers (log severity text) w (.ok ()) :=
  ⟨_, on_log severity text w⟩

theorem answers_logAll (lines : List LogLine) (w : Workspace) :
    Answers (logAll lines) w (.ok ()) :=
  ⟨lines, on_logAll lines w⟩

/-- Loading goes on with what the files yield, or ends as a bad set-up. -/
theorem answers_loaded {x : Loading (StateM Workspace) α} {y : Loading (StateM FileTree) α}
    (h : Looks x y) (w : Workspace) :
    Answers (loaded x) w ((w.files.yields y).mapError (.ofHalt fun _ => .badSetup)) := by
  have hload : on (ExceptT.lift x.run) w = (.ok (w.files.yields y), w) := by
    rw [on_lift, h.run_workspace]
  exact (Answers.of_on hload).bind fun _ => answers_orFail ..

theorem answers_setup_some (t : Target) (path : String) (w : Workspace) :
    Answers (setup t (some path)) w
      ((w.files.yields (Setup.load path)).mapError (.ofHalt fun _ => .badSetup)) :=
  (answers_log ..).bind fun _ => answers_loaded (.loadSetup path) (w.withLog _)

theorem answers_simulate (limit : Severity) (t : Target) (s : Setup) (maxPasses : UInt64)
    (maxCycles : Option UInt64) (w : Workspace) :
    Answers (simulate limit t s maxPasses maxCycles) w
      ((Run.simulate t s maxPasses maxCycles).result.mapError (.ofHalt .ofRunError)) :=
  (answers_logAll ..).bind fun _ => answers_orFail ..

end Session

end LedBench.CommandLine
