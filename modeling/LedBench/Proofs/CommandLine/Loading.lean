import LedBench.CommandLine.Session
import LedBench.Proofs.Chip.Torn
import LedBench.Proofs.Connection.Grammar

namespace LedBench

open Chip Files Firmware Run

variable {α β : Type} {t : FileTree}

/-- Loading the set-up that a manifest describes. -/
def Run.Setup.load {m : Type → Type} [Monad m] [FileStore m] (path : String) : Loading m Setup := do
  let system ← Manifest.load path
  let chip ← system.loadChip (Path.directory path)
  let led ← liftExcept system.loadLed
  return { chip, led }

/-- What an action yields from a tree of files. -/
def Files.FileTree.yields (t : FileTree) (action : Loading (StateM FileTree) α) :
    Except (Halt LoadError) α :=
  (action.run.run t).1

namespace CommandLine

/-- An action in a workspace and one on its files that yield the same and change nothing. -/
structure Looks (x : Loading (StateM Workspace) α) (y : Loading (StateM FileTree) α) : Prop where
  run_workspace : ∀ w : Workspace, x.run.run w = (w.files.yields y, w)
  run_files : ∀ t : FileTree, y.run.run t = (t.yields y, t)

namespace Looks

variable {x : Loading (StateM Workspace) α} {y : Loading (StateM FileTree) α}

protected theorem pure (a : α) : Looks (pure a) (pure a) := ⟨fun _ => rfl, fun _ => rfl⟩

protected theorem liftExcept (e : Except (Halt LoadError) α) :
    Looks (liftExcept e) (liftExcept e) := by
  cases e <;> exact ⟨fun _ => rfl, fun _ => rfl⟩

theorem yields_bind (h : Looks x y) (f : α → Loading (StateM FileTree) β) (t : FileTree) :
    t.yields (y >>= f) = (t.yields y).bind fun a => t.yields (f a) := by
  rw [FileTree.yields, ExceptT.run_bind, StateT.run_bind, h.run_files]
  cases t.yields y <;> rfl

protected theorem bind (h : Looks x y) {f : α → Loading (StateM Workspace) β}
    {g : α → Loading (StateM FileTree) β} (hf : ∀ a, Looks (f a) (g a)) :
    Looks (x >>= f) (y >>= g) := by
  constructor
  · intro w
    rw [ExceptT.run_bind, StateT.run_bind, h.run_workspace, h.yields_bind]
    cases w.files.yields y with
    | ok a => exact (hf a).run_workspace w
    | error e => rfl
  · intro t
    rw [ExceptT.run_bind, StateT.run_bind, h.run_files, h.yields_bind]
    cases t.yields y with
    | ok a => exact (hf a).run_files t
    | error e => rfl

protected theorem read (path : String) :
    Looks (ExceptT.lift (FileStore.read path)) (ExceptT.lift (FileStore.read path)) :=
  ⟨fun _ => rfl, fun _ => rfl⟩

protected theorem throw (e : Halt LoadError) :
    Looks (throw e : Loading (StateM Workspace) α) (throw e : Loading (StateM FileTree) α) :=
  ⟨fun _ => rfl, fun _ => rfl⟩

protected theorem load (kind : FileKind) (path : String) :
    Looks (kind.load path) (kind.load path) := by
  refine (Looks.read path).bind fun answer => ?_
  match answer with
  | .ok (some text) => exact .pure text
  | .ok none => exact .throw _
  | .error e => exact .throw _

/-- The text of a file, and what is read from it. -/
theorem loadAs (kind : FileKind) (path : String) (f : String → Except (Halt LoadError) α) :
    Looks (do liftExcept (f (← kind.load path))) (do liftExcept (f (← kind.load path))) :=
  (Looks.load kind path).bind fun text => .liftExcept (f text)

theorem loadChip (base : String) (system : Manifest) :
    Looks (system.loadChip base) (system.loadChip base) := by
  unfold Manifest.loadChip
  split
  · exact .pure _
  · exact .loadAs .chip _ Descriptor.ofYaml

theorem loadSetup (path : String) : Looks (Setup.load path) (Setup.load path) := by
  refine (loadAs .manifest path Manifest.ofYaml).bind fun system => ?_
  refine (loadChip (Path.directory path) system).bind fun chip => ?_
  exact (Looks.liftExcept system.loadLed).bind fun led => .pure _

end Looks

end CommandLine

namespace Files.FileTree

theorem yields_liftExcept (e : Except (Halt LoadError) α) (t : FileTree) :
    t.yields (liftExcept e) = e := by
  cases e <;> rfl

theorem yields_load_ne_trap (t : FileTree) (kind : FileKind) (path : String) :
    t.yields (kind.load path) ≠ .error .trap := by
  have hread : t.yields (ExceptT.lift (FileStore.read path)) =
      .ok ((t.read path).map Entry.text?) := rfl
  rw [FileKind.load, (CommandLine.Looks.read path).yields_bind, hread]
  rcases (t.read path).map Entry.text? with e | (_ | text) <;> nofun

theorem yields_loadAs (t : FileTree) (kind : FileKind) (path : String)
    (f : String → Except (Halt LoadError) α) :
    t.yields (do liftExcept (f (← kind.load path))) = (t.yields (kind.load path)).bind f := by
  rw [(CommandLine.Looks.load kind path).yields_bind]
  simp only [yields_liftExcept]

theorem yields_loadAs_eq_ok {kind : FileKind} {f : String → Except (Halt LoadError) α} {a : α}
    (h : t.yields (do liftExcept (f (← kind.load path))) = .ok a) :
    ∃ text, t.yields (kind.load path) = .ok text ∧ f text = .ok a := by
  rw [yields_loadAs] at h
  cases hload : t.yields (kind.load path) with
  | error e =>
    rw [hload] at h
    cases h
  | ok text =>
    rw [hload] at h
    exact ⟨text, rfl, h⟩

/-- What is loaded traps only where its text does. -/
theorem yields_loadAs_eq_trap_iff {kind : FileKind} {f : String → Except (Halt LoadError) α} :
    t.yields (do liftExcept (f (← kind.load path))) = .error .trap ↔
      ∃ text, t.yields (kind.load path) = .ok text ∧ f text = .error .trap := by
  rw [yields_loadAs]
  cases hload : t.yields (kind.load path) with
  | error e =>
    simp only [reduceCtorEq, false_and, exists_false, iff_false]
    rintro ⟨⟩
    exact yields_load_ne_trap t kind path hload
  | ok text =>
    simp only [Except.ok.injEq, exists_eq_left']
    rfl

end Files.FileTree

theorem Script.ofYaml_ne_trap (text : String) : Script.ofYaml text ≠ .error .trap := by
  rw [Script.ofYaml]
  split
  · nofun
  · rename_i s _
    cases s.check <;> nofun

theorem Manifest.ofYaml_ne_trap (text : String) : Manifest.ofYaml text ≠ .error .trap := by
  unfold Manifest.ofYaml
  split <;> nofun

/-- A descriptor that is read from a text has passed its checks. -/
theorem Chip.Descriptor.check_of_ofYaml {text : String} {d : Descriptor}
    (h : Descriptor.ofYaml text = .ok d) : d.check = .ok () := by
  unfold Descriptor.ofYaml at h
  split at h
  · cases h
  · rename_i given _
    cases hcheck : given.check with
    | error e =>
      rw [hcheck] at h
      cases h
    | ok u =>
      rw [hcheck] at h
      cases h
      exact hcheck

theorem Chip.Descriptor.ofYaml_eq_trap_iff {text : String} :
    Descriptor.ofYaml text = .error .trap ↔
      ∃ d, (Yaml.Place.parse? text).bind Descriptor.read? = some d ∧ d.Torn := by
  unfold Descriptor.ofYaml
  cases (Yaml.Place.parse? text).bind Descriptor.read? with
  | none => simp
  | some d =>
    simp only [Option.some.injEq, exists_eq_left', ← Descriptor.check_eq_trap_iff]
    rcases d.check with (_ | _) | _
    · exact iff_of_false nofun nofun
    · exact iff_of_true rfl rfl
    · exact iff_of_false nofun nofun

theorem Chip.Descriptor.check_ofTarget (t : Target) : (Descriptor.ofTarget t).check = .ok () := by
  cases t <;> rfl

namespace Files.FileTree

theorem yields_loadScript_ne_trap (t : FileTree) (path : String) :
    t.yields (Script.load path) ≠ .error .trap := by
  intro h
  obtain ⟨text, -, htrap⟩ := yields_loadAs_eq_trap_iff.mp h
  exact Script.ofYaml_ne_trap text htrap

theorem yields_loadManifest_ne_trap (t : FileTree) (path : String) :
    t.yields (Manifest.load path) ≠ .error .trap := by
  intro h
  obtain ⟨text, -, htrap⟩ := yields_loadAs_eq_trap_iff.mp h
  exact Manifest.ofYaml_ne_trap text htrap

/-- The chip of a manifest has passed its checks. -/
theorem check_of_loadChip {base : String} {system : Manifest} {d : Descriptor}
    (h : t.yields (system.loadChip base) = .ok d) : d.check = .ok () := by
  unfold Manifest.loadChip at h
  split at h
  · rename_i target _
    cases h
    exact Descriptor.check_ofTarget target
  · obtain ⟨text, -, hchip⟩ := yields_loadAs_eq_ok h
    exact Descriptor.check_of_ofYaml hchip

/-- Loading the chip of a manifest traps only on the text of a torn descriptor. -/
theorem yields_loadChip_eq_trap_iff {base : String} {system : Manifest} :
    t.yields (system.loadChip base) = .error .trap ↔
      Target.namedIgnoringCase? system.chip = none ∧ ∃ text d,
        t.yields (FileKind.chip.load (Path.join base system.chip)) = .ok text ∧
        (Yaml.Place.parse? text).bind Descriptor.read? = some d ∧ d.Torn := by
  unfold Manifest.loadChip
  cases hname : Target.namedIgnoringCase? system.chip with
  | some target =>
    simp only [reduceCtorEq, false_and, iff_false]
    nofun
  | none =>
    simp only [true_and, exists_and_left, ← Descriptor.ofYaml_eq_trap_iff]
    exact yields_loadAs_eq_trap_iff

theorem yields_loadSetup (t : FileTree) (path : String) :
    t.yields (Setup.load path) = (t.yields (Manifest.load path)).bind fun system =>
      (t.yields (system.loadChip (Path.directory path))).bind fun chip =>
        system.loadLed.bind fun led => .ok ⟨chip, led⟩ := by
  have hmanifest : CommandLine.Looks (Manifest.load path) (Manifest.load path) :=
    .loadAs .manifest path Manifest.ofYaml
  rw [Setup.load, hmanifest.yields_bind]
  refine congrArg _ (funext fun system => ?_)
  rw [(CommandLine.Looks.loadChip (Path.directory path) system).yields_bind]
  refine congrArg _ (funext fun chip => ?_)
  rw [(CommandLine.Looks.liftExcept system.loadLed).yields_bind, yields_liftExcept]
  rfl

end Files.FileTree

/-- The pin of a declared LED is one of eight. -/
theorem Manifest.bit_lt_of_led {system : Manifest} {pin : PinRef}
    (h : system.led = .ok (some pin)) : pin.bit < 8 := by
  unfold Manifest.led at h
  split at h
  · cases h
  · rename_i d _
    cases hpin : d.pin with
    | error e =>
      rw [hpin] at h
      cases h
    | ok found =>
      rw [hpin] at h
      cases h
      exact (PinRef.nameable_of_parse hpin).bit_lt

end LedBench
