import LedBench.Proofs.Json.Assertion

namespace LedBench

open Json Wire

theorem Script.faithful : Faithful Script.toJson (Script.read? Assertion.read?) where
  read_write s := by
    rw [Script.read?, Script.toJson, members?_of_names rfl (by decide)]
    simp [faithful_str.read_write, ScriptInputs.faithful.read_write,
      ScriptLimits.faithful.read_write, Assertion.faithful.list.read_write]
  whole s := by
    simp [Script.toJson, Whole, WholeMembers, ScriptInputs.faithful.whole,
      ScriptLimits.faithful.whole, Assertion.faithful.list.whole]

namespace Run

theorem Judgement.faithful : Faithful Judgement.toJson Judgement.read? where
  read_write j := by
    rw [Judgement.read?, Judgement.toJson, members?_of_names rfl (by decide)]
    simp [Assertion.faithful.read_write, faithful_bool.read_write]
  whole j := by
    simp [Judgement.toJson, Whole, WholeMembers, Assertion.faithful.whole]

theorem TestFiles.faithful : Faithful TestFiles.toJson TestFiles.read? where
  read_write f := by
    rw [TestFiles.read?, TestFiles.toJson, members?_of_names rfl (by decide)]
    simp [faithful_str.read_write, faithful_str.optional_orNull nofun]
  whole f := by
    simp [TestFiles.toJson, Whole, WholeMembers, faithful_str.whole_orNull]

/-- A message that there is not is the only field left out. -/
theorem TestResult.members?_toJson (r : TestResult) :
    Source.members? TestResult.form r.toJson =
      some [some (.str r.schemaVersion), some (.str r.status), some (.str r.target),
        some (Json.word64 r.passes), some (Json.word64 r.cycles), some (Json.word64 r.toggles),
        some (Json.word64 r.watchdogResets), some r.stopReason.toJson, some r.limits.toJson,
        r.message.map .str, some (Json.list Judgement.toJson r.judgements),
        some (.str r.descriptorHash), some r.files.toJson] := by
  have hnodup : (TestResult.form.fields.map Field.name).Nodup := by decide
  rw [TestResult.toJson]
  cases r.message with
  | none =>
    have hsub : ((TestResult.form.fields.map Field.name).erase "message").Sublist
        (TestResult.form.fields.map Field.name) := List.erase_sublist
    refine (members?_of_sublist ?_ hnodup).trans ?_
    · exact hsub
    · rfl
  | some m => exact members?_of_names rfl hnodup

theorem TestResult.faithful : Faithful TestResult.toJson TestResult.read? where
  read_write r := by
    have hmessage : optional (r.message.map Json.str) Source.text? = some r.message := by
      cases r.message <;> rfl
    rw [TestResult.read?, TestResult.members?_toJson]
    simp [hmessage, faithful_str.read_write, faithful_word64.read_write,
      StopReason.faithful.read_write, ScriptLimits.faithful.read_write,
      Judgement.faithful.list.read_write, TestFiles.faithful.read_write]
  whole r := by
    rw [TestResult.toJson]
    cases r.message <;>
      simp [Whole, WholeMembers, faithful_word64.whole, StopReason.faithful.whole,
        ScriptLimits.faithful.whole, Judgement.faithful.list.whole, TestFiles.faithful.whole]

end Run

namespace Json

open Bench Chip Run

/-- Every value survives, and so does every value that a text is read as, in whatever of the forms
that are accepted the text is written. -/
def RoundTrips {α : Type} (write : α → Json) (read : Json → Option α) : Prop :=
  (∀ a, Survives write read a) ∧
    ∀ text a, (parse? text).bind read = some a → Survives write read a

theorem Faithful.roundTrips {α : Type} {write : α → Json} {read : Json → Option α}
    (h : Faithful write read) : RoundTrips write read :=
  ⟨h.survives, fun _ a _ => h.survives a⟩

/-- Values of all formats survive being written and read, for snapshots those whose registers are a
map, as those of every snapshot that is read are. An object is an assertion of one kind at most, and
the same assertion in whatever order the kinds are tried. -/
theorem records_survive :
    (RoundTrips PinEvent.toJson PinEvent.read? ∧
      RoundTrips ResetCause.toJson ResetCause.read? ∧
      RoundTrips StopReason.toJson StopReason.read? ∧
      RoundTrips TestResult.toJson TestResult.read? ∧
      RoundTrips Assertion.toJson Assertion.read? ∧
      RoundTrips Script.toJson (Script.read? Assertion.read?) ∧
      RoundTrips Manifest.toJson Manifest.read? ∧
      RoundTrips Descriptor.toJson Descriptor.read?) ∧
    ((∀ s : Snapshot, s.registers.Ordered → Survives Snapshot.toJson Snapshot.read? s) ∧
      ∀ text s, (parse? text).bind Snapshot.read? = some s →
        s.registers.Ordered ∧ Survives Snapshot.toJson Snapshot.read? s) ∧
    (∀ ms, ∀ kind ∈ Assertion.kinds, ∀ kind' ∈ Assertion.kinds,
      (kind.2 (.obj ms)).isSome → (kind'.2 (.obj ms)).isSome → kind = kind') ∧
    ∀ order : List (String × (Json → Option Assertion)), order.Perm Assertion.kinds →
      ∀ ms, order.findSome? (·.2 (.obj ms)) = Assertion.read? (Json.obj ms) := by
  refine ⟨⟨PinEvent.faithful.roundTrips, ResetCause.faithful.roundTrips,
    StopReason.faithful.roundTrips, TestResult.faithful.roundTrips,
    Assertion.faithful.roundTrips, Script.faithful.roundTrips,
    Manifest.faithful.roundTrips, Descriptor.faithful.roundTrips⟩, ⟨?_, ?_⟩, ?_, ?_⟩
  · exact fun _ => Snapshot.survives
  · intro text s h
    obtain ⟨v, -, hread⟩ := Option.bind_eq_some_iff.mp h
    have hordered : s.registers.Ordered := Snapshot.ordered_of_read? hread
    exact ⟨hordered, Snapshot.survives hordered⟩
  · exact fun _ _ hkind _ hkind' => Assertion.kind_unique hkind hkind'
  · exact fun _ horder => Assertion.findSome?_kinds_of_perm horder

theorem records_survive_two_registers :
    RegisterMap.Ordered [("porta.port", 4), ("porta.tris", 0x3B)] ∧
      Survives Snapshot.toJson Snapshot.read?
        { target := "pic16f628a"
          configWord := { address := 0x2007, value := 0x3FFF, watchdogEnabled := true }
          cycles := 12
          nops := 3
          passes := 1
          watchdogResets := 0
          led := "porta.2"
          ledLevel := true
          registers := [("porta.port", 4), ("porta.tris", 0x3B)] } := by
  have hordered : RegisterMap.Ordered [("porta.port", 4), ("porta.tris", 0x3B)] := by
    have hlt : "porta.port" < "porta.tris" := String.lt_iff_toList_lt.mpr (by decide)
    simpa [RegisterMap.Ordered] using hlt
  exact ⟨hordered, records_survive.2.1.1 _ hordered⟩

end Json

end LedBench
