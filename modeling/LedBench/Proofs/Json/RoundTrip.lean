import LedBench.Bench.Wire
import LedBench.Chip.Wire
import LedBench.Manifest
import LedBench.Proofs.Json.Record
import LedBench.Proofs.Snapshot.RegisterMap
import LedBench.Run.TestResult

namespace LedBench

open Json Wire

namespace Bench

theorem ResetCause.faithful : Faithful ResetCause.toJson ResetCause.read? where
  read_write c := by cases c <;> rfl
  whole _ := trivial

theorem PinEvent.faithful : Faithful PinEvent.toJson PinEvent.read? where
  read_write e := by
    rw [PinEvent.read?, PinEvent.toJson, members?_of_names rfl (by decide)]
    simp [faithful_word64.read_write, faithful_bool.read_write]
  whole e := by
    simp [PinEvent.toJson, Whole, WholeMembers, faithful_word64.whole]

theorem ConfigWordState.faithful : Faithful ConfigWordState.toJson ConfigWordState.read? where
  read_write c := by
    rw [ConfigWordState.read?, ConfigWordState.toJson, members?_of_names rfl (by decide)]
    simp [faithful_word16.read_write, faithful_bool.read_write]
  whole c := by
    simp [ConfigWordState.toJson, Whole, WholeMembers, faithful_word16.whole]

theorem RegisterMap.read?_toJson {m : RegisterMap} (h : m.Ordered) :
    RegisterMap.read? m.toJson = some m := by
  have hentry : ∀ e : String × UInt8, (byte? (Json.byte e.2)).map (e.1, ·) = some e := fun e => by
    rw [faithful_byte.read_write]
    rfl
  have hentries : (m.map fun e => (e.1, Json.byte e.2)).mapM (fun e => (byte? e.2).map (e.1, ·)) =
      some m := mapM_read_write hentry m
  calc RegisterMap.read? m.toJson
      = (some m).bind fun entries => some (ofList entries) := by
        rw [← hentries]
        rfl
    _ = some m := congrArg some h.ofList_eq

theorem RegisterMap.whole_toJson (m : RegisterMap) : m.toJson.Whole := by
  change WholeMembers (m.map _)
  induction m with
  | nil => trivial
  | cons e rest ih => exact ⟨faithful_byte.whole e.2, ih⟩

/-- What is read as a map is one, in whatever order and however often its names are given. -/
theorem RegisterMap.ordered_of_read? {v : Json} {m : RegisterMap}
    (h : RegisterMap.read? v = some m) : m.Ordered := by
  obtain ⟨entries, -, h⟩ := Option.bind_eq_some_iff.mp h
  obtain ⟨values, -, h⟩ := Option.bind_eq_some_iff.mp h
  cases h
  exact ordered_ofList values

theorem Snapshot.read?_toJson {s : Snapshot} (h : s.registers.Ordered) :
    Snapshot.read? s.toJson = some s := by
  rw [Snapshot.read?, Snapshot.toJson, members?_of_names rfl (by decide)]
  simp [faithful_str.read_write, faithful_word64.read_write, faithful_bool.read_write,
    ConfigWordState.faithful.read_write, RegisterMap.read?_toJson h]

theorem Snapshot.whole_toJson (s : Snapshot) : s.toJson.Whole := by
  simp [Snapshot.toJson, Whole, WholeMembers, faithful_word64.whole, ConfigWordState.faithful.whole,
    RegisterMap.whole_toJson]

theorem Snapshot.ordered_of_read? {v : Json} {s : Snapshot} (h : Snapshot.read? v = some s) :
    s.registers.Ordered := by
  rw [Snapshot.read?] at h
  split at h
  · simp only [Option.bind_eq_bind, Option.bind_eq_some_iff] at h
    obtain ⟨_, -, _, -, _, -, _, -, _, -, _, -, _, -, _, -, registers, hread, h⟩ := h
    cases h
    obtain ⟨v, -, hv⟩ := Option.bind_eq_some_iff.mp hread
    exact RegisterMap.ordered_of_read? hv
  · cases h

theorem Snapshot.survives {s : Snapshot} (h : s.registers.Ordered) :
    Survives Snapshot.toJson Snapshot.read? s :=
  survives_of_whole (Snapshot.read?_toJson h) s.whole_toJson

end Bench

namespace Chip

theorem ConfigLayout.faithful : Faithful ConfigLayout.toJson ConfigLayout.read? where
  read_write c := by
    rw [ConfigLayout.read?, ConfigLayout.toJson, members?_of_names rfl (by decide)]
    simp [faithful_word16.read_write]
  whole c := by
    simp [ConfigLayout.toJson, Whole, WholeMembers, faithful_word16.whole]

theorem WatchdogLayout.faithful : Faithful WatchdogLayout.toJson WatchdogLayout.read? where
  read_write w := by
    rw [WatchdogLayout.read?, WatchdogLayout.toJson, members?_of_names rfl (by decide)]
    simp [faithful_word16.read_write, faithful_word16.list.read_write, faithful_word64.read_write]
  whole w := by
    simp [WatchdogLayout.toJson, Whole, WholeMembers, faithful_word16.whole,
      faithful_word16.list.whole, faithful_word64.whole]

theorem PortReset.faithful : Faithful PortReset.toJson PortReset.read? where
  read_write r := by
    rw [PortReset.read?, PortReset.toJson, members?_of_names rfl (by decide)]
    simp [faithful_byte.read_write]
  whole r := by
    simp [PortReset.toJson, Whole, WholeMembers, faithful_byte.whole]

theorem PortLayout.faithful : Faithful PortLayout.toJson PortLayout.read? where
  read_write p := by
    rw [PortLayout.read?, PortLayout.toJson, members?_of_names rfl (by decide)]
    simp [faithful_str.read_write, faithful_byte.read_write, faithful_word16.read_write,
      faithful_word16.optional_orNull nofun, PortReset.faithful.read_write]
  whole p := by
    simp [PortLayout.toJson, Whole, WholeMembers, faithful_byte.whole, faithful_word16.whole,
      faithful_word16.whole_orNull, PortReset.faithful.whole]

theorem Descriptor.faithful : Faithful Descriptor.toJson Descriptor.read? where
  read_write d := by
    rw [Descriptor.read?, Descriptor.toJson, members?_of_names rfl (by decide)]
    simp [faithful_str.read_write, faithful_word64.read_write, ConfigLayout.faithful.read_write,
      WatchdogLayout.faithful.read_write, PortLayout.faithful.list.read_write]
  whole d := by
    simp [Descriptor.toJson, Whole, WholeMembers, faithful_word64.whole,
      ConfigLayout.faithful.whole, WatchdogLayout.faithful.whole, PortLayout.faithful.list.whole]

end Chip

theorem Device.faithful : Faithful Device.toJson Device.read? where
  read_write d := by
    rw [Device.read?, Device.toJson, members?_of_names rfl (by decide)]
    simp [faithful_str.read_write]
  whole d := by
    simp [Device.toJson, Whole, WholeMembers]

theorem Manifest.faithful : Faithful Manifest.toJson Manifest.read? where
  read_write m := by
    rw [Manifest.read?, Manifest.toJson, members?_of_names rfl (by decide)]
    simp [faithful_str.read_write, Device.faithful.list.read_write]
  whole m := by
    simp [Manifest.toJson, Whole, WholeMembers, Device.faithful.list.whole]

theorem StopReason.faithful : Faithful StopReason.toJson StopReason.read? where
  read_write r := by cases r <;> rfl
  whole _ := trivial

theorem CycleRange.faithful : Faithful CycleRange.toJson CycleRange.read? where
  read_write r := by
    rw [CycleRange.read?, CycleRange.toJson, members?_of_names rfl (by decide)]
    simp [faithful_word64.read_write]
  whole r := by
    simp [CycleRange.toJson, Whole, WholeMembers, faithful_word64.whole]

theorem ScriptInputs.faithful : Faithful ScriptInputs.toJson ScriptInputs.read? where
  read_write i := by
    rw [ScriptInputs.read?, ScriptInputs.toJson, members?_of_names rfl (by decide)]
    simp [faithful_str.read_write, faithful_str.optional_orNull nofun]
  whole i := by
    simp [ScriptInputs.toJson, Whole, WholeMembers, faithful_str.whole_orNull]

theorem ScriptLimits.faithful : Faithful ScriptLimits.toJson ScriptLimits.read? where
  read_write l := by
    rw [ScriptLimits.read?, ScriptLimits.toJson, members?_of_names rfl (by decide)]
    simp [faithful_word64.read_write, faithful_word64.optional_orNull nofun]
  whole l := by
    simp [ScriptLimits.toJson, Whole, WholeMembers, faithful_word64.whole,
      faithful_word64.whole_orNull]

end LedBench
