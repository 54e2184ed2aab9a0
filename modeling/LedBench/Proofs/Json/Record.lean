import LedBench.Json.Source
import LedBench.Proofs.Json.Reader

namespace LedBench.Json

open Wire

variable {α : Type} {form : RecordForm} {ms : List (String × Json)}

/-- What the members of one name give a field: nothing, or the value of the only one. -/
def given? : List (String × Json) → Option (Option Json)
  | [] => some none
  | [(_, v)] => some (some v)
  | _ => none

/-- An object is taken apart by the names of its members, in whatever order they stand. -/
theorem members?_obj (form : RecordForm) (ms : List (String × Json)) :
    Source.members? form (.obj ms) =
      if ms.all (form.admits <| .name ·.1) then
        form.fields.mapM fun f => given? (ms.filter (·.1 = f.name))
      else none := by
  change form.collect (ms.map fun m => (Key.name m.1, m.2)) = _
  rw [RecordForm.collect, List.all_map]
  by_cases hadmits : ms.all (form.admits <| .name ·.1) = true
  · rw [if_pos hadmits]
    refine (if_pos hadmits).trans ?_
    have hzip : ∀ g : Field → Option (Option Json),
        form.fields.mapM g = form.fields.zipIdx.mapM fun p => g p.1 := by
      intro g
      rw [show (fun p : Field × Nat => g p.1) = g ∘ Prod.fst from rfl, ← List.mapM_map,
        List.zipIdx_map_fst]
    rw [hzip]
    congr 1
    funext p
    have hfilter : (ms.map fun m => (Key.name m.1, m.2)).filter
        (fun m => RecordForm.matchesAt p.2 p.1 m.1) =
          (ms.filter (·.1 = p.1.name)).map fun m => (Key.name m.1, m.2) := by
      rw [List.filter_map]
      rfl
    dsimp only
    rw [hfilter]
    generalize ms.filter (·.1 = p.1.name) = found
    rcases found with _ | ⟨m, _ | ⟨m', rest⟩⟩ <;> rfl
  · rw [if_neg hadmits]
    exact if_neg hadmits

/-- Where no name repeats, the members of one name are its value, if it has one. -/
theorem filter_eq_lookup (h : (ms.map Prod.fst).Nodup) (name : String) :
    ms.filter (·.1 = name) = (ms.lookup name).toList.map (name, ·) := by
  induction ms with
  | nil => rfl
  | cons m rest ih =>
    obtain ⟨k, v⟩ := m
    obtain ⟨hfresh, hrest⟩ := List.nodup_cons.mp h
    by_cases hk : k = name
    · subst hk
      have hnone : rest.filter (·.1 = k) = [] := by
        refine List.filter_eq_nil_iff.mpr fun m hm heq => hfresh ?_
        exact List.mem_map.mpr ⟨m, hm, of_decide_eq_true heq⟩
      simp [hnone]
    · have hname : (name == k) = false := beq_eq_false_iff_ne.mpr (Ne.symm hk)
      rw [List.filter_cons_of_neg (by simpa using hk), ih hrest, List.lookup_cons, hname]

theorem lookup_of_mem (h : (ms.map Prod.fst).Nodup) {m : String × Json} (hm : m ∈ ms) :
    ms.lookup m.1 = some m.2 := by
  have hfound : m ∈ (ms.lookup m.1).toList.map (m.1, ·) := by
    rw [← filter_eq_lookup h]
    exact List.mem_filter.mpr ⟨hm, decide_eq_true rfl⟩
  obtain ⟨v, hv, heq⟩ := List.mem_map.mp hfound
  rw [← heq]
  exact Option.mem_toList.mp hv

/-- An object whose names do not repeat, and which has none that the record refuses, is taken apart
    into the values of the fields. -/
theorem members?_of_nodup (hnodup : (ms.map Prod.fst).Nodup)
    (hadmits : ∀ m ∈ ms, form.admits (.name m.1) = true) :
    Source.members? form (.obj ms) = some (form.fields.map fun f => ms.lookup f.name) := by
  have hgiven : ∀ f : Field, given? (ms.filter (·.1 = f.name)) = pure (ms.lookup f.name) := by
    intro f
    rw [filter_eq_lookup hnodup]
    cases ms.lookup f.name <;> rfl
  rw [members?_obj, if_pos (List.all_eq_true.mpr hadmits), funext hgiven]
  exact List.mapM_pure

/-- An object with some of the fields of a record, in order, is taken apart into their values. -/
theorem members?_of_sublist (hsub : (ms.map Prod.fst).Sublist (form.fields.map Field.name))
    (hnodup : (form.fields.map Field.name).Nodup) :
    Source.members? form (.obj ms) = some (form.fields.map fun f => ms.lookup f.name) := by
  refine members?_of_nodup (hnodup.sublist hsub) fun m hm => ?_
  obtain ⟨f, hf, heq⟩ := List.mem_map.mp (hsub.subset (List.mem_map_of_mem hm))
  rw [RecordForm.admits, Bool.or_eq_true, List.any_eq_true]
  exact .inr ⟨f, hf, decide_eq_true heq⟩

/-- An object with exactly the fields of a record, in order, is taken apart into their values. -/
theorem members?_of_names (hnames : ms.map Prod.fst = form.fields.map Field.name)
    (hnodup : (form.fields.map Field.name).Nodup) :
    Source.members? form (.obj ms) = some (ms.map (some ·.2)) := by
  rw [members?_of_sublist (hnames ▸ List.Sublist.refl _) hnodup]
  calc some (form.fields.map fun f => ms.lookup f.name)
      = some ((form.fields.map Field.name).map fun name => ms.lookup name) := by
        rw [List.map_map]
        rfl
    _ = some (ms.map fun m => ms.lookup m.1) := by
        rw [← hnames, List.map_map]
        rfl
    _ = some (ms.map (some ·.2)) :=
        congrArg some (List.map_congr_left fun m hm => lookup_of_mem (hnames ▸ hnodup) hm)

/-- Whatever is written is a whole value, from which it is read back. -/
structure Faithful (write : α → Json) (read : Json → Option α) : Prop where
  read_write (a : α) : read (write a) = some a
  whole (a : α) : (write a).Whole

section Values

variable {write : α → Json} {read : Json → Option α}

@[simp]
theorem required_some (v : Json) : required (some v) read = read v := rfl

@[simp]
theorem defaulting_some (a : α) (v : Json) : defaulting a (some v) read = read v := rfl

theorem faithful_str : Faithful Json.str Source.text? := ⟨fun _ => rfl, fun _ => trivial⟩

theorem faithful_bool : Faithful Json.bool Source.bool? := ⟨fun _ => rfl, fun _ => trivial⟩

theorem faithful_byte : Faithful Json.byte byte? where
  read_write b := by simp [byte?, Json.byte, Source.nat?, b.toNat_lt]
  whole b := Nat.lt_trans b.toNat_lt (by decide)

theorem faithful_word16 : Faithful Json.word16 word16? where
  read_write w := by simp [word16?, Json.word16, Source.nat?, w.toNat_lt]
  whole w := Nat.lt_trans w.toNat_lt (by decide)

theorem faithful_word64 : Faithful Json.word64 word64? where
  read_write w := by simp [word64?, Json.word64, Source.nat?, w.toNat_lt]
  whole w := w.toNat_lt

theorem wholeItems_map (h : ∀ a, (write a).Whole) (xs : List α) : WholeItems (xs.map write) := by
  induction xs with
  | nil => trivial
  | cons x rest ih => exact ⟨h x, ih⟩

theorem mapM_read_write {β : Type} {write : α → β} {read : β → Option α}
    (h : ∀ a, read (write a) = some a) (xs : List α) : (xs.map write).mapM read = some xs := by
  have hread : read ∘ write = fun a => pure a := funext h
  rw [List.mapM_map, hread, List.mapM_pure, List.map_id']
  rfl

theorem Faithful.list (h : Faithful write read) : Faithful (Json.list write) (list? read) where
  read_write xs := mapM_read_write h.read_write xs
  whole xs := wholeItems_map h.whole xs

/-- What may be absent is read back unless it is null when it is there. -/
theorem Faithful.optional_orNull (h : Faithful write read) (hnull : ∀ a, write a ≠ .null)
    (o : Option α) : optional (some (Json.orNull write o)) read = some o := by
  cases o with
  | none => rfl
  | some a =>
    have hsome : Source.optional? (write a) = some (some (write a)) := by
      cases hw : write a with
      | null => exact absurd hw (hnull a)
      | _ => rfl
    rw [Wire.optional, Json.orNull, hsome]
    exact congrArg (Option.map some) (h.read_write a)

theorem Faithful.whole_orNull (h : Faithful write read) (o : Option α) :
    (Json.orNull write o).Whole := by
  cases o with
  | none => trivial
  | some a => exact h.whole a

end Values

/-- The text of the value, on one line or indented, is read as the value. -/
def Survives (write : α → Json) (read : Json → Option α) (a : α) : Prop :=
  (parse? (write a).compact).bind read = some a ∧ (parse? (write a).pretty).bind read = some a

theorem survives_of_whole {write : α → Json} {read : Json → Option α} {a : α}
    (hread : read (write a) = some a) (hwhole : (write a).Whole) : Survives write read a := by
  constructor
  · rw [parse?_compact hwhole]
    exact hread
  · rw [parse?_pretty hwhole]
    exact hread

theorem Faithful.survives {write : α → Json} {read : Json → Option α} (h : Faithful write read)
    (a : α) : Survives write read a :=
  survives_of_whole (h.read_write a) (h.whole a)

end LedBench.Json
