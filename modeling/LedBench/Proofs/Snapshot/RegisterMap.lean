import LedBench.Bench.Snapshot
import Mathlib.Data.List.Induction
import Mathlib.Data.List.Perm.Subperm
import Mathlib.Data.String.Basic

namespace LedBench.Bench.RegisterMap

/-- The names ascend strictly. -/
def Ordered (m : RegisterMap) : Prop := m.Pairwise (·.1 < ·.1)

theorem mem_insert_iff {m : RegisterMap} (h : m.Ordered) {name : String} {value : UInt8}
    {e : String × UInt8} :
    e ∈ m.insert name value ↔ e = (name, value) ∨ e ∈ m ∧ e.1 ≠ name := by
  induction m with
  | nil => simp [insert]
  | cons x rest ih =>
    obtain ⟨n, v⟩ := x
    obtain ⟨hfirst, hrest⟩ := List.pairwise_cons.mp h
    rw [insert]
    by_cases heq : name = n
    · subst heq
      have hapart : ∀ e ∈ rest, e.1 ≠ name := fun e he => (hfirst e he).ne'
      rw [if_pos rfl, List.mem_cons, List.mem_cons]
      constructor
      · rintro (rfl | he)
        · exact .inl rfl
        · exact .inr ⟨.inr he, hapart e he⟩
      · rintro (rfl | ⟨rfl | he, hne⟩)
        · exact .inl rfl
        · exact absurd rfl hne
        · exact .inr he
    · rw [if_neg heq]
      by_cases hlt : name < n
      · have hapart : ∀ e ∈ (n, v) :: rest, e.1 ≠ name := by
          intro e he
          rcases List.mem_cons.mp he with rfl | he
          · exact hlt.ne'
          · exact (hlt.trans (hfirst e he)).ne'
        rw [if_pos hlt, List.mem_cons]
        exact or_congr_right ⟨fun he => ⟨he, hapart e he⟩, fun he => he.1⟩
      · rw [if_neg hlt, List.mem_cons, ih hrest, List.mem_cons]
        constructor
        · rintro (rfl | rfl | ⟨he, hne⟩)
          · exact .inr ⟨.inl rfl, Ne.symm heq⟩
          · exact .inl rfl
          · exact .inr ⟨.inr he, hne⟩
        · rintro (rfl | ⟨rfl | he, hne⟩)
          · exact .inr (.inl rfl)
          · exact .inl rfl
          · exact .inr (.inr ⟨he, hne⟩)

theorem ordered_insert {m : RegisterMap} (h : m.Ordered) (name : String) (value : UInt8) :
    (m.insert name value).Ordered := by
  induction m with
  | nil => exact List.pairwise_singleton _ _
  | cons x rest ih =>
    obtain ⟨n, v⟩ := x
    obtain ⟨hfirst, hrest⟩ := List.pairwise_cons.mp h
    rw [insert]
    by_cases heq : name = n
    · subst heq
      rw [if_pos rfl]
      exact List.pairwise_cons.mpr ⟨hfirst, hrest⟩
    · rw [if_neg heq]
      by_cases hlt : name < n
      · rw [if_pos hlt]
        refine List.pairwise_cons.mpr ⟨?_, h⟩
        intro e he
        rcases List.mem_cons.mp he with rfl | he
        · exact hlt
        · exact hlt.trans (hfirst e he)
      · have hgt : n < name := lt_of_le_of_ne (not_lt.mp hlt) (Ne.symm heq)
        rw [if_neg hlt]
        refine List.pairwise_cons.mpr ⟨?_, ih hrest⟩
        intro e he
        rcases (mem_insert_iff hrest).mp he with rfl | ⟨he, -⟩
        · exact hgt
        · exact hfirst e he

theorem ofList_concat (xs : List (String × UInt8)) (name : String) (value : UInt8) :
    ofList (xs ++ [(name, value)]) = (ofList xs).insert name value := by
  rw [ofList, List.foldl_append]
  rfl

theorem ordered_ofList (xs : List (String × UInt8)) : (ofList xs).Ordered := by
  induction xs using List.reverseRecOn with
  | nil => exact List.Pairwise.nil
  | append_singleton xs x ih =>
    rw [ofList_concat]
    exact ordered_insert ih x.1 x.2

/-- The map of a list that gives no name two values has exactly its entries. -/
theorem mem_ofList_iff {xs : List (String × UInt8)}
    (h : ∀ name v w, (name, v) ∈ xs → (name, w) ∈ xs → v = w) {e : String × UInt8} :
    e ∈ ofList xs ↔ e ∈ xs := by
  induction xs using List.reverseRecOn with
  | nil => exact Iff.rfl
  | append_singleton xs x ih =>
    obtain ⟨name, value⟩ := x
    have hlast : (name, value) ∈ xs ++ [(name, value)] := by simp
    rw [ofList_concat, mem_insert_iff (ordered_ofList xs),
      ih fun n v w hv hw => h n v w (List.mem_append_left _ hv) (List.mem_append_left _ hw),
      List.mem_append, List.mem_singleton]
    constructor
    · rintro (rfl | ⟨he, -⟩)
      · exact .inr rfl
      · exact .inl he
    · rintro (he | rfl)
      · by_cases hname : e.1 = name
        · -- The name was there before, with the value that it is given again.
          subst hname
          exact .inl (Prod.ext rfl (h e.1 e.2 value (List.mem_append_left _ he) hlast))
        · exact .inr ⟨he, hname⟩
      · exact .inl rfl

theorem Ordered.nodup_names {m : RegisterMap} (h : m.Ordered) : (m.map Prod.fst).Nodup := by
  rw [List.Nodup, List.pairwise_map]
  exact h.imp ne_of_lt

theorem insert_of_forall_lt {m : RegisterMap} {name : String} (h : ∀ e ∈ m, e.1 < name)
    (value : UInt8) : m.insert name value = m ++ [(name, value)] := by
  induction m with
  | nil => rfl
  | cons x rest ih =>
    obtain ⟨n, v⟩ := x
    obtain ⟨hlt, hrest⟩ := List.forall_mem_cons.mp h
    rw [insert, if_neg hlt.ne', if_neg hlt.asymm, ih hrest, List.cons_append]

/-- The map of the entries of a map is that map. -/
theorem Ordered.ofList_eq {m : RegisterMap} (h : m.Ordered) : ofList m = m := by
  induction m using List.reverseRecOn with
  | nil => rfl
  | append_singleton xs x ih =>
    obtain ⟨hxs, -, hlast⟩ := List.pairwise_append.mp h
    have hbelow : ∀ e ∈ xs, e.1 < x.1 := fun e he => hlast e he x (List.mem_singleton_self x)
    rw [ofList_concat, ih hxs, insert_of_forall_lt hbelow]

/-- A map all of whose names are on a list has as many entries as the list exactly if the list
    repeats no name and has none that the map has not. -/
theorem Ordered.length_eq_iff {m : RegisterMap} (h : m.Ordered) {names : List String}
    (hsub : m.map Prod.fst ⊆ names) :
    m.length = names.length ↔ names.Nodup ∧ names ⊆ m.map Prod.fst := by
  have hsubperm : (m.map Prod.fst).Subperm names := List.subperm_of_subset h.nodup_names hsub
  have hlength : m.length = (m.map Prod.fst).length := (List.length_map _).symm
  rw [hlength]
  constructor
  · intro hall
    have hperm : (m.map Prod.fst).Perm names := hsubperm.perm_of_length_le hall.ge
    exact ⟨hperm.nodup_iff.mp h.nodup_names, hperm.symm.subset⟩
  · rintro ⟨hnodup, hsub'⟩
    exact le_antisymm hsubperm.length_le (List.subperm_of_subset hnodup hsub').length_le

end LedBench.Bench.RegisterMap
