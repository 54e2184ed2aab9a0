import LedBench.Proofs.Json.RoundTrip
import Mathlib.Data.List.Nodup

namespace LedBench.Assertion

open Json Wire

variable {α : Type} {name : String} {read : Json → Option α} {ms : List (String × Json)}

/-- The members of an object that is a record of one field and nothing else. -/
theorem members_of_members?_single {slot : Option Json}
    (h : Source.members? { fields := [⟨name, false⟩], closed := true } (Json.obj ms) =
      some [slot]) :
    ms = slot.toList.map (name, ·) := by
  rw [members?_obj] at h
  split at h
  case isFalse => cases h
  case isTrue hadmits =>
    have hnames : ∀ m ∈ ms, m.1 = name := by
      intro m hm
      have hadmit := List.all_eq_true.mp hadmits m hm
      simpa [RecordForm.admits, eq_comm] using hadmit
    have hfilter : ms.filter (·.1 = name) = ms :=
      List.filter_eq_self.mpr fun m hm => decide_eq_true (hnames m hm)
    rw [List.mapM_cons, List.mapM_nil, hfilter] at h
    -- More than one member would be the field given twice.
    rcases ms with _ | ⟨⟨k, v⟩, _ | ⟨m', rest⟩⟩
    · cases h
      rfl
    · cases h
      rw [← hnames (k, v) (List.mem_singleton_self _)]
      rfl
    · cases h

theorem single?_eq_some_iff {a : α} :
    single? name read (.obj ms) = some a ↔ ∃ v, ms = [(name, v)] ∧ read v = some a := by
  constructor
  · intro h
    rw [single?] at h
    split at h
    case h_1 slot hslot =>
      obtain ⟨v, rfl, hv⟩ := Option.bind_eq_some_iff.mp h
      exact ⟨v, members_of_members?_single hslot, hv⟩
    case h_2 => cases h
  · rintro ⟨v, rfl, hv⟩
    have hmembers : Source.members? { fields := [⟨name, false⟩], closed := true }
        (Json.obj [(name, v)]) = some [some v] := members?_of_names rfl (by simp)
    rw [single?, hmembers]
    exact hv

theorem single?_singleton (k : String) (v : Json) :
    single? name read (.obj [(k, v)]) = if k = name then read v else none := by
  ext a
  rw [single?_eq_some_iff]
  by_cases hk : k = name
  · simp [hk]
  · simp [hk]

theorem faithful : Faithful Assertion.toJson Assertion.read? where
  read_write a := by
    cases a <;>
      simp [Assertion.read?, Assertion.toJson, ledToggles?, ledAlternates?, noWatchdogReset?,
        blinkInterval?, stopReason?, single?_singleton, faithful_word64.read_write,
        faithful_bool.read_write, CycleRange.faithful.read_write, StopReason.faithful.read_write]
  whole a := by
    cases a <;>
      simp [Assertion.toJson, Whole, WholeMembers, faithful_word64.whole,
        CycleRange.faithful.whole, StopReason.faithful.whole]

/-- The kinds of assertions, by the names of their fields, in the order in which they are tried. -/
def kinds : List (String × (Json → Option Assertion)) :=
  [("led_toggles", ledToggles?), ("led_alternates", ledAlternates?),
    ("no_watchdog_reset", noWatchdogReset?), ("blink_interval_cycles", blinkInterval?),
    ("expected_stop_reason", stopReason?)]

/-- A kind accepts objects with one member only, which has its name. -/
theorem names_of_kind {kind : String × (Json → Option Assertion)} (hkind : kind ∈ kinds)
    (h : (kind.2 (.obj ms)).isSome) : ms.map Prod.fst = [kind.1] := by
  have hsingle : ∀ {β : Type} {name : String} {read : Json → Option β} {make : β → Assertion},
      ((single? name read (.obj ms)).map make).isSome → ms.map Prod.fst = [name] := by
    intro β name read make h
    rw [Option.isSome_map] at h
    obtain ⟨b, hb⟩ := Option.isSome_iff_exists.mp h
    obtain ⟨v, rfl, -⟩ := single?_eq_some_iff.mp hb
    rfl
  simp only [kinds, List.mem_cons, List.not_mem_nil, or_false] at hkind
  rcases hkind with rfl | rfl | rfl | rfl | rfl <;> exact hsingle h

/-- No object is an assertion of two kinds. -/
theorem kind_unique {kind kind' : String × (Json → Option Assertion)} (hkind : kind ∈ kinds)
    (hkind' : kind' ∈ kinds) (h : (kind.2 (.obj ms)).isSome) (h' : (kind'.2 (.obj ms)).isSome) :
    kind = kind' := by
  have hnodup : (kinds.map Prod.fst).Nodup := by decide
  have hname : [kind.1] = [kind'.1] :=
    (names_of_kind hkind h).symm.trans (names_of_kind hkind' h')
  exact List.inj_on_of_nodup_map hnodup hkind hkind' (List.cons.inj hname).1

/-- Where one of the choices succeeds at most, it does not matter which is tried first. -/
theorem findSome?_eq_some_iff_of_unique {β γ : Type} {choose : β → Option γ} {xs : List β}
    (h : ∀ x ∈ xs, ∀ y ∈ xs, (choose x).isSome → (choose y).isSome → x = y) {c : γ} :
    xs.findSome? choose = some c ↔ ∃ x ∈ xs, choose x = some c := by
  constructor
  · exact List.exists_of_findSome?_eq_some
  · rintro ⟨x, hx, hc⟩
    have hsome : (xs.findSome? choose).isSome :=
      List.findSome?_isSome_iff.mpr ⟨x, hx, Option.isSome_of_eq_some hc⟩
    obtain ⟨d, hd⟩ := Option.isSome_iff_exists.mp hsome
    obtain ⟨y, hy, hyd⟩ := List.exists_of_findSome?_eq_some hd
    have hxy : x = y := h x hx y hy (Option.isSome_of_eq_some hc) (Option.isSome_of_eq_some hyd)
    rw [hd, ← hyd, ← hxy, hc]

/-- An object is read as the same assertion in whatever order the kinds are tried. -/
theorem findSome?_kinds_of_perm {order : List (String × (Json → Option Assertion))}
    (h : order.Perm kinds) (ms : List (String × Json)) :
    order.findSome? (·.2 (.obj ms)) = Assertion.read? (Json.obj ms) := by
  have hkinds : Assertion.read? (Json.obj ms) = kinds.findSome? (·.2 (.obj ms)) := rfl
  have hunique : ∀ x ∈ kinds, ∀ y ∈ kinds, (x.2 (.obj ms)).isSome → (y.2 (.obj ms)).isSome →
      x = y := fun _ hx _ hy => kind_unique hx hy
  refine Option.ext fun a => ?_
  rw [hkinds, findSome?_eq_some_iff_of_unique hunique, findSome?_eq_some_iff_of_unique
    fun x hx y hy => hunique x (h.subset hx) y (h.subset hy)]
  exact exists_congr fun x => and_congr_left fun _ => h.mem_iff

end LedBench.Assertion
