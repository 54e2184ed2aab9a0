import Mathlib.Data.List.Chain
import LedBench.Bench.Trace

namespace LedBench.Bench

/-- A change of this pin, as its new level and the cycle of the change. -/
def Event.change? (pin : PinRef) : Event → Option (Bool × UInt64)
  | .pin port bit level cycle =>
    if port = pin.port ∧ bit = pin.bit then some (level, cycle) else none
  | _ => none

namespace Trace

/-- The cycles of the toggles among these events. -/
def toggleCycles (events : List PinEvent) : List UInt64 :=
  (events.filter (!·.reset)).map (·.cycle)

/-- Where each interval begins and ends. -/
def gaps (t : Trace) : List (UInt64 × UInt64) :=
  (runs t.events.toList).flatMap fun run => adjacent (toggleCycles run)

theorem intervals?_eq (t : Trace) :
    t.intervals? = t.gaps.mapM fun gap => Counter.sub? gap.2 gap.1 := rfl

theorem mapM_eq_some {α β : Type} {f : α → Option β} {g : α → β} {xs : List α}
    (h : ∀ a ∈ xs, f a = some (g a)) : xs.mapM f = some (xs.map g) := by
  induction xs with
  | nil => rfl
  | cons a rest ih =>
    rw [List.mapM_cons, h a List.mem_cons_self, ih fun b hb => h b (List.mem_cons_of_mem a hb)]
    rfl

theorem adjacent_concat {α : Type} (xs : List α) (x : α) :
    adjacent (xs ++ [x]) = adjacent xs ++ xs.getLast?.toList.map (·, x) := by
  induction xs with
  | nil => rfl
  | cons a rest ih =>
    cases rest with
    | nil => rfl
    | cons b rest => exact congrArg (List.cons (a, b)) ih

/-- A relation holds along a list exactly when it holds of all neighbours in it. -/
theorem forall_adjacent_iff {α : Type} {R : α → α → Prop} {xs : List α} :
    (∀ pair ∈ adjacent xs, R pair.1 pair.2) ↔ xs.IsChain R := by
  induction xs with
  | nil => simp [adjacent]
  | cons a rest ih =>
    cases rest with
    | nil => simp [adjacent]
    | cons b rest =>
      have hcons : adjacent (a :: b :: rest) = (a, b) :: adjacent (b :: rest) := rfl
      rw [hcons, List.forall_mem_cons, ih, List.isChain_cons_cons]

/-- The finished runs and the one that goes on. -/
def split (events : List PinEvent) : List (List PinEvent) × List PinEvent :=
  events.foldl (fun (rs, c) e => extendRuns rs c e) ([], [])

theorem runs_eq (events : List PinEvent) : runs events = (split events).1 ++ [(split events).2] :=
  rfl

theorem split_concat (events : List PinEvent) (e : PinEvent) :
    split (events ++ [e]) = extendRuns (split events).1 (split events).2 e :=
  List.foldl_append

/-- A finished run is a stretch of the events, and the one that goes on is their end. -/
private theorem infix_of_mem_split (events : List PinEvent) :
    (∀ run ∈ (split events).1, run <:+: events) ∧ (split events).2 <:+ events := by
  induction events using List.reverseRecOn with
  | nil => simp [split]
  | append_singleton events e ih =>
    obtain ⟨hruns, hcurrent⟩ := ih
    have hfinished : ∀ run ∈ (split events).1, run <:+: events ++ [e] :=
      fun run hrun => List.infix_append_of_infix_left (hruns run hrun)
    have hclosed : (split events).2 <:+: events ++ [e] :=
      List.infix_append_of_infix_left hcurrent.isInfix
    have hends : ∀ run, run ∈ (split events).1 ∨ run = (split events).2 →
        run <:+: events ++ [e] := by
      rintro run (hrun | rfl)
      · exact hfinished run hrun
      · exact hclosed
    rw [split_concat, extendRuns]
    cases hreset : e.reset with
    | true =>
      -- The run that went on is finished, unless it is empty, and this change begins the next one
      -- or belongs to none.
      cases (split events).2.isEmpty with
      | true => cases e.level <;> simpa using hfinished
      | false => cases e.level <;> simpa using hends
    | false =>
      obtain ⟨before, hbefore⟩ := hcurrent
      refine ⟨hfinished, before, ?_⟩
      rw [if_neg (by simp), ← List.append_assoc, hbefore]

theorem infix_of_mem_runs {events run : List PinEvent} (h : run ∈ runs events) :
    run <:+: events := by
  obtain ⟨hruns, hcurrent⟩ := infix_of_mem_split events
  rw [runs_eq, List.mem_append, List.mem_singleton] at h
  rcases h with h | rfl
  · exact hruns run h
  · exact hcurrent.isInfix

/-- Neighbours within the runs, among the events that count: another event adds the pair of the last
    one of the run that goes on and itself, if it counts and is not of a reset. -/
private theorem flatMap_runs_concat {β : Type} (p : PinEvent → Bool) (f : PinEvent → β)
    (events : List PinEvent) (e : PinEvent) :
    (runs (events ++ [e])).flatMap (fun run => adjacent ((run.filter p).map f)) =
      (runs events).flatMap (fun run => adjacent ((run.filter p).map f)) ++
        if e.reset || !p e then []
        else (((split events).2.filter p).map f).getLast?.toList.map (·, f e) := by
  rw [runs_eq, runs_eq, split_concat, extendRuns]
  cases hreset : e.reset with
  | true =>
    -- The run that went on may be closed, but neither a single event nor an empty run has
    -- neighbours.
    have hone : adjacent ((List.filter p [e]).map f) = [] := by
      cases hp : p e <;> simp [hp, adjacent]
    have hnone : adjacent ([] : List β) = [] := rfl
    cases (split events).2 <;> cases e.level <;> simp [hone, hnone]
  | false => cases hp : p e <;> simp [hp, adjacent_concat]

/-- The run that goes on ends with the last event, unless that is the switch-off by a reset. -/
private theorem getLast?_split (events : List PinEvent) :
    (split events).2.getLast? = events.getLast?.filter fun e => !e.reset || e.level := by
  rcases List.eq_nil_or_concat events with rfl | ⟨before, e, rfl⟩
  · rfl
  rw [List.concat_eq_append, split_concat, extendRuns]
  cases hreset : e.reset with
  | true => cases (split before).2.isEmpty <;> cases hlevel : e.level <;>
      simp [Option.filter_some, hreset, hlevel]
  | false => simp [Option.filter_some, hreset]

/-- The neighbours within the runs are those in the record of which the second is a toggle, where
    the switch-off by a reset is never followed by one. -/
theorem flatMap_runs_adjacent {events : List PinEvent}
    (h : events.IsChain fun a b => a.reset → a.level = false → b.reset) :
    (runs events).flatMap adjacent = (adjacent events).filter (!·.2.reset) := by
  induction events using List.reverseRecOn with
  | nil => rfl
  | append_singleton events e ih =>
    obtain ⟨hbefore, -, hlast⟩ := List.isChain_append.mp h
    have hstep := flatMap_runs_concat (fun _ => true) id events e
    simp only [List.filter_true, List.map_id, Bool.not_true, Bool.or_false, id] at hstep
    rw [hstep, ih hbefore, adjacent_concat, List.filter_append, getLast?_split]
    congr 1
    cases hreset : e.reset with
    | true => simp [List.filter_map, Function.comp_def, hreset]
    | false =>
      cases hbefore' : events.getLast? with
      | none => rfl
      | some a =>
        have hswitch := hlast a hbefore' e rfl
        cases ha : a.reset <;> cases hl : a.level <;> simp_all

/-- Where an interval begins if the next event is a toggle: at the last event, if that was one. -/
def lastToggle? (events : List PinEvent) : Option UInt64 :=
  (events.getLast?.filter (!·.reset)).map (·.cycle)

/-- A run holds nothing of a reset but the switch-on at its start, so that its last event is its
    last toggle if it has one. -/
private theorem getLast?_toggleCycles_split (events : List PinEvent) :
    (toggleCycles (split events).2).getLast? = lastToggle? events := by
  rcases List.eq_nil_or_concat events with rfl | ⟨before, e, rfl⟩
  · rfl
  rw [List.concat_eq_append, split_concat, extendRuns]
  cases hreset : e.reset with
  | true => cases (split before).2.isEmpty <;> cases e.level <;>
      simp [toggleCycles, lastToggle?, Option.filter_some, hreset]
  | false => simp [toggleCycles, lastToggle?, Option.filter_some, hreset]

/-- Another event ends an interval if it and the event before it are toggles. -/
theorem gaps_push (t : Trace) (e : PinEvent) (restarting : Bool) :
    gaps { t with events := t.events.push e, restarting } =
      t.gaps ++ if e.reset then [] else (lastToggle? t.events.toList).toList.map (·, e.cycle) := by
  have hstep := flatMap_runs_concat (!·.reset) (·.cycle) t.events.toList e
  simp only [Bool.not_not, Bool.or_self] at hstep
  rw [gaps, Array.toList_push, ← getLast?_toggleCycles_split]
  exact hstep

/-- The intervals lie between those neighbours in the record that are both toggles. -/
theorem gaps_eq (t : Trace) :
    t.gaps = ((adjacent t.events.toList).filter fun (a, b) => !a.reset && !b.reset).map
      fun (a, b) => (a.cycle, b.cycle) := by
  obtain ⟨pin, ⟨events⟩, restarting⟩ := t
  induction events using List.reverseRecOn with
  | nil => rfl
  | append_singleton events e ih =>
    have hpush := gaps_push ⟨pin, ⟨events⟩, restarting⟩ e restarting
    rw [List.push_toArray, ih] at hpush
    rw [hpush, adjacent_concat, List.filter_append, List.map_append, lastToggle?]
    congr 1
    cases hreset : e.reset with
    | true => simp [List.filter_map, Function.comp_def, hreset]
    | false => cases events.getLast? with
      | none => rfl
      | some a => cases ha : a.reset <;> simp [hreset, ha]

/-- A trace whose pin went up and down by turns finds that it did. -/
theorem alternates_of_isChain {t : Trace}
    (h : (t.events.toList.map (·.level)).IsChain (· ≠ ·)) : t.alternates = true := by
  rw [List.isChain_map] at h
  rw [alternates, List.all_eq_true]
  intro run hrun
  have hlevels : run.IsChain (fun e e' => e.level ≠ e'.level) :=
    List.IsChain.infix h (infix_of_mem_runs hrun)
  rw [List.all_eq_true]
  exact fun pair hpair => decide_eq_true (forall_adjacent_iff.mpr hlevels pair hpair)

/-- A trace of changes in the order of their cycles measures its intervals without a wrap. -/
theorem isSome_intervals?_of_pairwise {t : Trace}
    (h : (t.events.toList.map (·.cycle)).Pairwise (· ≤ ·)) : t.intervals?.isSome = true := by
  have hgap : ∀ gap ∈ t.gaps, Counter.sub? gap.2 gap.1 = some (gap.2 - gap.1) := by
    intro gap hgap
    obtain ⟨run, hrun, hmem⟩ := List.mem_flatMap.mp hgap
    have hsub : (toggleCycles run).Sublist (t.events.toList.map (·.cycle)) :=
      (List.filter_sublist.trans (infix_of_mem_runs hrun).sublist).map _
    have hchain := List.Pairwise.isChain (h.sublist hsub)
    exact if_pos (forall_adjacent_iff.mpr hchain gap hmem)
  rw [intervals?_eq, mapM_eq_some hgap]
  rfl

theorem pin_observe (t : Trace) (e : Event) : (t.observe e).pin = t.pin := by
  cases e with
  | pin port bit level cycle =>
    rw [observe]
    split <;> rfl
  | _ => rfl

theorem pin_foldl_observe (t : Trace) (events : List Event) :
    (events.foldl observe t).pin = t.pin := by
  induction events generalizing t with
  | nil => rfl
  | cons e rest ih => rw [List.foldl_cons, ih, pin_observe]

/-- A trace goes on recording the changes of its pin among what it hears. -/
theorem changes_foldl_observe (t : Trace) (events : List Event) :
    (events.foldl observe t).events.toList.map (fun e => (e.level, e.cycle)) =
      t.events.toList.map (fun e => (e.level, e.cycle)) ++
        events.filterMap (Event.change? t.pin) := by
  induction events generalizing t with
  | nil => simp
  | cons e rest ih =>
    rw [List.foldl_cons, ih]
    cases e with
    | pin port bit level cycle =>
      by_cases hself : port = t.pin.port ∧ bit = t.pin.bit
      · simp [observe, Event.change?, hself]
      · simp [observe, Event.change?, hself]
    | _ => simp [observe, Event.change?, List.filterMap_cons]

/-- A trace from the first event on records exactly the changes of its pin. -/
theorem changes_ofEvents (pin : PinRef) (events : List Event) :
    (ofEvents pin events).events.toList.map (fun e => (e.level, e.cycle)) =
      events.filterMap (Event.change? pin) :=
  changes_foldl_observe { pin } events

end Trace

end LedBench.Bench
