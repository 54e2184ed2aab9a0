import LedBench.Proofs.Trace.Runs

namespace LedBench.Bench

/-- A reset has come, and the pin has not gone up since the latest one. -/
def Restarting (pin : PinRef) (past : List Event) : Prop :=
  ∃ earlier cause later, past = earlier ++ .reset cause :: later ∧
    ∀ e ∈ later, (∀ c, e ≠ .reset c) ∧ ∀ cycle, e.change? pin ≠ some (true, cycle)

theorem restarting_concat {pin : PinRef} {past : List Event} {e : Event} :
    Restarting pin (past ++ [e]) ↔
      (∃ cause, e = .reset cause) ∨
        Restarting pin past ∧ ∀ cycle, e.change? pin ≠ some (true, cycle) := by
  constructor
  · rintro ⟨earlier, cause, later, hpast, hlater⟩
    rcases List.eq_nil_or_concat later with rfl | ⟨later, last, rfl⟩
    · exact .inl ⟨cause, (List.append_inj_right' hpast rfl |> List.cons.inj).1⟩
    · rw [List.concat_eq_append, ← List.cons_append, ← List.append_assoc] at hpast
      obtain ⟨rfl, hlast⟩ := List.append_inj' hpast rfl
      obtain rfl : e = last := (List.cons.inj hlast).1
      simp only [List.concat_eq_append, List.forall_mem_append] at hlater
      exact .inr ⟨⟨earlier, cause, later, rfl, hlater.1⟩, (hlater.2 e List.mem_cons_self).2⟩
  · intro h
    by_cases hreset : ∃ cause, e = .reset cause
    · obtain ⟨cause, rfl⟩ := hreset
      exact ⟨past, cause, [], rfl, by simp⟩
    obtain ⟨⟨earlier, cause, later, rfl, hlater⟩, hlow⟩ := h.resolve_left hreset
    refine ⟨earlier, cause, later ++ [e], by simp, ?_⟩
    rw [List.forall_mem_append]
    refine ⟨hlater, ?_⟩
    simpa using ⟨fun c hc => hreset ⟨c, hc⟩, hlow⟩

namespace Trace

theorem ofEvents_concat (pin : PinRef) (past : List Event) (e : Event) :
    ofEvents pin (past ++ [e]) = (ofEvents pin past).observe e :=
  List.foldl_concat ..

/-- A change of the pin is recorded, marked as the trace stands. -/
theorem events_observe (t : Trace) (e : Event) :
    (t.observe e).events.toList = t.events.toList ++ ((e.change? t.pin).map fun (level, cycle) =>
      { cycle, level, reset := t.restarting }).toList := by
  cases e with
  | pin port bit level cycle =>
    rw [observe, Event.change?]
    split <;> simp
  | _ => simp [observe, Event.change?]

/-- The flag of a trace tells whether a restart goes on. -/
theorem restarting_ofEvents (pin : PinRef) (past : List Event) :
    (ofEvents pin past).restarting = true ↔ Restarting pin past := by
  induction past using List.reverseRecOn with
  | nil => simp [ofEvents, Restarting]
  | append_singleton past e ih =>
    have hpin : (ofEvents pin past).pin = pin := pin_foldl_observe _ past
    rw [ofEvents_concat, restarting_concat, ← ih]
    cases e with
    | pin port bit level cycle =>
      rw [observe, hpin, Event.change?]
      split <;> simp
    | _ => simp [observe, Event.change?]

end Trace

instance (pin : PinRef) (past : List Event) : Decidable (Restarting pin past) :=
  decidable_of_iff _ (Trace.restarting_ofEvents pin past)

/-- The changes of the pin in order, each marked if a restart goes on when it comes. -/
def recorded (pin : PinRef) (events : List Event) : List PinEvent :=
  events.zipIdx.filterMap fun (e, i) => (e.change? pin).map fun (level, cycle) =>
    { cycle, level, reset := decide (Restarting pin (events.take i)) }

theorem recorded_concat (pin : PinRef) (past : List Event) (e : Event) :
    recorded pin (past ++ [e]) = recorded pin past ++ ((e.change? pin).map fun (level, cycle) =>
      { cycle, level, reset := decide (Restarting pin past) }).toList := by
  rw [recorded, List.zipIdx_append, List.filterMap_append]
  congr 1
  · refine List.filterMap_congr fun (e', i) hmem => ?_
    dsimp only
    rw [List.take_append_of_le_length (Nat.le_of_lt (List.snd_lt_of_mem_zipIdx hmem))]
  · cases h : e.change? pin <;> simp [h]

namespace Trace

/-- The record of a trace holds the changes of its pin and their marks. -/
theorem events_ofEvents (pin : PinRef) (events : List Event) :
    (ofEvents pin events).events.toList = recorded pin events := by
  induction events using List.reverseRecOn with
  | nil => rfl
  | append_singleton past e ih =>
    have hpin : (ofEvents pin past).pin = pin := pin_foldl_observe _ past
    have hmark : (ofEvents pin past).restarting = decide (Restarting pin past) := by
      rw [Bool.eq_iff_iff, restarting_ofEvents, decide_eq_true_iff]
    rw [ofEvents_concat, events_observe, ih, recorded_concat, hpin, hmark]

end Trace

/-- The switch-off by a reset is followed by a change of that or a later reset. -/
theorem isChain_recorded (pin : PinRef) (events : List Event) :
    (recorded pin events).IsChain (fun a b => a.reset → a.level = false → b.reset) ∧
      ∀ last ∈ (recorded pin events).getLast?, last.reset → last.level = false →
        Restarting pin events := by
  induction events using List.reverseRecOn with
  | nil => simp [recorded]
  | append_singleton past e ih =>
    obtain ⟨hchain, hlast⟩ := ih
    rw [recorded_concat]
    cases hchange : e.change? pin with
    | none =>
      simp only [Option.map_none, Option.toList_none, List.append_nil]
      refine ⟨hchain, fun last hmem hreset hlow => restarting_concat.mpr (.inr ?_)⟩
      exact ⟨hlast last hmem hreset hlow, by simp [hchange]⟩
    | some change =>
      obtain ⟨level, cycle⟩ := change
      simp only [Option.map_some, Option.toList_some]
      refine ⟨List.isChain_append.mpr ⟨hchain, List.isChain_singleton _, ?_⟩, ?_⟩
      · intro last hmem next hnext hreset hlow
        obtain rfl := Option.some.inj hnext
        exact decide_eq_true (hlast last hmem hreset hlow)
      · intro last hmem hreset hlow
        rw [List.getLast?_concat] at hmem
        obtain rfl := Option.some.inj hmem
        refine restarting_concat.mpr (.inr ⟨of_decide_eq_true hreset, ?_⟩)
        simpa [hchange] using hlow

theorem change?_eq_some {pin : PinRef} {e : Event} {level : Bool} {cycle : UInt64} :
    e.change? pin = some (level, cycle) ↔ e = .pin pin.port pin.bit level cycle := by
  cases e with
  | pin port bit level' cycle' => simp [Event.change?, and_assoc]
  | _ => simp [Event.change?]

/-- Nothing that is heard after the change recorded last is a change. -/
theorem exists_last_recorded {pin : PinRef} {events : List Event} {a : PinEvent}
    (ha : (recorded pin events).getLast? = some a) :
    ∃ before rest, events = before ++ .pin pin.port pin.bit a.level a.cycle :: rest ∧
      (recorded pin before).length + 1 = (recorded pin events).length ∧
      ∀ e ∈ rest, e.change? pin = none := by
  induction events using List.reverseRecOn with
  | nil => cases ha
  | append_singleton past e ih =>
    rw [recorded_concat] at ha ⊢
    cases hchange : e.change? pin with
    | none =>
      simp only [hchange, Option.map_none, Option.toList_none, List.append_nil] at ha ⊢
      obtain ⟨before, rest, rfl, hlength, hrest⟩ := ih ha
      refine ⟨before, rest ++ [e], by simp, hlength, ?_⟩
      rw [List.forall_mem_append]
      exact ⟨hrest, by simpa using hchange⟩
    | some change =>
      obtain ⟨level, cycle⟩ := change
      simp only [hchange, Option.map_some, Option.toList_some, List.getLast?_concat] at ha ⊢
      obtain rfl := Option.some.inj ha
      refine ⟨past, [], ?_, by simp, by simp⟩
      rw [change?_eq_some.mp hchange]

theorem restarting_append {pin : PinRef} {past rest : List Event}
    (hrest : ∀ e ∈ rest, e.change? pin = none) {cause : ResetCause} (hreset : .reset cause ∈ rest) :
    Restarting pin (past ++ rest) := by
  induction rest using List.reverseRecOn with
  | nil => cases hreset
  | append_singleton rest e ih =>
    rw [List.forall_mem_append] at hrest
    rw [← List.append_assoc, restarting_concat]
    rcases List.mem_append.mp hreset with hbefore | hlast
    · exact .inr ⟨ih hrest.1 hbefore, by simp [hrest.2 e List.mem_cons_self]⟩
    · exact .inl ⟨cause, (List.mem_singleton.mp hlast).symm⟩

/-- Between a toggle and the change recorded before it, no reset has come. -/
theorem exists_between_recorded {pin : PinRef} {events : List Event} {i : Nat} {a b : PinEvent}
    (ha : (recorded pin events)[i]? = some a) (hb : (recorded pin events)[i + 1]? = some b)
    (htoggle : b.reset = false) :
    ∃ before between after, events = before ++ .pin pin.port pin.bit a.level a.cycle ::
        (between ++ .pin pin.port pin.bit b.level b.cycle :: after) ∧
      (recorded pin before).length = i ∧
      ∀ e ∈ between, e.change? pin = none ∧ ∀ cause, e ≠ .reset cause := by
  induction events using List.reverseRecOn with
  | nil => cases ha
  | append_singleton past e ih =>
    rw [recorded_concat] at ha hb
    by_cases hold : i + 1 < (recorded pin past).length
    · rw [List.getElem?_append_left (by omega)] at ha
      rw [List.getElem?_append_left hold] at hb
      obtain ⟨before, between, after, rfl, hlength, hbetween⟩ := ih ha hb
      exact ⟨before, between, after ++ [e], by simp, hlength, hbetween⟩
    · -- The toggle is the event that has just come, and the one before it was the last till then.
      cases hchange : e.change? pin with
      | none =>
        simp only [hchange, Option.map_none, Option.toList_none, List.append_nil] at hb
        exact absurd (List.getElem?_eq_some_iff.mp hb).1 hold
      | some change =>
        obtain ⟨level, cycle⟩ := change
        simp only [hchange, Option.map_some, Option.toList_some] at ha hb
        have hlength : (recorded pin past).length = i + 1 := by
          have := (List.getElem?_eq_some_iff.mp hb).1
          simp at this
          omega
        rw [← hlength, List.getElem?_concat_length] at hb
        obtain rfl := Option.some.inj hb
        rw [List.getElem?_append_left (by omega)] at ha
        have hlast : (recorded pin past).getLast? = some a := by
          rw [List.getLast?_eq_getElem?, hlength]
          exact ha
        obtain ⟨before, between, rfl, hbefore, hnone⟩ := exists_last_recorded hlast
        refine ⟨before, between, [], ?_, by omega, fun e he => ⟨hnone e he, ?_⟩⟩
        · rw [change?_eq_some.mp hchange, List.append_assoc]
          rfl
        · rintro cause rfl
          have hrestarting : Restarting pin ((before ++ [.pin pin.port pin.bit a.level a.cycle]) ++
            between) := restarting_append hnone he
          rw [List.append_assoc] at hrestarting
          exact of_decide_eq_false htoggle hrestarting

namespace Trace

/-- The intervals of a trace of ordered changes are how far apart those neighbours in its record
    are that are both toggles. -/
theorem intervals?_ofEvents {pin : PinRef} {events : List Event}
    (hordered : ((events.filterMap (Event.change? pin)).map (·.2)).Pairwise (· ≤ ·)) :
    ∃ intervals, (ofEvents pin events).intervals? = some intervals ∧
      intervals.map (fun n => (n.toNat : Int)) =
        ((adjacent (recorded pin events)).filter fun (a, b) => !a.reset && !b.reset).map
          fun (a, b) => (b.cycle.toNat - a.cycle.toNat : Int) := by
  have hcycles : (recorded pin events).Pairwise fun a b => a.cycle ≤ b.cycle := by
    rw [← changes_ofEvents, List.map_map, events_ofEvents, List.pairwise_map] at hordered
    exact hordered
  have hle : ∀ pair ∈ adjacent (recorded pin events), pair.1.cycle ≤ pair.2.cycle :=
    forall_adjacent_iff.mpr hcycles.isChain
  have hgaps := gaps_eq (ofEvents pin events)
  rw [events_ofEvents] at hgaps
  have hsub : ∀ gap ∈ (ofEvents pin events).gaps,
      Counter.sub? gap.2 gap.1 = some (gap.2 - gap.1) := by
    intro gap hgap
    rw [hgaps, List.mem_map] at hgap
    obtain ⟨pair, hpair, rfl⟩ := hgap
    exact if_pos (hle pair (List.mem_of_mem_filter hpair))
  refine ⟨_, (intervals?_eq _).trans (mapM_eq_some hsub), ?_⟩
  rw [hgaps, List.map_map, List.map_map]
  refine List.map_congr_left fun pair hpair => ?_
  have hpair := hle pair (List.mem_of_mem_filter hpair)
  have hnat := UInt64.le_iff_toNat_le.mp hpair
  simp only [Function.comp_apply, UInt64.toNat_sub_of_le _ _ hpair]
  omega

/-- A trace finds that its pin went up and down by turns if no toggle repeats the level recorded
    before it. -/
theorem alternates_ofEvents (pin : PinRef) (events : List Event) :
    (ofEvents pin events).alternates = true ↔
      ∀ pair ∈ adjacent (recorded pin events), pair.2.reset = false →
        pair.1.level ≠ pair.2.level := by
  have hruns := flatMap_runs_adjacent (isChain_recorded pin events).1
  have hiff : (ofEvents pin events).alternates = true ↔
      ∀ pair ∈ (runs (recorded pin events)).flatMap adjacent, pair.1.level ≠ pair.2.level := by
    rw [alternates, events_ofEvents]
    simp only [List.all_eq_true, List.mem_flatMap, decide_eq_true_eq]
    constructor
    · intro h pair hmem
      obtain ⟨run, hrun, hpair⟩ := hmem
      exact h run hrun pair hpair
    · exact fun h run hrun pair hpair => h pair ⟨run, hrun, hpair⟩
  rw [hiff, hruns]
  simp only [List.mem_filter, Bool.not_eq_true', and_imp]

/-- What a trace makes of whatever it hears. It records the changes of its pin, marked if a restart
    goes on. It counts those without a mark as toggles, measures from one toggle to the next if no
    other change and no reset comes between them, and compares each toggle with the change
    before it. -/
theorem ofEvents_spec (pin : PinRef) (events : List Event) :
    (ofEvents pin events).events.toList = recorded pin events ∧
    (ofEvents pin events).toggles = (recorded pin events).countP (!·.reset) ∧
    (((events.filterMap (Event.change? pin)).map (·.2)).Pairwise (· ≤ ·) →
      ∃ intervals, (ofEvents pin events).intervals? = some intervals ∧
        intervals.map (fun n => (n.toNat : Int)) =
          ((adjacent (recorded pin events)).filter fun (a, b) => !a.reset && !b.reset).map
            fun (a, b) => (b.cycle.toNat - a.cycle.toNat : Int)) ∧
    (∀ i a b, (recorded pin events)[i]? = some a → (recorded pin events)[i + 1]? = some b →
      b.reset = false → ∃ before between after,
        events = before ++ .pin pin.port pin.bit a.level a.cycle ::
          (between ++ .pin pin.port pin.bit b.level b.cycle :: after) ∧
        (recorded pin before).length = i ∧
        ∀ e ∈ between, e.change? pin = none ∧ ∀ cause, e ≠ .reset cause) ∧
    ((ofEvents pin events).alternates = true ↔
      ∀ pair ∈ adjacent (recorded pin events), pair.2.reset = false →
        pair.1.level ≠ pair.2.level) := by
  refine ⟨events_ofEvents pin events, ?_, intervals?_ofEvents, ?_, alternates_ofEvents pin events⟩
  · rw [toggles, events_ofEvents, List.countP_eq_length_filter]
  · exact fun i a b => exists_between_recorded

/-- Two toggles, a reset that finds the pin low and two more toggles make two intervals. -/
theorem ofEvents_spec_restarted :
    ∃ intervals, (ofEvents ⟨"portc", 0⟩ [.pin "portc" 0 true 2, .pin "portc" 0 false 7,
        .reset .watchdog, .pin "portb" 0 true 8, .pin "portc" 0 true 9, .pin "portc" 0 false 12,
        .pin "portc" 0 true 20]).intervals? = some intervals ∧
      intervals.map (fun n => (n.toNat : Int)) = [5, 8] := by
  obtain ⟨intervals, hintervals, hmap⟩ := (ofEvents_spec ⟨"portc", 0⟩ [.pin "portc" 0 true 2,
    .pin "portc" 0 false 7, .reset .watchdog, .pin "portb" 0 true 8, .pin "portc" 0 true 9,
    .pin "portc" 0 false 12, .pin "portc" 0 true 20]).2.2.1 (by decide)
  exact ⟨intervals, hintervals, hmap.trans (by decide)⟩

end Trace

end LedBench.Bench
