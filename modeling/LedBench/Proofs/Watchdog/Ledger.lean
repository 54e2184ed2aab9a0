import Mathlib.Algebra.Order.Ring.Nat
import Mathlib.Data.List.DropRight
import Mathlib.Data.List.Infix
import LedBench.Chip.Builtin
import LedBench.Proofs.Bus.Clock

namespace LedBench.Bench.Watchdog

open Chip

/-- What a watchdog is called on to do. -/
inductive Call
  | configure (word : UInt16)
  | clear
  | tick (cycles : UInt64)
  deriving DecidableEq, Repr

namespace Call

def isTick : Call → Bool
  | tick _ => true
  | _ => false

/-- The cycles that a call lets go by. -/
def cycles : Call → UInt64
  | tick cycles => cycles
  | _ => 0

/-- The configuration word in force after a call. -/
def word (before : Option UInt16) : Call → Option UInt16
  | configure word => some word
  | _ => before

end Call

/-- A watchdog before its first configuration word. -/
def fresh (layout : WatchdogLayout) (period : UInt64) : Watchdog :=
  { layout := layout, periodCycles := period }

/-- Whether the watchdog expires at a call, which only a tick can bring about, and the watchdog
    after it. -/
def answer? (w : Watchdog) : Call → Option (Bool × Watchdog)
  | .configure word => some (false, w.configure word)
  | .clear => some (false, w.clear)
  | .tick cycles => w.tick? cycles

/-- Calls one after the other, each entered with its answer; none if one of them has no answer. -/
def run? (w : Watchdog) : List Call → Option (List (Call × Bool) × Watchdog)
  | [] => some ([], w)
  | call :: rest => do
    let (expired, w) ← w.answer? call
    let (log, w) ← w.run? rest
    return ((call, expired) :: log, w)

/-- The ticks since the period last started, which every call but a tick starts. -/
def sinceStart (calls : List Call) : List Call := calls.rtakeWhile Call.isTick

/-- The cycles ticked since the period last started. -/
def ticked (calls : List Call) : Nat := ((sinceStart calls).map (·.cycles.toNat)).sum

/-- The expiries told of since the period last started. -/
def told (log : List (Call × Bool)) : Nat := (log.rtakeWhile (·.1.isTick)).countP (·.2)

/-- A watchdog runs after these calls: the last configuration word enables it, and its period has
    cycles. -/
def RunsAfter (layout : WatchdogLayout) (period : UInt64) (calls : List Call) : Prop :=
  (calls.foldl Call.word none).any layout.isEnabled = true ∧ 0 < period

instance (layout : WatchdogLayout) (period : UInt64) (calls : List Call) :
    Decidable (RunsAfter layout period calls) :=
  inferInstanceAs (Decidable (_ ∧ _))

/-- As long as the watchdog runs, the cycles since the start of its period are a 64-bit number. -/
def Fits (layout : WatchdogLayout) (period : UInt64) (calls : List Call) : Prop :=
  ∀ past ∈ calls.inits, RunsAfter layout period past → ticked past < UInt64.size

instance (layout : WatchdogLayout) (period : UInt64) (calls : List Call) :
    Decidable (Fits layout period calls) :=
  inferInstanceAs (Decidable (∀ past ∈ calls.inits, _))

theorem sinceStart_concat_tick (calls : List Call) (cycles : UInt64) :
    sinceStart (calls ++ [.tick cycles]) = sinceStart calls ++ [.tick cycles] :=
  List.rtakeWhile_concat_pos _ _ _ rfl

theorem sinceStart_concat_of_not_isTick (calls : List Call) {call : Call}
    (h : call.isTick = false) : sinceStart (calls ++ [call]) = [] :=
  List.rtakeWhile_concat_neg _ _ _ (by simp [h])

theorem ticked_concat_tick (calls : List Call) (cycles : UInt64) :
    ticked (calls ++ [.tick cycles]) = ticked calls + cycles.toNat := by
  simp [ticked, sinceStart_concat_tick, Call.cycles]

theorem told_concat_tick (log : List (Call × Bool)) (cycles : UInt64) (expired : Bool) :
    told (log ++ [(.tick cycles, expired)]) = told log + expired.toNat := by
  rw [told, List.rtakeWhile_concat_pos _ _ _ rfl, List.countP_append, told]
  cases expired <;> rfl

theorem told_concat_of_not_isTick (log : List (Call × Bool)) {call : Call}
    (h : call.isTick = false) (expired : Bool) : told (log ++ [(call, expired)]) = 0 := by
  rw [told, List.rtakeWhile_concat_neg _ _ _ (by simp [h]), List.countP_nil]

theorem runsAfter_concat (layout : WatchdogLayout) (period : UInt64) (calls : List Call)
    {call : Call} (h : ∀ before, call.word before = before) :
    RunsAfter layout period (calls ++ [call]) ↔ RunsAfter layout period calls := by
  rw [RunsAfter, List.foldl_append, List.foldl_cons, List.foldl_nil, h, RunsAfter]

theorem runsAfter_concat_configure (layout : WatchdogLayout) (period : UInt64) (calls : List Call)
    (word : UInt16) :
    RunsAfter layout period (calls ++ [.configure word]) ↔
      layout.isEnabled word = true ∧ 0 < period := by
  rw [RunsAfter, List.foldl_append]
  rfl

theorem run?_cons {w w' w'' : Watchdog} {call : Call} {expired : Bool} {rest : List Call}
    {log : List (Call × Bool)} (hanswer : w.answer? call = some (expired, w'))
    (hrest : w'.run? rest = some (log, w'')) :
    w.run? (call :: rest) = some ((call, expired) :: log, w'') := by
  simp [run?, hanswer, hrest]

/-- A running watchdog, so many cycles and expiries after its period started: its count is what the
    cycles are ahead of the periods told of. -/
structure Balanced (w : Watchdog) (cycles told : Nat) : Prop where
  enabled_eq : w.enabled = true
  period_pos : 0 < w.periodCycles.toNat
  count_eq : w.count.toNat + told * w.periodCycles.toNat = cycles

namespace Balanced

variable {w : Watchdog} {cycles told : Nat} {more : UInt64}

/-- The periods that are full but not told of are those in the count. -/
theorem div_eq (h : w.Balanced cycles told) :
    cycles / w.periodCycles.toNat = w.count.toNat / w.periodCycles.toNat + told := by
  rw [← h.count_eq, Nat.add_mul_div_right _ _ h.period_pos]

theorem told_le (h : w.Balanced cycles told) : told ≤ cycles / w.periodCycles.toNat := by
  rw [h.div_eq]
  exact Nat.le_add_left _ _

theorem told_eq (h : w.Balanced cycles told) (hcount : w.count.toNat < w.periodCycles.toNat) :
    told = cycles / w.periodCycles.toNat := by
  rw [h.div_eq, Nat.div_eq_of_lt hcount, Nat.zero_add]

/-- The timer is due exactly if one more period is full by then. -/
theorem due_iff (h : w.Balanced cycles told) (more : Nat) :
    w.due more = true ↔ (told + 1) * w.periodCycles.toNat ≤ cycles + more := by
  have hcount := h.count_eq
  rw [Watchdog.due_iff, Nat.succ_mul]
  constructor
  · rintro ⟨-, hdue⟩
    omega
  · intro hfull
    exact ⟨h.enabled_eq, by omega⟩

/-- The count is never ahead of the cycles. -/
theorem count_add_lt (h : w.Balanced cycles told)
    (hroom : cycles + more.toNat < UInt64.size) :
    w.count.toNat + more.toNat < UInt64.size := by
  have hcount := h.count_eq
  exact Nat.lt_of_le_of_lt (by omega) hroom

theorem tick?_eq (h : w.Balanced cycles told) (hroom : cycles + more.toNat < UInt64.size) :
    w.tick? more = some (w.due more.toNat, w.lapse more) :=
  w.tick?_eq_lapse more (h.count_add_lt hroom)

theorem count_lapse (h : w.Balanced cycles told) (hroom : cycles + more.toNat < UInt64.size) :
    (w.lapse more).count.toNat + (w.due more.toNat).toNat * w.periodCycles.toNat =
      w.count.toNat + more.toNat := by
  have hmoved := w.count_lapse more (h.count_add_lt hroom)
  rw [h.enabled_eq, if_pos rfl] at hmoved
  rw [← hmoved]
  cases w.due more.toNat <;> simp

/-- A tick is entered on both sides. -/
theorem lapse (h : w.Balanced cycles told) (hroom : cycles + more.toNat < UInt64.size) :
    (w.lapse more).Balanced (cycles + more.toNat) (told + (w.due more.toNat).toNat) := by
  have hmoved := h.count_lapse hroom
  have hcount := h.count_eq
  refine ⟨?_, ?_, ?_⟩
  · rw [enabled_lapse]
    exact h.enabled_eq
  · rw [periodCycles_lapse]
    exact h.period_pos
  · rw [periodCycles_lapse, Nat.add_mul]
    omega

/-- A count within its period is still so after a tick no longer than that. -/
theorem count_lapse_lt (h : w.Balanced cycles told) (hroom : cycles + more.toNat < UInt64.size)
    (hcount : w.count.toNat < w.periodCycles.toNat)
    (hmore : more.toNat ≤ w.periodCycles.toNat) :
    (w.lapse more).count.toNat < w.periodCycles.toNat := by
  have hmoved := h.count_lapse hroom
  cases hdue : w.due more.toNat with
  | true =>
    rw [hdue, Bool.toNat_true, Nat.one_mul] at hmoved
    omega
  | false =>
    have hearly : ¬ w.periodCycles.toNat ≤ w.count.toNat + more.toNat := by
      intro hle
      rw [Watchdog.due_iff.mpr ⟨h.enabled_eq, hle⟩] at hdue
      cases hdue
    rw [hdue, Bool.toNat_false, Nat.zero_mul] at hmoved
    omega

/-- Without another cycle the timer is due as long as a full period is not told of. -/
theorem due_zero_iff (h : w.Balanced cycles told) :
    w.due 0 = true ↔ told < cycles / w.periodCycles.toNat := by
  rw [h.due_iff, Nat.add_zero cycles, ← Nat.le_div_iff_mul_le h.period_pos, Nat.succ_le_iff]

/-- As many of the next ticks as periods are not told of yet all tell of one. -/
theorem exists_run_owed (h : w.Balanced cycles told) {more : List UInt64}
    (hroom : cycles + (more.map UInt64.toNat).sum < UInt64.size)
    (howed : told + more.length ≤ cycles / w.periodCycles.toNat) :
    ∃ w', w.run? (more.map .tick) = some (more.map (.tick ·, true), w') := by
  induction more generalizing w cycles told with
  | nil => exact ⟨w, rfl⟩
  | cons first rest ih =>
    rw [List.map_cons, List.sum_cons] at hroom
    rw [List.length_cons] at howed
    have hfirst : cycles + first.toNat < UInt64.size := Nat.lt_of_le_of_lt (by omega) hroom
    have hdue : w.due first.toNat = true :=
      due_mono (Nat.zero_le _) (h.due_zero_iff.mpr (by omega))
    have htick := h.tick?_eq hfirst
    have hnext := h.lapse hfirst
    rw [hdue] at htick hnext
    have hmono : cycles / w.periodCycles.toNat ≤ (cycles + first.toNat) / w.periodCycles.toNat :=
      Nat.div_le_div_right (Nat.le_add_right _ _)
    obtain ⟨w', hrest⟩ := ih hnext (by omega) (by
      rw [periodCycles_lapse, Bool.toNat_true]
      omega)
    exact ⟨w', run?_cons htick hrest⟩

/-- Ticks of no cycles tell of the periods not told of yet, one each, and of nothing more. -/
theorem exists_run_drained (h : w.Balanced cycles told) (hroom : cycles < UInt64.size) {owed : Nat}
    (howed : cycles / w.periodCycles.toNat = told + owed) (ticks : Nat) :
    ∃ w', w.run? (.replicate ticks (.tick 0)) =
      some (.replicate (min ticks owed) (.tick 0, true) ++
        .replicate (ticks - owed) (.tick 0, false), w') := by
  induction ticks generalizing w told owed with
  | zero => exact ⟨w, by simp [run?]⟩
  | succ ticks ih =>
    have hzero : cycles + (0 : UInt64).toNat = cycles := Nat.add_zero cycles
    have hanswer : w.answer? (.tick 0) = some (w.due 0, w.lapse 0) :=
      h.tick?_eq (hzero.symm ▸ hroom)
    have hnext : (w.lapse 0).Balanced cycles (told + (w.due 0).toNat) :=
      hzero ▸ h.lapse (hzero.symm ▸ hroom)
    have hleft : cycles / (w.lapse 0).periodCycles.toNat = told + owed := by
      rw [periodCycles_lapse, howed]
    -- This tick tells of one more period, or none is left for it and for those that follow.
    cases owed with
    | zero =>
      have hdue : w.due 0 = false := by
        rw [← Bool.not_eq_true, h.due_zero_iff, howed]
        exact Nat.lt_irrefl told
      rw [hdue] at hanswer hnext
      obtain ⟨w', hrest⟩ := ih hnext hleft
      rw [Nat.min_zero] at hrest ⊢
      exact ⟨w', run?_cons hanswer hrest⟩
    | succ owed =>
      have hdue : w.due 0 = true := by
        rw [h.due_zero_iff, howed]
        exact Nat.lt_add_of_pos_right (Nat.succ_pos owed)
      rw [hdue] at hanswer hnext
      have hless : cycles / (w.lapse 0).periodCycles.toNat = told + 1 + owed := by omega
      obtain ⟨w', hrest⟩ := ih hnext hless
      rw [Nat.add_min_add_right, Nat.add_sub_add_right]
      exact ⟨w', run?_cons hanswer hrest⟩

end Balanced

/-- How a running watchdog goes on, so many cycles and expiries after its period last started. -/
structure Settles (w : Watchdog) (period : UInt64) (cycles told : Nat) : Prop where
  /-- The count is what the cycles are ahead of the periods told of: neither a sum nor a difference
      on the way here has wrapped. -/
  count_eq : w.count.toNat + told * period.toNat = cycles
  /-- The next tick tells of an expiry exactly if one more period is full by then. Neither the sum
      nor the period taken off it wraps. -/
  tick : ∀ more : UInt64, cycles + more.toNat < UInt64.size →
    ∃ expired w', w.tick? more = some (expired, w') ∧
      (expired = true ↔ (told + 1) * period.toNat ≤ cycles + more.toNat) ∧
      w'.count.toNat + expired.toNat * period.toNat = w.count.toNat + more.toNat
  /-- Each of the next ticks, however long or short, tells of one of the periods that are full but
      not told of. -/
  owed : ∀ more : List UInt64, cycles + (more.map UInt64.toNat).sum < UInt64.size →
    told + more.length ≤ cycles / period.toNat →
    ∃ w', w.run? (more.map .tick) = some (more.map (.tick ·, true), w')
  /-- Ticks of no cycles tell of all these periods and of no other. -/
  drained : ∀ ticks, ∃ w', w.run? (.replicate ticks (.tick 0)) =
    some (.replicate (min ticks (cycles / period.toNat - told)) (.tick 0, true) ++
      .replicate (ticks - (cycles / period.toNat - told)) (.tick 0, false), w')

theorem Balanced.settles {w : Watchdog} {cycles told : Nat} (h : w.Balanced cycles told)
    (hroom : cycles < UInt64.size) : w.Settles w.periodCycles cycles told where
  count_eq := h.count_eq
  tick := fun more hmore =>
    ⟨_, _, h.tick?_eq hmore, h.due_iff more.toNat, h.count_lapse hmore⟩
  owed := fun _ hmore howed => h.exists_run_owed hmore howed
  drained := h.exists_run_drained hroom (Nat.add_sub_of_le h.told_le).symm

/-- What the ledger shows since the last start of the period. -/
inductive Page (layout : WatchdogLayout) (period : UInt64) (calls : List Call)
    (log : List (Call × Bool)) (w : Watchdog) : Prop
  /-- Ticks no longer than the period leave less than a period on the count. -/
  | running (hruns : RunsAfter layout period calls)
      (hbalanced : w.Balanced (ticked calls) (told log))
      (hshort : (∀ call ∈ sinceStart calls, call.cycles ≤ period) →
        w.count.toNat < w.periodCycles.toNat)
  | resting (hrests : ¬ RunsAfter layout period calls) (hdisabled : w.enabled = false)
      (htold : told log = 0)

/-- A watchdog after these calls, which were entered with their answers. -/
structure Entered (layout : WatchdogLayout) (period : UInt64) (calls : List Call)
    (log : List (Call × Bool)) (w : Watchdog) : Prop where
  layout_eq : w.layout = layout
  period_eq : w.periodCycles = period
  page : Page layout period calls log w

theorem entered_fresh (layout : WatchdogLayout) (period : UInt64) :
    Entered layout period [] [] (fresh layout period) :=
  ⟨rfl, rfl, .resting (fun hruns => Bool.false_ne_true hruns.1) rfl rfl⟩

namespace Entered

variable {layout : WatchdogLayout} {period : UInt64} {calls : List Call}
  {log : List (Call × Bool)} {w : Watchdog}

/-- A call that starts the period opens a new page. -/
theorem of_start {call : Call} (hcall : call.isTick = false) (hlayout : w.layout = layout)
    (hperiod : w.periodCycles = period)
    (henabled : w.enabled = decide (RunsAfter layout period (calls ++ [call])))
    (hcount : w.count.toNat = 0) :
    Entered layout period (calls ++ [call]) (log ++ [(call, false)]) w := by
  refine ⟨hlayout, hperiod, ?_⟩
  have htold := told_concat_of_not_isTick log hcall false
  by_cases hruns : RunsAfter layout period (calls ++ [call])
  · have hpos : 0 < w.periodCycles.toNat := by
      rw [hperiod]
      exact UInt64.lt_iff_toNat_lt.mp hruns.2
    have hticked : ticked (calls ++ [call]) = 0 := by
      rw [ticked, sinceStart_concat_of_not_isTick _ hcall, List.map_nil, List.sum_nil]
    refine .running hruns ⟨henabled.trans (decide_eq_true hruns), hpos, ?_⟩ fun _ => ?_
    · rw [hcount, htold, hticked, Nat.zero_mul]
    · rwa [hcount]
  · exact .resting hruns (henabled.trans (decide_eq_false hruns)) htold

theorem enabled_eq (h : Entered layout period calls log w) :
    w.enabled = decide (RunsAfter layout period calls) := by
  cases h.page with
  | running hruns hbalanced => exact hbalanced.enabled_eq.trans (decide_eq_true hruns).symm
  | resting hrests hdisabled => exact hdisabled.trans (decide_eq_false hrests).symm

theorem exists_tick (h : Entered layout period calls log w) {cycles : UInt64}
    (hroom : RunsAfter layout period (calls ++ [.tick cycles]) →
      ticked (calls ++ [.tick cycles]) < UInt64.size) :
    ∃ expired w', w.tick? cycles = some (expired, w') ∧
      Entered layout period (calls ++ [.tick cycles]) (log ++ [(.tick cycles, expired)]) w' := by
  have hsame : RunsAfter layout period (calls ++ [.tick cycles]) ↔ RunsAfter layout period calls :=
    runsAfter_concat layout period calls fun _ => rfl
  cases h.page with
  | running hruns hbalanced hshort =>
    rw [hsame, ticked_concat_tick] at hroom
    have hfits := hroom hruns
    refine ⟨_, _, hbalanced.tick?_eq hfits, ?_, ?_, .running (hsame.mpr hruns) ?_ ?_⟩
    · exact (w.layout_lapse cycles).trans h.layout_eq
    · exact (w.periodCycles_lapse cycles).trans h.period_eq
    · rw [ticked_concat_tick, told_concat_tick]
      exact hbalanced.lapse hfits
    · intro hall
      rw [sinceStart_concat_tick, List.forall_mem_append, List.forall_mem_singleton] at hall
      obtain ⟨hbefore, hlast⟩ := hall
      rw [periodCycles_lapse]
      refine hbalanced.count_lapse_lt hfits (hshort hbefore) ?_
      rw [h.period_eq]
      exact UInt64.le_iff_toNat_le.mp hlast
  | resting hrests hdisabled htold =>
    refine ⟨false, w, tick?_of_disabled hdisabled cycles, h.layout_eq, h.period_eq, ?_⟩
    refine .resting (fun hruns => hrests (hsame.mp hruns)) hdisabled ?_
    rw [told_concat_tick, htold, Bool.toNat_false]

/-- Every call is answered and entered. -/
theorem exists_answer (h : Entered layout period calls log w) {call : Call}
    (hroom : RunsAfter layout period (calls ++ [call]) → ticked (calls ++ [call]) < UInt64.size) :
    ∃ expired w', w.answer? call = some (expired, w') ∧
      Entered layout period (calls ++ [call]) (log ++ [(call, expired)]) w' := by
  cases call with
  | configure word =>
    refine ⟨false, _, rfl, of_start rfl h.layout_eq h.period_eq ?_ rfl⟩
    rw [decide_eq_decide.mpr (runsAfter_concat_configure layout period calls word), configure,
      h.layout_eq, h.period_eq, Bool.decide_and, Bool.decide_eq_true]
  | clear =>
    refine ⟨false, _, rfl, of_start rfl h.layout_eq h.period_eq ?_ rfl⟩
    rw [decide_eq_decide.mpr (runsAfter_concat layout period calls fun _ => rfl)]
    exact h.enabled_eq
  | tick cycles => exact h.exists_tick hroom

theorem exists_run (h : Entered layout period calls log w) {more : List Call}
    (hfits : ∀ past, past <+: more → RunsAfter layout period (calls ++ past) →
      ticked (calls ++ past) < UInt64.size) :
    ∃ log' w', w.run? more = some (log', w') ∧ log'.map Prod.fst = more ∧
      Entered layout period (calls ++ more) (log ++ log') w' := by
  induction more generalizing calls log w with
  | nil => exact ⟨[], w, rfl, rfl, by rwa [List.append_nil, List.append_nil]⟩
  | cons call rest ih =>
    obtain ⟨expired, w', hanswer, hentered⟩ := h.exists_answer
      (hfits [call] (List.prefix_append [call] rest))
    obtain ⟨log', w'', hrun, hcalls, hlast⟩ := ih hentered (by
      intro past hpast
      rw [List.append_assoc]
      exact hfits (call :: past) ((List.prefix_cons_inj call).mpr hpast))
    refine ⟨(call, expired) :: log', w'', run?_cons hanswer hrun, ?_, ?_⟩
    · rw [List.map_cons, hcalls]
    · rwa [List.append_assoc, List.append_assoc] at hlast

end Entered

/-- After any calls, a watchdog that runs tells of an expiry in the very tick in which one more
    period is full than it has told of since the period last started. It never tells of more periods
    than are full, tells of all of them where no tick was longer than the period, and makes up for
    those that a longer tick filled in the ticks that follow, one by one. One that does not run
    tells of nothing and counts nothing. The calls have to keep the cycles since each start a 64-bit
    number while the watchdog runs, and then every one of them is answered. -/
theorem told_run {layout : WatchdogLayout} {period : UInt64} {calls : List Call}
    (hfits : Fits layout period calls) :
    ∃ log w, (fresh layout period).run? calls = some (log, w) ∧ log.map Prod.fst = calls ∧
      w.enabled = decide (RunsAfter layout period calls) ∧
      told log ≤ ticked calls / period.toNat ∧
      (RunsAfter layout period calls →
        w.Settles period (ticked calls) (told log) ∧
        ((∀ call ∈ sinceStart calls, call.cycles ≤ period) →
          told log = ticked calls / period.toNat)) ∧
      (¬ RunsAfter layout period calls →
        told log = 0 ∧ ∀ cycles, w.tick? cycles = some (false, w)) := by
  obtain ⟨log, w, hrun, hcalls, hentered⟩ := (entered_fresh layout period).exists_run
    (fun past hpast => hfits past ((List.mem_inits past calls).mpr hpast))
  rw [List.nil_append, List.nil_append] at hentered
  refine ⟨log, w, hrun, hcalls, hentered.enabled_eq, ?_⟩
  obtain ⟨-, rfl, hpage⟩ := hentered
  cases hpage with
  | running hruns hbalanced hshort =>
    have hroom := hfits calls ((List.mem_inits calls calls).mpr (List.prefix_refl calls)) hruns
    refine ⟨hbalanced.told_le, fun _ => ⟨hbalanced.settles hroom, ?_⟩, fun h => absurd hruns h⟩
    exact fun hall => hbalanced.told_eq (hshort hall)
  | resting hrests hdisabled htold =>
    refine ⟨?_, fun h => absurd h hrests, fun _ => ⟨htold, tick?_of_disabled hdisabled⟩⟩
    rw [htold]
    exact Nat.zero_le _

/-- With a period of 100 cycles a tick of 350 fills three: one is told at once, one by the tick that
    follows, and the third by the next. After that nothing is owed. -/
theorem told_run_long_tick :
    ∃ log w w', (fresh pic16f628a.watchdog 100).run?
        [.configure 0x3FFF, .tick 99, .clear, .tick 350, .tick 0] = some (log, w) ∧
      told log = 2 ∧
      w.run? [.tick 0, .tick 0] = some ([(.tick 0, true), (.tick 0, false)], w') := by
  have hfits : Fits pic16f628a.watchdog 100
      [.configure 0x3FFF, .tick 99, .clear, .tick 350, .tick 0] := by decide
  obtain ⟨log, w, hrun, -, -, -, hruns, -⟩ := told_run hfits
  have htold : told log = 2 := by
    obtain rfl : [(.configure 0x3FFF, false), (.tick 99, false), (.clear, false),
        (.tick 350, true), (.tick 0, true)] = log :=
      congrArg Prod.fst (Option.some.inj hrun)
    rfl
  obtain ⟨hsettles, -⟩ := hruns (by decide)
  obtain ⟨w', hdrained⟩ := hsettles.drained 2
  rw [htold] at hdrained
  exact ⟨log, w, w', hrun, htold, hdrained⟩

end LedBench.Bench.Watchdog
