import Mathlib.Algebra.Order.Floor.Div
import LedBench.Proofs.Watchdog.Disabled

namespace LedBench.Chip

open Firmware

/-- Under a word that switches a built-in chip's watchdog on, the firmware takes it for on. -/
theorem Descriptor.watchdogEnabled_of_isEnabled {t : Target} {word : UInt16}
    (h : (Descriptor.ofTarget t).watchdog.isEnabled word = true) :
    t.watchdogEnabled word = true := by
  rw [WatchdogLayout.isEnabled, List.contains_iff_mem] at h
  have hfield : word &&& t.watchdogMask ∈ (Descriptor.ofTarget t).watchdog.enabledWhen := by
    cases t <;> exact h
  have hzero : 0 ∉ (Descriptor.ofTarget t).watchdog.enabledWhen := by cases t <;> decide
  rw [Target.watchdogEnabled, decide_eq_true_iff]
  rintro hnone
  rw [hnone] at hfield
  exact hzero hfield

end LedBench.Chip

namespace LedBench.Bench

open Chip Firmware

/-- The configuration word is the firmware's until one is burned. -/
theorem wordAfter_cases (t : Target) (cmds : List Command) :
    wordAfter t cmds = t.config.value ∨ .burn (wordAfter t cmds) ∈ cmds := by
  induction cmds using List.reverseRecOn with
  | nil => exact .inl rfl
  | append_singleton cmds c ih =>
    rw [wordAfter_concat, List.mem_append, List.mem_singleton]
    cases c with
    | burn word => exact .inr (.inr rfl)
    | _ => exact ih.imp_right .inl

/-- Neither the firmware's word nor one that these commands burn lets the watchdog run. -/
def Disabling (d : Descriptor) (t : Target) (cmds : List Command) : Prop :=
  ¬ d.EnabledBy t.config.value ∧ ∀ word, .burn word ∈ cmds → ¬ d.EnabledBy word

section

variable {d : Descriptor} {t : Target} {cmds : List Command}

theorem Disabling.not_enabledBy (h : Disabling d t cmds) : ¬ d.EnabledBy (wordAfter t cmds) := by
  rcases wordAfter_cases t cmds with hword | hburn
  · rw [hword]
    exact h.1
  · exact h.2 _ hburn

theorem Disabling.not_owes (h : Disabling d t cmds) : ¬ Owes d t cmds := by
  have hprefix : Disabling d t (cmds.rdropWhile Command.isInstant) :=
    ⟨h.1, fun word hburn => h.2 word ((List.rdropWhile_prefix _ _).subset hburn)⟩
  exact fun howes => hprefix.not_enabledBy howes.1

end

namespace Machine

variable {t : Target} {d : Descriptor} {led : PinRef} {size : UInt64} {m : Machine}
  {cmds : List Command} {turns : Nat}

/-- A machine whose watchdog has not run since the boot, and has reset nothing. -/
structure Dormant (t : Target) (d : Descriptor) (led : PinRef) (size : UInt64)
    (cmds : List Command) (m : Machine) : Prop extends Guarded t d led size cmds m where
  disabling : Disabling d t cmds
  resets_eq : m.watchdogResets = 0
  untold : m.bus.journal.events.count (.reset .watchdog) = 0

theorem Dormant.expires_eq (h : m.Dormant t d led size cmds) : m.expires = false := by
  have hdisabled : m.bus.chip.watchdog.enabled = false :=
    h.enabled_eq.trans (decide_eq_false h.disabling.not_enabledBy)
  rw [h.expires_of_disabled hdisabled, decide_eq_false h.disabling.not_owes]

theorem Dormant.exists_perform (hsound : d.Sound size) (h : m.Dormant t d led size cmds)
    {c : Command} (hc : ∀ word, c = .burn word → ¬ d.EnabledBy word)
    (hroom : m.bus.cycles.toNat + m.cost c < UInt64.size) :
    ∃ m', m.perform c = .ok m' ∧ m'.Dormant t d led size (cmds ++ [c]) := by
  obtain ⟨b, hview, hperform⟩ := h.toReady.exists_perform c hroom
  have hheard := h.heard_perform hroom Event.aloof_turn?
  rw [← hview, filterMap_turn?_reports m b] at hheard
  have hcount : (c.turns m (m.after b c)).count (.restart .watchdog) = 0 := by
    rw [turns_after, h.expires_eq]
    cases c <;> rfl
  refine ⟨_, hperform, h.toGuarded.after hsound hroom hview, ⟨h.disabling.1, ?_⟩, ?_, ?_⟩
  · intro word hburn
    rw [List.mem_append, List.mem_singleton] at hburn
    exact hburn.elim (h.disabling.2 word) fun heq => hc word heq.symm
  · cases c with
    | step =>
      rw [after, h.expires_eq, if_neg (by simp)]
      exact h.resets_eq
    | _ => exact h.resets_eq
  · have hbefore := h.untold
    change b.journal.events.filterMap Event.turn? = m.bus.journal.events.filterMap Event.turn? ++ _
      at hheard
    rw [Event.count_reset] at hbefore
    rw [bus_after, Event.count_reset, hheard, List.count_append, hbefore, hcount]

theorem Dormant.exists_run (hsound : d.Sound size) (h : m.Dormant t d led size cmds)
    {more : List Command} (hmore : ∀ word, .burn word ∈ more → ¬ d.EnabledBy word)
    (hfits : m.Fits more) :
    ∃ m', m.run more = .ok m' ∧ m'.Dormant t d led size (cmds ++ more) := by
  refine exists_run_of_commands (P := fun c => ∀ word, c = .burn word → ¬ d.EnabledBy word)
    (I := fun past m => m.Dormant t d led size past) ?_ h ?_ hfits
  · intro past m c hc h hroom
    exact h.exists_perform hsound hc hroom
  · rintro c hc word rfl
    exact hmore word hc

theorem Booted.dormant (hsound : d.Sound size) (h : m.Booted t d led size)
    (hoff : ¬ d.EnabledBy t.config.value) : m.Dormant t d led size [] := by
  refine ⟨h.guarded hsound, ⟨hoff, by simp⟩, h.resets_eq, ?_⟩
  change m.bus.view.events.count (.reset .watchdog) = 0
  have hheard : m.bus.view.heard Event.turn? = [.restart .powerOn] := by
    rw [h.view_eq, (View.inert_heard Event.aloof_turn?).startup]
    rfl
  rw [Event.count_reset, show m.bus.view.events.filterMap Event.turn? = _ from hheard]
  rfl

/-- A machine whose watchdog has been running for so many turns of the loop, since a word was
    burned. -/
structure Armed (t : Target) (d : Descriptor) (led : PinRef) (size : UInt64) (turns : Nat)
    (m : Machine) : Prop extends Ready t d led size m where
  enabled_eq : m.bus.view.clock.watchdog.enabled = true
  requested_eq : m.bus.view.clock.resetRequested = false
  count_eq : m.bus.view.clock.watchdog.count.toNat =
    passCycles d.cyclesPerDelayIteration * turns

/-- The period is over when as many turns have filled it as it takes. -/
theorem Armed.expires_eq (hsound : d.Sound size) (h : m.Armed t d led size turns) :
    m.expires =
      decide (d.exactPeriod ⌈/⌉ passCycles d.cyclesPerDelayIteration ≤ turns + 1) := by
  have hpace := passCycles_pos d.cyclesPerDelayIteration
  have hrequested : m.bus.chip.resetRequested = false := h.requested_eq
  have hdue : m.bus.chip.watchdog.due (passCycles m.bus.cyclesPerNop) = true ↔
      m.bus.view.clock.watchdog.enabled = true ∧ _ := Watchdog.due_iff
  have hcount : m.bus.chip.watchdog.count.toNat = _ := h.count_eq
  have hperiod : m.bus.chip.watchdog.periodCycles.toNat = _ := h.period_eq hsound
  rw [h.enabled_eq, eq_self, true_and, hcount, hperiod, h.cyclesPerNop_eq, ← Nat.mul_succ,
    ← ceilDiv_le_iff_le_mul hpace] at hdue
  rw [expires, hrequested, Bool.false_or, h.cyclesPerNop_eq, Bool.eq_iff_iff, hdue,
    decide_eq_true_iff]

/-- A turn of the loop fills some more of the period, or ends in the reset. -/
theorem Armed.exists_step (h : m.Armed t d led size turns)
    (hroom : m.bus.cycles.toNat + m.cost .step < UInt64.size) :
    ∃ b : Bus, m.perform .step = .ok (m.after b .step) ∧
      (m.expires = false → (m.after b .step).Armed t d led size (turns + 1)) := by
  obtain ⟨b, hview, hperform⟩ := h.toReady.exists_perform .step hroom
  refine ⟨b, hperform, ?_⟩
  intro hexpires
  have hclock : b.view.clock = (m.bus.view.turn t m.passes).clock := by
    rw [hview, view_perform_step h.sound t hroom, hexpires, if_neg (by simp), View.clock_endPass]
  obtain ⟨helapsed, -⟩ :=
    View.elapsed_turn (v := m.bus.view) h.sound.clock t m.passes (room_turn hroom)
  rw [← hclock] at helapsed
  have hdue : m.bus.view.clock.watchdog.due (passCycles m.bus.view.clock.cyclesPerNop) = false := by
    have hboth := hexpires
    rw [expires, Bool.or_eq_false_iff] at hboth
    exact hboth.2
  refine ⟨h.toReady.after hroom hview, ?_, ?_, ?_⟩
  · rw [bus_after, helapsed.enabled_eq, h.enabled_eq]
  · rw [bus_after, helapsed.requested_eq, hdue, h.requested_eq, Bool.or_false]
  · rw [bus_after, helapsed.count_eq hdue h.enabled_eq, h.count_eq, Nat.mul_succ]
    rw [show m.bus.view.clock.cyclesPerNop = _ from h.cyclesPerNop_eq]

/-- Of the turns up to the end of the period the last one ends in a reset, and no other. -/
theorem Armed.exists_run (hsound : d.Sound size) {last : Nat}
    (hlast : d.exactPeriod ⌈/⌉ passCycles d.cyclesPerDelayIteration = last)
    (h : m.Armed t d led size turns) (hlt : turns < last) {n : Nat} (hle : turns + n ≤ last)
    (hfits : m.Fits (List.replicate n .step)) :
    ∃ m', m.run (List.replicate n .step) = .ok m' ∧
      m'.watchdogResets.toNat = m.watchdogResets.toNat + (if turns + n = last then 1 else 0) ∧
      m.turns (List.replicate n .step) =
        List.replicate n .pass ++ if turns + n = last then [.restart .watchdog] else [] := by
  induction n generalizing m turns with
  | zero =>
    rw [Nat.add_zero, if_neg (Nat.ne_of_lt hlt), if_neg (Nat.ne_of_lt hlt)]
    exact ⟨m, rfl, rfl, rfl⟩
  | succ n ih =>
    obtain ⟨hroom, hrest⟩ := hfits
    obtain ⟨b, hperform, harmed⟩ := h.exists_step hroom
    obtain ⟨-, hresets⟩ := h.sound.counters_after hroom b
    have hturns := m.turns_after b .step
    have hexpires := h.expires_eq hsound
    rw [hlast] at hexpires
    rw [List.replicate_succ, run, Machine.turns, hperform]
    by_cases hend : last ≤ turns + 1
    · obtain rfl : n = 0 := by omega
      have hnow : turns + (0 + 1) = last := Nat.le_antisymm hle hend
      rw [decide_eq_true hend] at hexpires
      rw [hexpires] at hturns
      rw [hturns] at hresets
      refine ⟨m.after b .step, rfl, ?_, ?_⟩
      · rw [hresets, if_pos hnow]
        rfl
      · dsimp only at hturns ⊢
        rw [hturns, if_pos hnow]
        rfl
    · rw [decide_eq_false hend] at hexpires
      rw [hexpires] at hturns
      rw [hturns] at hresets
      have hnext : turns + (n + 1) = turns + 1 + n := by omega
      obtain ⟨m', hrun, hresets', hturns'⟩ := ih (harmed hexpires) (by omega) (by omega)
        (hrest _ hperform)
      refine ⟨m', hrun, ?_, ?_⟩
      · rw [hresets', hresets, hnext]
        rfl
      · dsimp only at hturns ⊢
        rw [hturns, hturns', hnext]
        rfl

/-- A word under which the watchdog runs starts its period when it is burned. -/
theorem Dormant.armed (hsound : d.Sound size) (h : m.Dormant t d led size cmds) {word : UInt16}
    (hword : d.EnabledBy word) {b : Bus} (hview : b.view = m.bus.view.burn word) :
    (m.after b (.burn word)).Armed t d led size 0 := by
  have hrequested : m.bus.view.clock.resetRequested = false :=
    h.requested_eq.trans (decide_eq_false h.disabling.not_owes)
  have hready : (m.after b (.burn word)).Ready t d led size :=
    h.toReady.after m.bus.cycles.toNat_lt hview
  refine ⟨hready, ?_, ?_, ?_⟩
  · rw [bus_after, hview]
    exact (h.enabled_configure hsound word).trans (decide_eq_true hword)
  · rw [bus_after, hview]
    exact hrequested
  · rw [bus_after, hview]
    rfl

theorem Dormant.exists_run_burn (hsound : d.Sound size) (h : m.Dormant t d led size cmds)
    {word : UInt16} (hword : d.EnabledBy word) {last : Nat}
    (hlast : d.exactPeriod ⌈/⌉ passCycles d.cyclesPerDelayIteration = last) {n : Nat}
    (hle : n ≤ last) (hfits : m.Fits (.burn word :: List.replicate n .step)) :
    ∃ m', m.run (.burn word :: List.replicate n .step) = .ok m' ∧
      m'.watchdogResets.toNat = (if n = last then 1 else 0) ∧
      m.turns (.burn word :: List.replicate n .step) =
        List.replicate n .pass ++ if n = last then [.restart .watchdog] else [] := by
  obtain ⟨hroom, hrest⟩ := hfits
  obtain ⟨b, hview, hperform⟩ := h.toReady.exists_perform (.burn word) hroom
  have hpos : 0 < last := by
    rw [← hlast, ← Nat.not_le, ceilDiv_le_iff_le_mul (passCycles_pos _), Nat.mul_zero, Nat.le_zero]
    exact hword.2
  obtain ⟨m', hrun, hresets, hturns⟩ := (h.armed hsound hword hview).exists_run hsound hlast hpos
    (by rwa [Nat.zero_add]) (hrest _ hperform)
  rw [Nat.zero_add] at hresets hturns
  have hnone : (m.after b (.burn word)).watchdogResets = 0 := h.resets_eq
  rw [hnone, UInt64.toNat_zero, Nat.zero_add] at hresets
  rw [run, Machine.turns, hperform]
  exact ⟨m', hrun, hresets, hturns⟩

/-- On the built-in chips no command of a run makes the watchdog reset anything as long as only
    words are burned that the firmware reads as forcing it off. A word that the chip reads as
    switching it on, which the firmware never reads as forcing it off, starts the period when it is
    burned, and of the turns of the loop that follow the one in which the period ends is the first
    to end in a reset. -/
theorem watchdogResets_of_decoder {t : Target} {led : PinRef} {m : Machine}
    (hboot : powerUp t (.ofTarget t) led = .ok m) {cmds : List Command}
    (hoff : ∀ word, .burn word ∈ cmds → t.watchdogEnabled word = false) (hfits : m.Fits cmds) :
    ∃ m', m.run cmds = .ok m' ∧ m'.watchdogResets = 0 ∧
      .reset .watchdog ∉ m'.bus.journal.events ∧
      ∀ word, (Descriptor.ofTarget t).watchdog.isEnabled word = true →
        t.watchdogEnabled word = true ∧
        ∀ last, (Descriptor.ofTarget t).periodCycles.toNat ⌈/⌉ (3002 : Nat) = last →
          ∀ n ≤ last, m'.Fits (.burn word :: List.replicate n .step) →
            ∃ m'', m'.run (.burn word :: List.replicate n .step) = .ok m'' ∧
              m''.watchdogResets.toNat = (if n = last then 1 else 0) ∧
              m'.turns (.burn word :: List.replicate n .step) =
                List.replicate n .pass ++ if n = last then [.restart .watchdog] else [] := by
  have hcheck : (Descriptor.ofTarget t).check = .ok () := by cases t <;> rfl
  have hperiod : (Descriptor.ofTarget t).exactPeriod ≠ 0 := by cases t <;> decide
  have hpace : passCycles (Descriptor.ofTarget t).cyclesPerDelayIteration = 3002 := by
    cases t <;> rfl
  have hdisabled : ∀ word, t.watchdogEnabled word = false →
      ¬ (Descriptor.ofTarget t).EnabledBy word := by
    intro word hword henabled
    rw [Descriptor.watchdogEnabled_of_isEnabled henabled.1] at hword
    cases hword
  obtain ⟨size, hsound, hbooted⟩ := booted_of_powerUp hcheck hboot
  have hdormant := hbooted.dormant hsound (hdisabled _ t.watchdogEnabled_config)
  obtain ⟨m', hrun, hdormant'⟩ := hdormant.exists_run hsound
    (fun word hburn => hdisabled word (hoff word hburn)) hfits
  refine ⟨m', hrun, hdormant'.resets_eq, List.count_eq_zero.mp hdormant'.untold, ?_⟩
  intro word hword
  refine ⟨Descriptor.watchdogEnabled_of_isEnabled hword, ?_⟩
  intro last hlast n hle hfits'
  have hexact : (Descriptor.ofTarget t).exactPeriod ⌈/⌉
      passCycles (Descriptor.ofTarget t).cyclesPerDelayIteration = last := by
    rw [hpace, ← hlast, hsound.periodCycles_toNat]
    rfl
  exact hdormant'.exists_run_burn hsound ⟨hword, hperiod⟩ hexact hle hfits'

/-- The older part's period of 18000 cycles ends in the sixth turn after the burn. -/
theorem watchdogResets_of_decoder_pic16f628a :
    ∃ m m' m'', powerUp .pic16f628a (.ofTarget .pic16f628a) ⟨"portb", 0⟩ = .ok m ∧
      m.run [.step, .burn 0x3FFB, .reset, .step] = .ok m' ∧ m'.watchdogResets = 0 ∧
      m'.run (.burn 0x3FFF :: List.replicate 6 .step) = .ok m'' ∧
      m''.watchdogResets.toNat = 1 ∧
      m'.turns (.burn 0x3FFF :: List.replicate 6 .step) =
        List.replicate 6 .pass ++ [.restart .watchdog] := by
  have hbooted : ∃ m, powerUp .pic16f628a (.ofTarget .pic16f628a) ⟨"portb", 0⟩ = .ok m :=
    exists_powerUp (by decide +kernel)
  obtain ⟨m, hboot⟩ := hbooted
  obtain ⟨size, -, hready⟩ := booted_of_powerUp rfl hboot
  have hfits : m.Fits ([.step, .burn 0x3FFB, .reset, .step] ++
      .burn 0x3FFF :: List.replicate 6 .step) := hready.fits (by decide)
  obtain ⟨hfirst, hlast⟩ := hfits.of_append
  have hoff : ∀ word, .burn word ∈ [Command.step, .burn 0x3FFB, .reset, .step] →
      Target.pic16f628a.watchdogEnabled word = false := by
    intro word hburned
    obtain rfl : word = 0x3FFB := by simpa using hburned
    decide
  obtain ⟨m', hrun, hnone, -, hburn⟩ := watchdogResets_of_decoder hboot hoff hfirst
  obtain ⟨m'', hrun', hresets, hturns⟩ :=
    (hburn 0x3FFF (by decide)).2 6 (by decide) 6 (by decide) (hlast m' hrun)
  exact ⟨m, m', m'', hboot, hrun, hnone, hrun', hresets, hturns⟩

end Machine

end LedBench.Bench
