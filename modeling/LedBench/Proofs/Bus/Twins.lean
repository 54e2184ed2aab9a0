import LedBench.Proofs.Bus.PinChanges
import LedBench.Proofs.Machine.Reports

namespace LedBench.Bench

open Firmware

namespace Watchdog

/-- A tick that counts at all counts without a wrap. -/
theorem tick?_eq_some {w : Watchdog} {cycles : UInt64} {r : Bool × Watchdog}
    (h : w.tick? cycles = some r) : r = (w.due cycles.toNat, w.lapse cycles) := by
  cases henabled : w.enabled with
  | false =>
    rw [tick?_of_disabled henabled] at h
    rw [due_of_disabled henabled, lapse_of_disabled henabled]
    exact (Option.some.inj h).symm
  | true =>
    have hroom : w.count.toNat + cycles.toNat < UInt64.size := by
      by_contra hfull
      simp [tick?, henabled, Counter.add?, hfull] at h
    rw [tick?_eq_lapse w cycles hroom] at h
    exact (Option.some.inj h).symm

end Watchdog

namespace View

/-- The changes of a pin so far came in the order of their cycles, the present one not before
    them. -/
structure InOrder (pin : PinRef) (v : View) : Prop where
  ordered : ((v.events.filterMap (Event.change? pin)).map (·.2)).Pairwise (· ≤ ·)
  past : ∀ change ∈ v.events.filterMap (Event.change? pin), change.2 ≤ v.clock.cycles

variable {pin : PinRef} {v w : View}

/-- What is told at the present cycle keeps the order, and so does what tells of no pin. -/
theorem InOrder.append (h : v.InOrder pin) {told : List Event}
    (hevents : w.events = v.events ++ told)
    (hnow : ∀ change ∈ told.filterMap (Event.change? pin), change.2 = w.clock.cycles)
    (hle : v.clock.cycles ≤ w.clock.cycles) : w.InOrder pin := by
  have hpast : ∀ change ∈ v.events.filterMap (Event.change? pin), change.2 ≤ w.clock.cycles :=
    fun change hchange => UInt64.le_trans (h.past change hchange) hle
  refine ⟨?_, ?_⟩
  · rw [hevents, List.filterMap_append, List.map_append, List.pairwise_append]
    refine ⟨h.ordered, ?_, ?_⟩
    · rw [List.pairwise_map]
      refine List.pairwise_of_forall_mem_list fun a ha b hb => ?_
      rw [hnow a ha, hnow b hb]
      exact UInt64.le_refl _
    · simp only [List.forall_mem_map]
      intro a ha b hb
      rw [hnow b hb]
      exact hpast a ha
  · rw [hevents, List.filterMap_append, List.forall_mem_append]
    exact ⟨hpast, fun change hchange => UInt64.le_of_eq (hnow change hchange)⟩

theorem InOrder.emit (h : v.InOrder pin) {e : Event} (he : e.change? pin = none) :
    (v.emit e).InOrder pin :=
  h.append rfl (by simp [he]) (UInt64.le_refl _)

theorem InOrder.tells (h : v.InOrder pin) (htells : v.Tells w)
    (hle : v.clock.cycles ≤ w.clock.cycles) : w.InOrder pin := by
  obtain ⟨write?, hevents⟩ := htells
  rw [List.append_assoc] at hevents
  refine h.append hevents ?_ hle
  intro change hchange
  obtain ⟨e, he, hfound⟩ := List.mem_filterMap.mp hchange
  rcases List.mem_append.mp he with hwrite | hpin
  · cases write? <;> simp_all [Event.change?]
  · obtain ⟨port, bit, level, rfl⟩ := Contents.exists_pin_of_mem hpin
    rw [Event.change?, Option.ite_none_right_eq_some] at hfound
    rw [← Option.some.inj hfound.2]

end View

namespace Bus

/-- A bus that came from another one in so many cycles, with this view. -/
structure Moved (b : Bus) (cycles : Nat) (v : View) (b' : Bus) : Prop where
  view_eq : b'.view = v
  cycles_eq : b'.cycles.toNat = b.cycles.toNat + cycles
  inOrder : ∀ pin, b.view.InOrder pin → b'.view.InOrder pin

/-- The outcomes of one operation on two buses: both trap, or both have a result. -/
def Twins {α : Type} (post : α → α → Prop) (r r' : Except Bus α) : Prop :=
  (∃ a a', r = .ok a ∧ r' = .ok a' ∧ post a a') ∨ ∃ e e', r = .error e ∧ r' = .error e'

variable {b b' : Bus}

theorem Moved.of_tells {b₁ : Bus} {v : View} {cycles : Nat} (hview : b₁.view = v)
    (hcycles : b₁.cycles.toNat = b.cycles.toNat + cycles) (htells : b.view.Tells v) :
    b.Moved cycles v b₁ := by
  refine ⟨hview, hcycles, fun pin h => h.tells (hview ▸ htells) ?_⟩
  rw [UInt64.le_iff_toNat_le]
  change b.cycles.toNat ≤ b₁.cycles.toNat
  omega

theorem Moved.trans {b₁ b₂ : Bus} {v w : View} {first second : Nat} (h : b.Moved first v b₁)
    (h' : b₁.Moved second w b₂) : b.Moved (first + second) w b₂ where
  view_eq := h'.view_eq
  cycles_eq := by rw [h'.cycles_eq, h.cycles_eq, Nat.add_assoc]
  inOrder pin hpin := h'.inOrder pin (h.inOrder pin hpin)

/-- What else happens at the end of the time that went by. -/
theorem Moved.then {b₁ b₂ : Bus} {v w : View} {cycles : Nat} (h : b.Moved cycles v b₁)
    (hview : b₂.view = w) (hclock : w.clock = v.clock) (htells : b.view.Tells w) :
    b.Moved cycles w b₂ := by
  refine .of_tells hview ?_ htells
  rw [← h.cycles_eq, cycles_eq_of_view hview, hclock, ← h.view_eq]
  rfl

theorem advance_twins (h : b'.view = b.view) (cycles : UInt64) :
    Twins (fun a a' => b.Moved cycles.toNat (b.view.lapse cycles) a ∧ a'.view = a.view)
      (b.advance cycles) (b'.advance cycles) := by
  have hcycles : b'.cycles = b.cycles := cycles_eq_of_view h
  have hwatchdog : b'.chip.watchdog = b.chip.watchdog := congrArg (·.clock.watchdog) h
  unfold advance
  rw [hcycles, hwatchdog]
  cases htotal : Counter.add? b.cycles cycles with
  | none => exact .inr ⟨_, _, rfl, rfl⟩
  | some total =>
    cases htick : b.chip.watchdog.tick? cycles with
    | none => exact .inr ⟨_, _, rfl, rfl⟩
    | some r =>
      obtain rfl := Watchdog.tick?_eq_some htick
      have hsum := Counter.add?_eq_some.mp htotal
      have hview : ∀ a : Bus, a.view = b.view → ({ a with
          cycles := total
          chip := { a.chip with
            watchdog := b.chip.watchdog.lapse cycles
            resetRequested := a.chip.resetRequested || b.chip.watchdog.due cycles.toNat } :
              Bus }).view = b.view.lapse cycles := by
        intro a ha
        rw [Counter.eq_add_of_add? htotal, ← ha,
          show b.cycles = a.cycles from (cycles_eq_of_view ha).symm,
          show b.chip.watchdog = a.chip.watchdog from congrArg (·.clock.watchdog) ha.symm]
        rfl
      refine .inl ⟨_, _, rfl, rfl, .of_tells (hview b rfl) hsum ?_, ?_⟩
      · exact View.tells_of_contents_eq rfl rfl
      · rw [hview b rfl, hview b' h]

theorem read_twins (h : b'.view = b.view) (addr : UInt16) :
    Twins (fun a a' => b.Moved 1 (b.view.read addr) a.2 ∧ a'.2.view = a.2.view ∧
        a.1 = b.view.load addr ∧ a'.1 = a.1)
      (b.read addr) (b'.read addr) := by
  unfold read
  rcases advance_twins h 1 with ⟨a, a', ha, ha', hmoved, htwin⟩ | ⟨e, e', he, he'⟩
  · have hload : ∀ c : Bus, c.view = a.view → c.peek? addr = b.view.contents.load? addr := by
      intro c hc
      rw [peek?_eq_load?, contents_eq_of_view hc, hmoved.view_eq]
      rfl
    have hmaps : (b.view.contents.load? addr).isSome = true ↔ b.view.contents.decoding.Maps addr :=
      Contents.load?_isSome_iff
    have hmoved' : ∀ c : Bus, c.view = b.view.read addr → b.Moved 1 (b.view.read addr) c :=
      fun c hc => hmoved.then hc (View.clock_read b.view addr) (View.tells_operate _ (.read addr))
    simp only [ha, ha', hload a rfl, hload a' htwin]
    cases hbyte : b.view.contents.load? addr with
    | some value =>
      rw [hbyte] at hmaps
      refine .inl ⟨_, _, rfl, rfl, hmoved' a ?_, htwin, by simp [View.load, hbyte], rfl⟩
      rw [View.read, if_pos (hmaps.mp rfl), hmoved.view_eq]
    | none =>
      rw [hbyte] at hmaps
      refine .inl ⟨_, _, rfl, rfl, hmoved' _ ?_, ?_, by simp [View.load, hbyte], rfl⟩
      · rw [View.read, if_neg (by simpa using hmaps), view_latch, hmoved.view_eq]
      · rw [view_latch, view_latch, htwin]
  · simp only [he, he']
    exact .inr ⟨_, _, rfl, rfl⟩

theorem write_twins (h : b'.view = b.view) (addr : UInt16) (value : UInt8) :
    Twins (fun a a' => b.Moved 1 (b.view.write addr value) a ∧ a'.view = a.view)
      (b.write addr value) (b'.write addr value) := by
  unfold write
  rcases advance_twins h 1 with ⟨a, a', ha, ha', hmoved, htwin⟩ | ⟨e, e', he, he'⟩
  · have hmoved' : ∀ c : Bus, c.view = b.view.write addr value →
        b.Moved 1 (b.view.write addr value) c :=
      fun c hc => hmoved.then hc (View.clock_write b.view addr value) (View.tells_write ..)
    have hpoke := view_poke? a addr value
    have hpoke' := view_poke? a' addr value
    rw [hmoved.view_eq] at hpoke
    rw [htwin, hmoved.view_eq] at hpoke'
    simp only [ha, ha']
    cases hstored : (b.view.lapse 1).poke? addr value with
    | some v =>
      obtain ⟨c, hc, hview⟩ := Option.map_eq_some_iff.mp (hpoke.trans hstored)
      obtain ⟨c', hc', hview'⟩ := Option.map_eq_some_iff.mp (hpoke'.trans hstored)
      simp only [hc, hc']
      refine .inl ⟨_, _, rfl, rfl, hmoved' c ?_, hview'.trans hview.symm⟩
      rw [hview, View.write, hstored, Option.getD_some]
    | none =>
      simp only [Option.map_eq_none_iff.mp (hpoke.trans hstored),
        Option.map_eq_none_iff.mp (hpoke'.trans hstored)]
      refine .inl ⟨_, _, rfl, rfl, hmoved' _ ?_, by rw [view_latch, view_latch, htwin]⟩
      rw [View.write, hstored, Option.getD_none, view_latch, hmoved.view_eq]
  · simp only [he, he']
    exact .inr ⟨_, _, rfl, rfl⟩

theorem modify_twins (h : b'.view = b.view) (addr : UInt16) (f : UInt8 → UInt8) :
    Twins (fun a a' => b.Moved 2 (b.view.modify addr f) a ∧ a'.view = a.view)
      (Hardware.modify b addr f) (Hardware.modify b' addr f) := by
  have hread : ∀ c : Bus, Hardware.read c addr = c.read addr := fun _ => rfl
  rw [Hardware.modify, Hardware.modify, hread, hread]
  rcases read_twins h addr with ⟨⟨x, a⟩, ⟨x', a'⟩, ha, ha', hmoved, htwin, hx, hx'⟩ |
    ⟨e, e', he, he'⟩
  · dsimp only at hmoved htwin hx hx'
    subst hx' hx
    rw [ha, ha']
    rcases write_twins htwin addr (f (b.view.load addr)) with
      ⟨c, c', hc, hc', hmoved', htwin'⟩ | ⟨e, e', he, he'⟩
    · rw [hmoved.view_eq] at hmoved'
      exact .inl ⟨c, c', hc, hc', hmoved.trans hmoved', htwin'⟩
    · exact .inr ⟨e, e', he, he'⟩
  · rw [he, he']
    exact .inr ⟨_, _, rfl, rfl⟩

theorem nop_twins (h : b'.view = b.view) :
    Twins (fun a a' => b.Moved b.cyclesPerNop.toNat (b.view.delay 1) a ∧ a'.view = a.view)
      b.nop b'.nop := by
  have hnops : b'.nops = b.nops := congrArg (·.clock.nops) h
  have hpace : b'.cyclesPerNop = b.cyclesPerNop := congrArg (·.clock.cyclesPerNop) h
  unfold nop
  rw [hnops]
  cases hcounted : Counter.add? b.nops 1 with
  | none => exact .inr ⟨_, _, rfl, rfl⟩
  | some nops =>
    have hcounting : ∀ c : Bus, ({ c with nops } : Bus).view =
        { c.view with clock := { c.view.clock with nops } } := fun _ => rfl
    have hadvance := congrArg ({ b' with nops } : Bus).advance hpace
    have hviews : ({ b' with nops } : Bus).view = ({ b with nops } : Bus).view := by
      rw [hcounting, hcounting, h]
    rcases advance_twins hviews b.cyclesPerNop with
      ⟨a, a', ha, ha', hmoved, htwin⟩ | ⟨e, e', he, he'⟩
    · refine .inl ⟨a, a', ha, hadvance.trans ha', .of_tells ?_ hmoved.cycles_eq ?_, htwin⟩
      · rw [hmoved.view_eq, Counter.eq_add_of_add? hcounted]
        rfl
      · exact View.tells_operate b.view .nop
    · exact .inr ⟨e, e', he, hadvance.trans he'⟩

theorem delay_twins (h : b'.view = b.view) (count : Nat) :
    Twins (fun a a' => b.Moved (count * b.cyclesPerNop.toNat) (b.view.delay count) a ∧
        a'.view = a.view)
      (Hardware.delay count b) (Hardware.delay count b') := by
  induction count generalizing b b' with
  | zero => exact .inl ⟨b, b', rfl, rfl, ⟨rfl, by simp, fun _ => id⟩, h⟩
  | succ count ih =>
    have hnop : ∀ c : Bus, Hardware.nop c = c.nop := fun _ => rfl
    rw [Hardware.delay, Hardware.delay, hnop, hnop]
    rcases nop_twins h with ⟨a, a', ha, ha', hmoved, htwin⟩ | ⟨e, e', he, he'⟩
    · rw [ha, ha']
      have hpace : a.cyclesPerNop = b.cyclesPerNop :=
        congrArg (·.clock.cyclesPerNop) hmoved.view_eq
      rcases ih htwin with ⟨c, c', hc, hc', hmoved', htwin'⟩ | ⟨e, e', he, he'⟩
      · rw [hpace, hmoved.view_eq] at hmoved'
        rw [Nat.succ_mul, Nat.add_comm]
        exact .inl ⟨c, c', hc, hc', hmoved.trans hmoved', htwin'⟩
      · exact .inr ⟨e, e', he, he'⟩
    · rw [he, he']
      exact .inr ⟨_, _, rfl, rfl⟩

theorem run_twins (h : b'.view = b.view) (i : Instr) :
    Twins (fun a a' => b.Moved i.cycles (b.view.exec i) a ∧ a'.view = a.view)
      (i.run b) (i.run b') := by
  cases i with
  | write addr value => exact write_twins h addr value
  | setBits addr mask => exact modify_twins h addr (· ||| mask)

theorem runAll_twins (h : b'.view = b.view) (instrs : List Instr) :
    Twins (fun a a' => b.Moved (instrs.map Instr.cycles).sum (instrs.foldl View.exec b.view) a ∧
        a'.view = a.view)
      (runAll instrs b) (runAll instrs b') := by
  induction instrs generalizing b b' with
  | nil => exact .inl ⟨b, b', rfl, rfl, ⟨rfl, rfl, fun _ => id⟩, h⟩
  | cons i rest ih =>
    rw [runAll, runAll]
    rcases run_twins h i with ⟨a, a', ha, ha', hmoved, htwin⟩ | ⟨e, e', he, he'⟩
    · rw [ha, ha']
      rcases ih htwin with ⟨c, c', hc, hc', hmoved', htwin'⟩ | ⟨e, e', he, he'⟩
      · rw [hmoved.view_eq] at hmoved'
        exact .inl ⟨c, c', hc, hc', hmoved.trans hmoved', htwin'⟩
      · exact .inr ⟨e, e', he, he'⟩
    · rw [he, he']
      exact .inr ⟨_, _, rfl, rfl⟩

/-- The initializer on both. -/
theorem start_twins (h : b'.view = b.view) (t : Target) :
    (∃ p p', Blinker.start t b = .ok p ∧ Blinker.start t b' = .ok p' ∧
        b.Moved t.startupCycles (b.view.startup t) p.hardware ∧
        p'.hardware.view = p.hardware.view ∧ p.level = true ∧ p'.level = true) ∨
      ∃ e e', Blinker.start t b = .error e ∧ Blinker.start t b' = .error e' := by
  unfold Blinker.start
  rcases runAll_twins h t.startup with ⟨a, a', ha, ha', hmoved, htwin⟩ | ⟨e, e', he, he'⟩
  · rw [t.sum_cycles_startup] at hmoved
    rw [ha, ha']
    exact .inl ⟨_, _, rfl, rfl, hmoved, htwin, rfl, rfl⟩
  · rw [he, he']
    exact .inr ⟨_, _, rfl, rfl⟩

/-- A turn of the loop on both. -/
theorem pass_twins {p p' : Blinker Bus} (h : p'.hardware.view = p.hardware.view)
    (hlevel : p'.level = p.level) (t : Target) :
    (∃ q q', p.pass t = .ok q ∧ p'.pass t = .ok q' ∧
        p.hardware.Moved (passCycles p.hardware.cyclesPerNop) (p.hardware.view.pass t) q.hardware ∧
        q'.hardware.view = q.hardware.view ∧ q'.level = q.level) ∨
      ∃ e e', p.pass t = .error e ∧ p'.pass t = .error e' := by
  unfold Blinker.pass Blinker.toggle Hardware.toggleBits
  rcases modify_twins h t.led.port (· ^^^ t.ledMask) with
    ⟨a, a', ha, ha', hmoved, htwin⟩ | ⟨e, e', he, he'⟩
  · rw [ha, ha']
    dsimp only
    have hpace : a.cyclesPerNop = p.hardware.cyclesPerNop := by
      have hbuild := congrArg View.build hmoved.view_eq
      rw [View.build_modify] at hbuild
      exact congrArg Build.cyclesPerNop hbuild
    rcases delay_twins htwin blinkDelay with ⟨c, c', hc, hc', hmoved', htwin'⟩ | ⟨e, e', he, he'⟩
    · rw [hmoved.view_eq, hpace] at hmoved'
      rw [hc, hc', hlevel]
      exact .inl ⟨_, _, rfl, rfl, hmoved.trans hmoved', htwin', rfl⟩
    · rw [he, he']
      exact .inr ⟨_, _, rfl, rfl⟩
  · rw [he, he']
    exact .inr ⟨_, _, rfl, rfl⟩

end Bus

end LedBench.Bench
