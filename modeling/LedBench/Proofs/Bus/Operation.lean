import LedBench.Proofs.Bus.Build

namespace LedBench.Bench

open Chip Firmware

/-- An operation of a bus that changes it: the program's own accesses, and those of its owner. -/
inductive BusOp where
  | read (addr : UInt16)
  | write (addr : UInt16) (value : UInt8)
  | nop
  | poke (addr : UInt16) (value : UInt8)
  | reset (cause : ResetCause)
  | burn (word : UInt16)
  | takeFault
  | takeResetRequest
  deriving DecidableEq, Repr

/-- Carries out an operation. A poke where nothing answers changes nothing. -/
def BusOp.run (b : Bus) : BusOp → Except Bus Bus
  | .read addr => (b.read addr).map (·.2)
  | .write addr value => b.write addr value
  | .nop => b.nop
  | .poke addr value => .ok ((b.poke? addr value).getD b)
  | .reset cause => .ok (b.reset cause)
  | .burn word => .ok (b.burn word)
  | .takeFault => .ok b.takeFault.2
  | .takeResetRequest => .ok b.takeResetRequest.2

/-- The cycles of an operation: one for each access by the program. -/
def BusOp.cycles (cyclesPerNop : UInt64) : BusOp → Nat
  | .read _ => 1
  | .write _ _ => 1
  | .nop => cyclesPerNop.toNat
  | _ => 0

namespace View

/-- The view after an operation for which the cycle counter has room. -/
def operate (v : View) : BusOp → View
  | .read addr => v.read addr
  | .write addr value => v.write addr value
  | .nop => v.delay 1
  | .poke addr value => (v.poke? addr value).getD v
  | .reset cause => v.reset cause
  | .burn word => v.burn word
  | .takeFault => v.settle
  | .takeResetRequest => v.release

variable {v : View}

/-- A poke changes nothing that no access changes. -/
theorem Inert.operate_poke {α : Type} {f : View → α} (h : Inert f) (v : View) (addr : UInt16)
    (value : UInt8) : f (v.operate (.poke addr value)) = f v := by
  rw [operate]
  cases hpoke : v.poke? addr value with
  | none => rfl
  | some w => exact h.poke hpoke

theorem build_operate (v : View) (op : BusOp) : (v.operate op).build = v.build := by
  cases op with
  | read addr => exact inert_build.read v addr
  | write addr value => exact build_write v addr value
  | nop => exact build_delay v 1
  | poke addr value => exact inert_build.operate_poke v addr value
  | reset cause => exact build_reset v cause
  | burn word => rfl
  | takeFault => rfl
  | takeResetRequest => rfl

/-- A poke takes no time. -/
theorem clock_operate_poke (v : View) (addr : UInt16) (value : UInt8) :
    (v.operate (.poke addr value)).clock = v.clock := by
  rw [operate, poke?]
  cases v.contents.store? addr value <;> rfl

/-- An operation takes its cycles and leaves sound counters. -/
theorem clock_operate (hsound : v.clock.Sound) (op : BusOp)
    (hroom : v.clock.cycles.toNat + op.cycles v.clock.cyclesPerNop < UInt64.size) :
    (v.operate op).clock.Sound ∧
      (v.operate op).clock.cycles.toNat =
        v.clock.cycles.toNat + op.cycles v.clock.cyclesPerNop := by
  cases op with
  | read addr =>
    obtain ⟨helapsed, hsound'⟩ := Clock.elapsed_access hsound hroom
    rw [operate, clock_read]
    exact ⟨hsound', helapsed.cycles_eq⟩
  | write addr value =>
    obtain ⟨helapsed, hsound'⟩ := Clock.elapsed_access hsound hroom
    rw [operate, clock_write]
    exact ⟨hsound', helapsed.cycles_eq⟩
  | nop => exact ⟨hsound.nop hroom, (Clock.elapsed_nop hsound hroom).cycles_eq⟩
  | poke addr value =>
    rw [clock_operate_poke]
    exact ⟨hsound, rfl⟩
  | reset cause => exact ⟨hsound.reset, rfl⟩
  | burn word => exact ⟨hsound.burn word, rfl⟩
  | takeFault => exact ⟨hsound, rfl⟩
  | takeResetRequest => exact ⟨hsound.release, rfl⟩

end View

private theorem takes_instant {b b' : Bus} {post : Bus → Prop} (h : post b') :
    b.Takes 0 post (.ok b') :=
  ⟨b.cycles.toNat_lt, h⟩

/-- Every operation is the function of the view that bears its name. -/
theorem BusOp.run_takes {b : Bus} (hsound : b.clock.Sound) (op : BusOp) :
    b.Takes (op.cycles b.cyclesPerNop) (fun b' => b'.view = b.view.operate op) (op.run b) := by
  cases op with
  | read addr =>
    have hread := Bus.read_takes hsound addr
    rw [run]
    cases h : b.read addr with
    | error b' =>
      rw [h] at hread
      exact hread
    | ok r =>
      rw [h] at hread
      exact ⟨hread.1, hread.2.2⟩
  | write addr value => exact Bus.write_takes hsound addr value
  | nop => exact Bus.nop_takes hsound
  | poke addr value =>
    refine takes_instant ?_
    rw [View.operate, ← Bus.view_poke?]
    cases b.poke? addr value <;> rfl
  | reset cause => exact takes_instant (Bus.view_reset b cause)
  | burn word => exact takes_instant (Bus.view_burn b word)
  | takeFault => exact takes_instant (Bus.view_takeFault b)
  | takeResetRequest => exact takes_instant (Bus.view_takeResetRequest b)

/-- What every operation of a bus keeps. -/
structure Bus.Continues (b b' : Bus) : Prop where
  sound : b'.clock.Sound
  build_eq : b'.view.build = b.view.build
  cycles_le : b.cycles.toNat ≤ b'.cycles.toNat

theorem Bus.Continues.of_elapsed {b b' : Bus} {cycles : Nat} (hsound : b'.clock.Sound)
    (hbuild : b'.view.build = b.view.build) (h : Clock.Elapsed b.clock b'.clock cycles) :
    b.Continues b' :=
  ⟨hsound, hbuild, by
    have hcycles : b'.cycles.toNat = b.cycles.toNat + cycles := h.cycles_eq
    omega⟩

theorem BusOp.continues {b b' : Bus} (hsound : b.clock.Sound) {op : BusOp}
    (hrun : op.run b = .ok b') : b.Continues b' := by
  have htakes := op.run_takes hsound
  rw [hrun] at htakes
  obtain ⟨hroom, hview⟩ := htakes
  obtain ⟨hsound', hcycles⟩ := View.clock_operate (v := b.view) hsound op hroom
  rw [← hview] at hsound' hcycles
  refine ⟨hsound', by rw [hview, View.build_operate], ?_⟩
  change b.view.clock.cycles.toNat ≤ b'.view.clock.cycles.toNat
  omega

end LedBench.Bench
