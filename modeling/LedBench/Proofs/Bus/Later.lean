import LedBench.Proofs.Bus.Program

namespace LedBench.Bench

open Firmware

/-- How much later: the cycles, the no-ops and the turns of the loop in between. -/
structure Lag where
  cycles : UInt64
  nops : UInt64
  passes : UInt64

/-- The same event at a later time. -/
def Event.later (g : Lag) : Event → Event
  | .passStart pass => .passStart (pass + g.passes)
  | .pin port bit level cycle => .pin port bit level (cycle + g.cycles)
  | e => e

theorem Event.later_zero : Event.later ⟨0, 0, 0⟩ = id := by
  funext e
  cases e <;> simp [later]

theorem Contents.map_later_pinEvents (g : Lag) (before after : Contents) (cycle : UInt64) :
    (before.pinEvents after cycle).map (Event.later g) =
      before.pinEvents after (cycle + g.cycles) := by
  simp [pinEvents, List.map_flatMap, Event.later, Function.comp_def]

private theorem add_right_comm_uint64 (a b c : UInt64) : a + b + c = a + c + b := by
  rw [UInt64.add_assoc, UInt64.add_comm b, UInt64.add_assoc]

namespace Clock

def later (g : Lag) (k : Clock) : Clock :=
  { k with cycles := k.cycles + g.cycles, nops := k.nops + g.nops }

theorem lapse_later (g : Lag) (k : Clock) (cycles : UInt64) :
    (k.later g).lapse cycles = (k.lapse cycles).later g := by
  simp only [later, lapse, add_right_comm_uint64 _ g.cycles]

theorem nop_later (g : Lag) (k : Clock) : (k.later g).nop = k.nop.later g := by
  simp only [later, nop, lapse, add_right_comm_uint64 _ g.cycles, add_right_comm_uint64 _ g.nops]

theorem delay_later (g : Lag) (k : Clock) (count : Nat) :
    (k.later g).delay count = (k.delay count).later g := by
  induction count generalizing k with
  | zero => rfl
  | succ count ih => rw [delay, nop_later, ih, delay]

end Clock

namespace View

/-- The same view at a later time, after another past. -/
def later (g : Lag) (past : List Event) (v : View) : View :=
  { v with clock := v.clock.later g, events := past ++ v.events.map (Event.later g) }

variable (g : Lag) (past : List Event) (v : View)

theorem emit_later (e : Event) :
    (v.later g past).emit (e.later g) = (v.emit e).later g past := by
  simp [later, emit]

theorem lapse_later (cycles : UInt64) :
    (v.later g past).lapse cycles = (v.lapse cycles).later g past := by
  simp only [later, lapse, Clock.lapse_later]

theorem latch_later (addr : UInt16) :
    (v.later g past).latch addr = (v.latch addr).later g past := rfl

theorem read_later (addr : UInt16) :
    (v.later g past).read addr = (v.read addr).later g past := by
  have hcontents : (v.later g past).contents = v.contents := rfl
  unfold read
  rw [hcontents, lapse_later]
  split <;> rfl

theorem poke?_later (addr : UInt16) (value : UInt8) :
    (v.later g past).poke? addr value = (v.poke? addr value).map (later g past) := by
  have hcontents : (v.later g past).contents = v.contents := rfl
  rw [poke?, poke?, hcontents, Option.map_map]
  congr 1
  funext c
  simp [later, Contents.map_later_pinEvents, Clock.later, Event.later]

theorem write_later (addr : UInt16) (value : UInt8) :
    (v.later g past).write addr value = (v.write addr value).later g past := by
  rw [write, write, lapse_later, poke?_later, latch_later]
  cases (v.lapse 1).poke? addr value <;> rfl

theorem modify_later (addr : UInt16) (f : UInt8 → UInt8) :
    (v.later g past).modify addr f = (v.modify addr f).later g past := by
  rw [modify, read_later, write_later, modify]
  rfl

theorem exec_later (i : Instr) : (v.later g past).exec i = (v.exec i).later g past := by
  cases i with
  | write addr value => exact write_later g past v addr value
  | setBits addr mask => exact modify_later g past v addr (· ||| mask)

theorem startup_later (t : Target) :
    (v.later g past).startup t = (v.startup t).later g past := by
  unfold startup
  induction t.startup generalizing v with
  | nil => rfl
  | cons i rest ih => rw [List.foldl_cons, exec_later, ih, List.foldl_cons]

theorem delay_later (count : Nat) :
    (v.later g past).delay count = (v.delay count).later g past := by
  simp only [later, delay, Clock.delay_later]

theorem pass_later (t : Target) : (v.later g past).pass t = (v.pass t).later g past := by
  rw [pass, modify_later, delay_later, pass]

theorem burn_later (word : UInt16) :
    (v.later g past).burn word = (v.burn word).later g past := rfl

theorem release_later : (v.later g past).release = v.release.later g past := rfl

theorem reset_later (cause : ResetCause) :
    (v.later g past).reset cause = (v.reset cause).later g past := by
  simp only [later, reset, List.map_append, Contents.map_later_pinEvents, List.append_assoc]
  rfl

end View

end LedBench.Bench
