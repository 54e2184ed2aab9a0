import LedBench.Bench.Metrics
import LedBench.Proofs.Machine.Ready

namespace LedBench.Firmware

/-- The writes of the initializer. -/
def Target.startupWriteCount : Target → Nat
  | .pic16f1823 => 3
  | .pic16f628a => 2

theorem Target.length_startup (t : Target) : t.startup.length = t.startupWriteCount := by
  cases t <;> rfl

theorem Target.startupWriteCount_le (t : Target) :
    t.startupWriteCount ≤ t.startupCycles := by
  cases t <;> decide

end LedBench.Firmware

namespace LedBench.Bench

open Chip Firmware

namespace Event

/-- The turn that this event tells of: a turn of the loop by its end, a restart by the reset. -/
def turn? : Event → Option Turn
  | .passEnd _ => some .pass
  | .reset cause => some (.restart cause)
  | _ => none

/-- The length of a turn of the loop, as its end tells it. -/
def length? : Event → Option UInt64
  | .passEnd cycles => some cycles
  | _ => none

def isWrite : Event → Bool
  | .write _ _ => true
  | _ => false

/-- A reading of events that disregards accesses and what they do to the pins. -/
structure Aloof {β : Type} (f : Event → Option β) : Prop where
  write : ∀ addr value, f (.write addr value) = none
  pin : ∀ port bit level cycle, f (.pin port bit level cycle) = none

theorem aloof_turn? : Aloof turn? := ⟨fun _ _ => rfl, fun _ _ _ _ => rfl⟩

theorem aloof_length? : Aloof length? := ⟨fun _ _ => rfl, fun _ _ _ _ => rfl⟩

/-- A restart is told once, by its reset. -/
theorem count_reset (events : List Event) (cause : ResetCause) :
    events.count (.reset cause) = (events.filterMap turn?).count (.restart cause) := by
  induction events with
  | nil => rfl
  | cons e rest ih =>
    rw [List.count_cons, ih, List.filterMap_cons]
    cases e with
    | reset other => cases cause <;> cases other <;> simp [turn?]
    | _ => simp [turn?]

end Event

namespace Contents

theorem exists_pin_of_mem {c c' : Contents} {cycle : UInt64} {e : Event}
    (h : e ∈ c.pinEvents c' cycle) : ∃ port bit level, e = .pin port bit level cycle := by
  obtain ⟨⟨p, q⟩, -, hmem⟩ := List.mem_flatMap.mp h
  obtain ⟨change, -, rfl⟩ := List.mem_map.mp hmem
  exact ⟨_, _, _, rfl⟩

theorem countP_pinEvents (c c' : Contents) (cycle : UInt64) :
    (c.pinEvents c' cycle).countP Event.isWrite = 0 := by
  rw [List.countP_eq_zero]
  intro e he
  obtain ⟨port, bit, level, rfl⟩ := exists_pin_of_mem he
  exact Bool.false_ne_true

theorem filterMap_pinEvents_of_aloof {β : Type} {f : Event → Option β} (hf : Event.Aloof f)
    (c c' : Contents) (cycle : UInt64) : (c.pinEvents c' cycle).filterMap f = [] := by
  rw [List.filterMap_eq_nil_iff]
  intro e he
  obtain ⟨port, bit, level, rfl⟩ := exists_pin_of_mem he
  exact hf.pin port bit level cycle

end Contents

namespace View

/-- What such a reading makes of the events so far. -/
def heard {β : Type} (f : Event → Option β) (v : View) : List β := v.events.filterMap f

section

variable {β : Type} {f : Event → Option β}

theorem inert_heard (hf : Event.Aloof f) : Inert (heard f) where
  lapse := fun _ _ => rfl
  latch := fun _ _ => rfl
  poke := by
    intro v w addr value hpoke
    obtain ⟨c, -, rfl⟩ := Option.map_eq_some_iff.mp hpoke
    rw [heard, List.filterMap_append, List.filterMap_cons_none (hf.write addr value),
      Contents.filterMap_pinEvents_of_aloof hf, List.append_nil, heard]

theorem heard_emit (v : View) (e : Event) : (v.emit e).heard f = v.heard f ++ [e].filterMap f := by
  rw [heard, events_emit, List.filterMap_append, heard]

theorem heard_reset (hf : Event.Aloof f) (v : View) (cause : ResetCause) :
    (v.reset cause).heard f = v.heard f := by
  rw [heard, reset, List.filterMap_append, Contents.filterMap_pinEvents_of_aloof hf,
    List.append_nil, heard]

theorem heard_restart (hf : Event.Aloof f) (v : View) (t : Target) (cause : ResetCause) :
    (v.restart t cause).heard f = v.heard f ++ [Event.reset cause].filterMap f := by
  rw [restart, (inert_heard hf).startup, heard_reset hf, heard_emit]

theorem heard_turn (hf : Event.Aloof f) (v : View) (t : Target) (passes : UInt64) :
    (v.turn t passes).heard f = v.heard f ++ [Event.passStart passes].filterMap f := by
  rw [turn, (inert_heard hf).pass fun _ _ => rfl, heard_emit]

end

/-- The writes told so far. -/
def writes (v : View) : Nat := v.events.countP Event.isWrite

variable {v : View}

theorem writes_emit (v : View) (e : Event) :
    (v.emit e).writes = v.writes + if e.isWrite then 1 else 0 := by
  rw [writes, events_emit, List.countP_append, List.countP_singleton, writes]

theorem writes_reset (v : View) (cause : ResetCause) : (v.reset cause).writes = v.writes := by
  rw [writes, reset, List.countP_append, Contents.countP_pinEvents, writes, Nat.add_zero]

/-- A write where something answers is told, whatever it does to the pins. -/
theorem writes_write {addr : UInt16} (hmaps : v.build.decoding.Maps addr) (value : UInt8) :
    (v.write addr value).writes = v.writes + 1 := by
  obtain ⟨c, hstore⟩ := Option.isSome_iff_exists.mp (Contents.store?_isSome_iff.mpr hmaps)
  have hpoke : (v.lapse 1).contents.store? addr value = some c := hstore
  rw [write, poke?, hpoke, Option.map_some, Option.getD_some, writes, List.countP_append,
    List.countP_cons_of_pos rfl, Contents.countP_pinEvents]
  rfl

theorem writes_modify {addr : UInt16} (hmaps : v.build.decoding.Maps addr) (f : UInt8 → UInt8) :
    (v.modify addr f).writes = v.writes + 1 := by
  have hread : (v.read addr).build = v.build := inert_build.read v addr
  rw [modify, writes_write (hread ▸ hmaps), writes, events_read, writes]

theorem writes_exec {i : Instr} (hmaps : v.build.decoding.Maps i.addr) :
    (v.exec i).writes = v.writes + 1 := by
  cases i with
  | write addr value => exact writes_write hmaps value
  | setBits addr mask => exact writes_modify hmaps (· ||| mask)

theorem writes_startup {t : Target} (hmaps : v.build.decoding.startupViolation? t = none) :
    (v.startup t).writes = v.writes + t.startupWriteCount := by
  rw [Decoding.startupViolation?_eq_none_iff] at hmaps
  rw [startup, ← t.length_startup]
  generalize t.startup = instrs at hmaps
  induction instrs generalizing v with
  | nil => rfl
  | cons i rest ih =>
    rw [List.forall_mem_cons] at hmaps
    have hbuild : (v.exec i).build = v.build := inert_build.exec v i
    rw [List.foldl_cons, ih (hbuild ▸ hmaps.2), writes_exec hmaps.1, List.length_cons]
    omega

theorem writes_restart {t : Target} (hmaps : v.build.decoding.startupViolation? t = none)
    (cause : ResetCause) : (v.restart t cause).writes = v.writes + t.startupWriteCount := by
  rw [restart, writes_startup, writes_reset, writes_emit]
  · rfl
  · rw [build_reset, build_emit]
    exact hmaps

theorem writes_turn {t : Target} (hmaps : v.build.decoding.startupViolation? t = none)
    (passes : UInt64) : (v.turn t passes).writes = v.writes + 1 := by
  have hled : v.build.decoding.Maps t.led.port :=
    Decoding.startupViolation?_eq_none_iff.mp hmaps _ t.setBits_mem_startup
  have hdelay : ∀ w : View, (w.delay blinkDelay).writes = w.writes := by
    intro w
    rw [writes, events_delay, writes]
  rw [turn, pass, hdelay, writes_modify (v := v.emit (.passStart passes)) hled, writes_emit]
  rfl

end View

namespace Machine

variable {t : Target} {d : Descriptor} {led : PinRef} {size : UInt64} {m : Machine}

/-- What a command of a machine in service tells, the accesses of its program left out. -/
def reports (m : Machine) : Command → List Event
  | .step =>
    [.passStart m.passes, .passEnd (UInt64.ofNat (passCycles m.bus.cyclesPerNop))] ++
      if m.expires then [.reset .watchdog] else []
  | .reset => [.reset .powerOn]
  | .burn _ => []
  | .stop => [.stop]

/-- The reports of a command tell the turns that the program does in it. -/
theorem filterMap_turn?_reports (m : Machine) (b : Bus) (c : Command) :
    (m.reports c).filterMap Event.turn? = c.turns m (m.after b c) := by
  rw [turns_after]
  cases c with
  | step =>
    rw [reports]
    cases m.expires <;> rfl
  | reset => rfl
  | burn word => rfl
  | stop => rfl

/-- Whoever disregards accesses hears the reports of a command. -/
theorem Built.heard_perform (h : m.Built t d led size) {c : Command}
    (hroom : m.bus.cycles.toNat + m.cost c < UInt64.size) {β : Type} {f : Event → Option β}
    (hf : Event.Aloof f) :
    (m.bus.view.perform t m.passes c).heard f =
      m.bus.view.heard f ++ (m.reports c).filterMap f := by
  cases c with
  | step =>
    have hended : ((m.bus.view.turn t m.passes).endPass m.bus.cyclesPerNop).heard f =
        m.bus.view.heard f ++ [Event.passStart m.passes,
          .passEnd (UInt64.ofNat (passCycles m.bus.cyclesPerNop))].filterMap f := by
      rw [View.endPass, View.heard_emit, View.heard_turn hf, List.append_assoc,
        ← List.filterMap_append]
      rfl
    have hrelease : ∀ v : View, v.release.heard f = v.heard f := fun _ => rfl
    rw [view_perform_step h.sound t hroom, reports]
    cases hexpires : m.expires with
    | false =>
      rw [if_neg (by simp), if_neg (by simp), List.append_nil, hended]
    | true =>
      rw [if_pos rfl, if_pos rfl, View.heard_restart hf, hrelease, hended, List.filterMap_append,
        List.append_assoc]
  | reset => exact View.heard_restart hf m.bus.view t .powerOn
  | burn word => exact (List.append_nil _).symm
  | stop => exact View.heard_emit m.bus.view .stop

end Machine

end LedBench.Bench
