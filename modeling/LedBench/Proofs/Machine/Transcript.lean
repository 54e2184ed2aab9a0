import LedBench.Proofs.Led.Refinement
import LedBench.Proofs.Machine.Accounts

namespace LedBench.Firmware

/-- The byte that an instruction writes to a register that holds this one. -/
def Instr.value (held : UInt8) : Instr → UInt8
  | .write _ value => value
  | .setBits _ mask => held ||| mask

end LedBench.Firmware

namespace LedBench.Bench

open Chip Firmware

/-- The number of the turn whose start this event tells. -/
def Event.passNumber? : Event → Option UInt64
  | .passStart pass => some pass
  | _ => none

theorem Event.aloof_passNumber? : Event.Aloof Event.passNumber? :=
  ⟨fun _ _ => rfl, fun _ _ _ _ => rfl⟩

namespace Contents

/-- What a chip holds before anything is burned or run. -/
def powered (d : Descriptor) (size : UInt64) : Contents := ⟨.blank size, d.ports.map Port.powered⟩

/-- What the program reads at an address: 0 where nothing answers. -/
def load (c : Contents) (addr : UInt16) : UInt8 := (c.load? addr).getD 0

/-- What is told of a write: the write, and then the pins that it changed. -/
def written (c : Contents) (addr : UInt16) (value : UInt8) (cycle : UInt64) : List Event :=
  .write addr value :: c.pinEvents (c.put addr value) cycle

def exec (c : Contents) (i : Instr) : Contents := c.put i.addr (i.value (c.load i.addr))

/-- What is told of instructions from some cycle on. Each writes in its last cycle. -/
def executed : Contents → UInt64 → List Instr → List Event
  | _, _, [] => []
  | c, cycle, i :: rest =>
    c.written i.addr (i.value (c.load i.addr)) (cycle + UInt64.ofNat i.cycles) ++
      (c.exec i).executed (cycle + UInt64.ofNat i.cycles) rest

end Contents

/-- Where a turn begins: what the registers hold, the cycles gone by, and the number that a turn of
    the loop would have. -/
structure Scene where
  contents : Contents
  cycle : UInt64
  passes : UInt64

namespace Scene

/-- Where the first turn after a boot begins. -/
def booted (t : Target) (d : Descriptor) (size : UInt64) : Scene :=
  ⟨t.startup.foldl Contents.exec (.powered d size), UInt64.ofNat t.startupCycles, 0⟩

variable (t : Target) (cyclesPerNop : UInt64)

/-- What is told of a turn. A reset is told before any register returns to its reset value. -/
def told (s : Scene) : Turn → List Event
  | .pass =>
    .passStart s.passes ::
      s.contents.written t.led.port (s.contents.load t.led.port ^^^ t.ledMask) (s.cycle + 2) ++
        [.passEnd (UInt64.ofNat (passCycles cyclesPerNop))]
  | .restart cause =>
    .reset cause :: s.contents.pinEvents (s.contents.reset cause) s.cycle ++
      (s.contents.reset cause).executed s.cycle t.startup

/-- Where the turn after this one begins. -/
def next (s : Scene) : Turn → Scene
  | .pass =>
    { contents := s.contents.put t.led.port (s.contents.load t.led.port ^^^ t.ledMask)
      cycle := s.cycle + UInt64.ofNat (passCycles cyclesPerNop)
      passes := s.passes + 1 }
  | .restart cause =>
    { s with
      contents := t.startup.foldl Contents.exec (s.contents.reset cause)
      cycle := s.cycle + UInt64.ofNat t.startupCycles }

/-- What is told of turns in order. -/
def transcript : Scene → List Turn → List Event
  | _, [] => []
  | s, turn :: rest => s.told t cyclesPerNop turn ++ (s.next t cyclesPerNop turn).transcript rest

theorem transcript_append (s : Scene) (first second : List Turn) :
    s.transcript t cyclesPerNop (first ++ second) =
      s.transcript t cyclesPerNop first ++
        (first.foldl (next t cyclesPerNop) s).transcript t cyclesPerNop second := by
  induction first generalizing s with
  | nil => rfl
  | cons turn rest ih =>
    rw [List.cons_append, transcript, transcript, ih, List.append_assoc, List.foldl_cons]

end Scene

/-- A counter that has moved on by so much without running over. -/
private theorem eq_add_ofNat {a b : UInt64} {n : Nat} (h : b.toNat = a.toNat + n) :
    b = a + UInt64.ofNat n := by
  apply UInt64.toNat_inj.mp
  have hlt := b.toNat_lt
  rw [UInt64.toNat_add, UInt64.toNat_ofNat', Nat.add_mod_mod, ← h, Nat.mod_eq_of_lt hlt]

namespace View

/-- The scene of a turn that begins here. -/
def scene (passes : UInt64) (v : View) : Scene := ⟨v.contents, v.clock.cycles, passes⟩

theorem scene_release (v : View) (passes : UInt64) : v.release.scene passes = v.scene passes := rfl

variable {v : View} {t : Target}

theorem events_write {addr : UInt16} (hmaps : v.build.decoding.Maps addr) (value : UInt8) :
    (v.write addr value).events =
      v.events ++ v.contents.written addr value (v.clock.cycles + 1) := by
  obtain ⟨c, hstore⟩ := Option.isSome_iff_exists.mp (Contents.store?_isSome_iff.mpr hmaps)
  have hpoke : (v.lapse 1).contents.store? addr value = some c := hstore
  rw [write, poke?, hpoke, Option.map_some, Option.getD_some, Contents.written, Contents.put,
    hstore]
  rfl

theorem events_modify {addr : UInt16} (hmaps : v.build.decoding.Maps addr) (f : UInt8 → UInt8) :
    (v.modify addr f).events =
      v.events ++ v.contents.written addr (f (v.contents.load addr)) (v.clock.cycles + 2) := by
  have hread : (v.read addr).build = v.build := inert_build.read v addr
  rw [modify, events_write (hread ▸ hmaps), events_read, contents_read, clock_read]
  change _ ++ v.contents.written _ _ (v.clock.cycles + 1 + 1) = _
  rw [UInt64.add_assoc]
  rfl

theorem cycles_modify (v : View) (addr : UInt16) (f : UInt8 → UInt8) :
    (v.modify addr f).clock.cycles = v.clock.cycles + 2 := by
  rw [clock_modify]
  exact UInt64.add_assoc _ _ _

/-- An instruction where something answers is told as its write. -/
theorem told_exec {i : Instr} (hmaps : v.build.decoding.Maps i.addr) :
    (v.exec i).contents = v.contents.exec i ∧
      (v.exec i).clock.cycles = v.clock.cycles + UInt64.ofNat i.cycles ∧
      (v.exec i).events = v.events ++ v.contents.written i.addr
        (i.value (v.contents.load i.addr)) (v.clock.cycles + UInt64.ofNat i.cycles) := by
  cases i with
  | write addr value =>
    refine ⟨contents_write v addr value, ?_, events_write hmaps value⟩
    rw [exec, clock_write]
    rfl
  | setBits addr mask =>
    exact ⟨contents_modify v addr (· ||| mask), cycles_modify v addr (· ||| mask),
      events_modify hmaps (· ||| mask)⟩

theorem told_foldl_exec {instrs : List Instr}
    (hmaps : ∀ i ∈ instrs, v.build.decoding.Maps i.addr) :
    (instrs.foldl exec v).contents = instrs.foldl Contents.exec v.contents ∧
      (instrs.foldl exec v).events = v.events ++ v.contents.executed v.clock.cycles instrs := by
  induction instrs generalizing v with
  | nil => exact ⟨rfl, (List.append_nil _).symm⟩
  | cons i rest ih =>
    rw [List.forall_mem_cons] at hmaps
    obtain ⟨hcontents, hcycles, hevents⟩ := told_exec hmaps.1
    have hbuild : (v.exec i).build = v.build := inert_build.exec v i
    obtain ⟨hcontents', hevents'⟩ := ih (v := v.exec i) (hbuild ▸ hmaps.2)
    rw [hcontents] at hcontents'
    rw [hcontents, hcycles, hevents, List.append_assoc] at hevents'
    exact ⟨hcontents', hevents'⟩

theorem told_startup (hmaps : v.build.decoding.startupViolation? t = none) :
    (v.startup t).contents = t.startup.foldl Contents.exec v.contents ∧
      (v.startup t).events = v.events ++ v.contents.executed v.clock.cycles t.startup :=
  told_foldl_exec (Decoding.startupViolation?_eq_none_iff.mp hmaps)

theorem told_restart (hsound : v.clock.Sound)
    (hmaps : v.build.decoding.startupViolation? t = none) (cause : ResetCause)
    (hroom : v.clock.cycles.toNat + t.startupCycles < UInt64.size) (passes cyclesPerNop : UInt64) :
    (v.restart t cause).scene passes = (v.scene passes).next t cyclesPerNop (.restart cause) ∧
      (v.restart t cause).events =
        v.events ++ (v.scene passes).told t cyclesPerNop (.restart cause) := by
  have hbuild : ((v.emit (.reset cause)).reset cause).build = v.build := by
    rw [build_reset, build_emit]
  obtain ⟨hcontents, hevents⟩ := told_startup (v := (v.emit (.reset cause)).reset cause)
    (hbuild ▸ hmaps)
  have hcycles := eq_add_ofNat (elapsed_restart hsound t cause hroom).1.cycles_eq
  refine ⟨?_, ?_⟩
  · rw [scene, Scene.next, restart, hcontents, ← restart, hcycles]
    rfl
  · rw [restart, hevents]
    simp [reset, scene, Scene.told, emit, Clock.reset]

theorem told_turn (hsound : v.clock.Sound)
    (hmaps : v.build.decoding.startupViolation? t = none) (passes : UInt64)
    (hroom : v.clock.cycles.toNat + passCycles v.clock.cyclesPerNop < UInt64.size) :
    ((v.turn t passes).endPass v.clock.cyclesPerNop).scene (passes + 1) =
        (v.scene passes).next t v.clock.cyclesPerNop .pass ∧
      ((v.turn t passes).endPass v.clock.cyclesPerNop).events =
        v.events ++ (v.scene passes).told t v.clock.cyclesPerNop .pass := by
  have hled : v.build.decoding.Maps t.led.port :=
    Decoding.startupViolation?_eq_none_iff.mp hmaps _ t.setBits_mem_startup
  have hcycles := eq_add_ofNat (elapsed_turn hsound t passes hroom).1.cycles_eq
  refine ⟨?_, ?_⟩
  · rw [scene, Scene.next, contents_endPass, clock_endPass, hcycles, turn, pass, contents_delay,
      contents_modify]
    rfl
  · rw [endPass, events_emit, turn, pass, events_delay,
      events_modify (v := v.emit (.passStart passes)) hled]
    simp [scene, Scene.told, emit]

end View

/-- The first writes are the initializer's: the digital-mode register where the part has one, the
    direction register, and then the LED's port with its bit set. -/
def Opens (t : Target) (events : List Event) : Prop :=
  ∃ value, value &&& t.ledMask ≠ 0 ∧
    t.digitalMode?.toList.map (·, 0) ++ [(t.direction, 0), (t.led.port, value)] <+:
      events.filterMap Event.write?

/-- After each reset the initializer writes before anything else does. -/
def Orderly (t : Target) (events : List Event) : Prop :=
  ∀ before cause after, events = before ++ .reset cause :: after → Opens t after

namespace Orderly

variable {t : Target} {events : List Event}

theorem nil : Orderly t [] := by
  intro before cause after heq
  cases before <;> cases heq

theorem cons {e : Event} (he : ∀ cause, e = .reset cause → Opens t events) (h : Orderly t events) :
    Orderly t (e :: events) := by
  intro before cause after heq
  cases before with
  | nil =>
    obtain ⟨hreset, rfl⟩ := List.cons.inj heq
    exact he cause hreset
  | cons e' before => exact h before cause after (List.cons.inj heq).2

theorem append {quiet : List Event} (hquiet : quiet.filterMap Event.turn? = [])
    (h : Orderly t events) : Orderly t (quiet ++ events) := by
  induction quiet with
  | nil => exact h
  | cons e rest ih =>
    rw [List.filterMap_eq_nil_iff, List.forall_mem_cons, ← List.filterMap_eq_nil_iff] at hquiet
    refine (ih hquiet.2).cons ?_
    rintro cause rfl
    cases hquiet.1

end Orderly

namespace Contents

variable (c : Contents) (t : Target) (cycle : UInt64)

theorem filterMap_written_of_aloof {β : Type} {f : Event → Option β} (hf : Event.Aloof f)
    (addr : UInt16) (value : UInt8) : (c.written addr value cycle).filterMap f = [] := by
  rw [written, List.filterMap_cons_none (hf.write addr value), filterMap_pinEvents_of_aloof hf]

theorem filterMap_executed_of_aloof {β : Type} {f : Event → Option β} (hf : Event.Aloof f)
    (instrs : List Instr) : (c.executed cycle instrs).filterMap f = [] := by
  induction instrs generalizing c cycle with
  | nil => rfl
  | cons i rest ih =>
    rw [executed, List.filterMap_append, filterMap_written_of_aloof _ _ hf, ih, List.append_nil]

theorem writes_pinEvents (c' : Contents) : (c.pinEvents c' cycle).filterMap Event.write? = [] := by
  rw [List.filterMap_eq_nil_iff]
  intro e he
  obtain ⟨port, bit, level, rfl⟩ := exists_pin_of_mem he
  rfl

theorem writes_written (addr : UInt16) (value : UInt8) :
    (c.written addr value cycle).filterMap Event.write? = [(addr, value)] := by
  rw [written, List.filterMap_cons, writes_pinEvents]
  rfl

/-- The last instruction writes what it makes of the byte that it finds. -/
theorem exists_writes_executed (instrs : List Instr) (i : Instr) :
    ∃ held, (c.executed cycle (instrs ++ [i])).filterMap Event.write? =
      (c.executed cycle instrs).filterMap Event.write? ++ [(i.addr, i.value held)] := by
  induction instrs generalizing c cycle with
  | nil =>
    refine ⟨c.load i.addr, ?_⟩
    rw [List.nil_append, executed, executed, List.filterMap_append, writes_written]
    rfl
  | cons first rest ih =>
    obtain ⟨held, hrest⟩ := ih (c.exec first) (cycle + UInt64.ofNat first.cycles)
    refine ⟨held, ?_⟩
    rw [List.cons_append, executed, executed, List.filterMap_append, hrest, List.filterMap_append,
      List.append_assoc]

/-- Whatever the registers hold, the initializer writes the LED's bit set. -/
theorem exists_writes_executed_startup :
    ∃ value, value &&& t.ledMask ≠ 0 ∧
      (c.executed cycle t.startup).filterMap Event.write? =
        t.digitalMode?.toList.map (·, 0) ++ [(t.direction, 0), (t.led.port, value)] := by
  have hstartup : t.startup = (t.digitalMode?.toList.map (.write · 0) ++ [.write t.direction 0]) ++
      [.setBits t.led.port t.ledMask] := by
    rw [Target.startup, List.append_assoc]
    rfl
  have hplain : (c.executed cycle
      (t.digitalMode?.toList.map (.write · 0) ++ [.write t.direction 0])).filterMap Event.write? =
        t.digitalMode?.toList.map (·, 0) ++ [(t.direction, 0)] := by
    cases t <;>
      simp [Target.digitalMode?, executed, writes_written, Instr.addr, Instr.value]
  obtain ⟨held, hwrites⟩ := exists_writes_executed c cycle
    (t.digitalMode?.toList.map (.write · 0) ++ [.write t.direction 0])
    (.setBits t.led.port t.ledMask)
  refine ⟨held ||| t.ledMask, ?_, ?_⟩
  · have hled : (held ||| t.ledMask) &&& t.ledMask = t.ledMask := by
      apply UInt8.toBitVec_inj.mp
      ext i
      simp only [UInt8.toBitVec_and, UInt8.toBitVec_or, BitVec.getElem_and, BitVec.getElem_or]
      grind
    rw [hled]
    cases t <;> decide
  · rw [hstartup, hwrites, hplain, List.append_assoc]
    rfl

end Contents

namespace Scene

variable {t : Target} {cyclesPerNop : UInt64}

/-- The turns of the loop are numbered one by one, from the number that the first has. -/
theorem passNumbers_transcript (s : Scene) (turns : List Turn) :
    (s.transcript t cyclesPerNop turns).filterMap Event.passNumber? =
      (List.range (turns.count .pass)).map fun k => s.passes + UInt64.ofNat k := by
  induction turns generalizing s with
  | nil => rfl
  | cons turn rest ih =>
    rw [transcript, List.filterMap_append, ih]
    cases turn with
    | pass =>
      have htold : (s.told t cyclesPerNop .pass).filterMap Event.passNumber? = [s.passes] := by
        rw [told, List.cons_append, List.filterMap_cons, List.filterMap_append,
          Contents.filterMap_written_of_aloof _ _ Event.aloof_passNumber?]
        rfl
      have hnext : ∀ k : Nat, s.passes + 1 + UInt64.ofNat k = s.passes + UInt64.ofNat (k + 1) := by
        intro k
        rw [UInt64.add_assoc, Nat.add_comm k, UInt64.ofNat_add]
        rfl
      rw [htold, List.count_cons_self, List.range_succ_eq_map, List.map_cons, List.map_map,
        List.singleton_append]
      simp [next, hnext]
    | restart cause =>
      have htold : (s.told t cyclesPerNop (.restart cause)).filterMap Event.passNumber? = [] := by
        rw [told, List.cons_append, List.filterMap_cons_none rfl, List.filterMap_append,
          Contents.filterMap_pinEvents_of_aloof Event.aloof_passNumber?,
          Contents.filterMap_executed_of_aloof _ _ Event.aloof_passNumber?, List.append_nil]
      rw [htold, List.nil_append, List.count_cons_of_ne (by simp)]
      rfl

theorem orderly_transcript {ending : List Event} (hending : Orderly t ending) (s : Scene)
    (turns : List Turn) : Orderly t (s.transcript t cyclesPerNop turns ++ ending) := by
  induction turns generalizing s with
  | nil => exact hending
  | cons turn rest ih =>
    rw [transcript, List.append_assoc]
    cases turn with
    | pass =>
      have hended : Orderly t (.passEnd (UInt64.ofNat (passCycles cyclesPerNop)) ::
          ((s.next t cyclesPerNop .pass).transcript t cyclesPerNop rest ++ ending)) :=
        (ih _).cons fun _ => Event.noConfusion
      have hwritten := hended.append (Contents.filterMap_written_of_aloof s.contents (s.cycle + 2)
        Event.aloof_turn? t.led.port (s.contents.load t.led.port ^^^ t.ledMask))
      rw [told, List.cons_append, List.cons_append, List.append_assoc]
      exact hwritten.cons fun _ => Event.noConfusion
    | restart cause =>
      obtain ⟨value, hset, hwrites⟩ :=
        (s.contents.reset cause).exists_writes_executed_startup t s.cycle
      rw [told, List.cons_append, List.cons_append, List.append_assoc]
      refine .cons (fun _ _ => ⟨value, hset, ?_⟩) (.append ?_ (.append ?_ (ih _)))
      · rw [List.filterMap_append, Contents.writes_pinEvents, List.nil_append,
          List.filterMap_append, hwrites]
        exact List.prefix_append _ _
      · exact Contents.filterMap_pinEvents_of_aloof Event.aloof_turn? _ _ _
      · exact Contents.filterMap_executed_of_aloof _ _ Event.aloof_turn? _

end Scene

namespace Machine

variable {t : Target} {d : Descriptor} {led : PinRef} {size : UInt64} {m : Machine}

/-- What a command tells is what its turns tell. -/
private theorem Ready.told_perform (h : m.Ready t d led size) {c : Command} (hstop : c ≠ .stop)
    (hroom : m.bus.cycles.toNat + m.cost c < UInt64.size) (b : Bus) :
    (m.bus.view.perform t m.passes c).scene (m.after b c).passes =
        (c.turns m (m.after b c)).foldl (Scene.next t m.bus.cyclesPerNop)
          (m.bus.view.scene m.passes) ∧
      (m.bus.view.perform t m.passes c).events = m.bus.view.events ++
        (m.bus.view.scene m.passes).transcript t m.bus.cyclesPerNop
          (c.turns m (m.after b c)) := by
  have hmaps : m.bus.view.build.decoding.startupViolation? t = none := h.build_eq ▸ h.maps
  rw [turns_after]
  cases c with
  | step =>
    obtain ⟨hscene, hevents⟩ := View.told_turn (v := m.bus.view) h.sound.clock hmaps m.passes
      (room_turn hroom)
    rw [show m.bus.view.clock.cyclesPerNop = m.bus.cyclesPerNop from rfl] at hscene hevents
    rw [view_perform_step h.sound t hroom]
    cases hexpires : m.expires with
    | false => exact ⟨hscene, hevents.trans (by simp [Scene.transcript])⟩
    | true =>
      obtain ⟨hended, hsound⟩ := View.elapsed_turn (v := m.bus.view) h.sound.clock t m.passes
        (room_turn hroom)
      rw [cost_step, h.target_eq, hexpires, if_pos rfl, ← Nat.add_assoc] at hroom
      have hclock := View.clock_release_endPass (m.bus.view.turn t m.passes) m.bus.cyclesPerNop
      obtain ⟨hscene', hevents'⟩ := View.told_restart (t := t)
        (v := ((m.bus.view.turn t m.passes).endPass m.bus.cyclesPerNop).release)
        (by rw [hclock]; exact hsound.release)
        (by rw [View.build_release, View.build_endPass, View.build_turn]; exact hmaps) .watchdog
        (by rw [hclock, Clock.release, hended.cycles_eq]; exact hroom)
        (m.passes + 1) m.bus.cyclesPerNop
      rw [View.scene_release, hscene] at hscene' hevents'
      rw [View.events_release, hevents] at hevents'
      exact ⟨hscene', hevents'.trans (by simp [Scene.transcript])⟩
  | reset =>
    obtain ⟨hscene, hevents⟩ := View.told_restart (v := m.bus.view) h.sound.clock hmaps .powerOn
      (by rwa [cost, h.target_eq] at hroom) m.passes m.bus.cyclesPerNop
    exact ⟨hscene, hevents.trans (by simp [Scene.transcript])⟩
  | burn word => exact ⟨rfl, (List.append_nil _).symm⟩
  | stop => exact absurd rfl hstop

/-- A machine in service that has told a boot and these turns, and nothing else. -/
structure Narrated (t : Target) (d : Descriptor) (led : PinRef) (size : UInt64)
    (done : List Turn) (m : Machine) : Prop extends Ready t d led size m where
  scene_eq : m.bus.view.scene m.passes =
    done.foldl (Scene.next t d.cyclesPerDelayIteration) (.booted t d size)
  events_eq : m.bus.view.events =
    .start :: .reset .powerOn :: (Contents.powered d size).executed 0 t.startup ++
      (Scene.booted t d size).transcript t d.cyclesPerDelayIteration done

theorem Booted.narrated (hsound : d.Sound size) (h : m.Booted t d led size) :
    m.Narrated t d led size [] := by
  have hmaps : (View.burned t d size).build.decoding.startupViolation? t = none := by
    rw [View.build_burned t hsound]
    exact h.maps
  obtain ⟨hcontents, hevents⟩ := View.told_startup hmaps
  have hcycles := eq_add_ofNat h.elapsed.cycles_eq
  have hpowered : (View.burned t d size).contents = .powered d size := rfl
  rw [hpowered] at hcontents hevents
  refine ⟨h.toReady, ?_, ?_⟩
  · rw [View.scene, h.passes_eq, show m.bus.view.clock.cycles = m.bus.clock.cycles from rfl,
      hcycles, h.view_eq, hcontents]
    exact congrArg (Scene.mk _ · 0) (UInt64.zero_add _)
  · rw [h.view_eq, hevents, Scene.transcript, List.append_nil]
    rfl

theorem Narrated.exists_perform {done : List Turn} (h : m.Narrated t d led size done)
    {c : Command} (hstop : c ≠ .stop) (hroom : m.bus.cycles.toNat + m.cost c < UInt64.size) :
    ∃ m', m.perform c = .ok m' ∧ m'.Narrated t d led size (done ++ c.turns m m') := by
  obtain ⟨b, hview, hperform⟩ := h.toReady.exists_perform c hroom
  obtain ⟨hscene, hevents⟩ := h.told_perform hstop hroom b
  rw [← hview, h.scene_eq, h.cyclesPerNop_eq] at hscene hevents
  refine ⟨_, hperform, h.toReady.after hroom hview, ?_, ?_⟩
  · rw [bus_after, hscene, List.foldl_append]
  · rw [bus_after, hevents, h.events_eq, Scene.transcript_append, List.append_assoc]

/-- All that is told of a machine from its boot to its stop: the boot, the turns that its steps and
    resets make it do, each of them down to the pins that its writes change, and the stop. A step is
    told from the start of its turn to the end, with one write in between, and a restart after it
    only if the watchdog asked for one. The turns of the loop are numbered from 0 without a gap, and
    after each reset the direction register is written before the LED's port. -/
theorem events_run_stop {t : Target} {d : Descriptor} {led : PinRef} {m : Machine} {size : UInt64}
    (hcheck : d.check = .ok ()) (hsize : Size.parse d.dataMemory = .ok size)
    (hboot : powerUp t d led = .ok m) {cmds : List Command} (hstop : .stop ∉ cmds) :
    (m.Fits (cmds ++ [.stop]) ↔ ∃ m', m.run (cmds ++ [.stop]) = .ok m') ∧
      ∀ m', m.run (cmds ++ [.stop]) = .ok m' →
        m'.bus.journal.events =
          .start :: .reset .powerOn :: (Contents.powered d size).executed 0 t.startup ++
            (Scene.booted t d size).transcript t d.cyclesPerDelayIteration (m.turns cmds) ++
            [.stop] ∧
        m'.bus.journal.events.filterMap Event.passNumber? =
          (List.range (cmds.count .step)).map UInt64.ofNat ∧
        Orderly t m'.bus.journal.events := by
  obtain ⟨size', hsound, hbooted⟩ := booted_of_powerUp hcheck hboot
  obtain rfl : size' = size := Except.ok.inj (hsound.parse.symm.trans hsize)
  refine ⟨hbooted.fits_iff, ?_⟩
  intro m' hrun
  obtain ⟨hfits, -⟩ := (hbooted.fits_iff.mpr ⟨m', hrun⟩).of_append
  obtain ⟨m₁, hrun₁, hnarrated⟩ := exists_run_of_forall (P := (· ≠ .stop))
    (I := fun done m => m.Narrated t d led size' done)
    (fun done m c hc h hroom => h.exists_perform hc hroom) (hbooted.narrated hsound)
    (fun c hc heq => hstop (heq ▸ hc)) hfits
  rw [run_append hrun₁] at hrun
  obtain rfl : m₁.stop = m' := Except.ok.inj hrun
  have hevents : m₁.stop.bus.journal.events =
      .start :: .reset .powerOn :: (Contents.powered d size').executed 0 t.startup ++
        (Scene.booted t d size').transcript t d.cyclesPerDelayIteration (m.turns cmds) ++
        [.stop] := by
    rw [← hnarrated.events_eq]
    exact congrArg View.events (Bus.view_emit m₁.bus .stop)
  obtain ⟨hsteps, -⟩ := hbooted.count_turns hfits
  refine ⟨hevents, ?_, ?_⟩
  · have hopening : (.start :: .reset .powerOn ::
        (Contents.powered d size').executed 0 t.startup).filterMap Event.passNumber? = [] := by
      rw [List.filterMap_cons_none rfl, List.filterMap_cons_none rfl,
        Contents.filterMap_executed_of_aloof _ _ Event.aloof_passNumber?]
    rw [hevents, List.filterMap_append, List.filterMap_append, hopening,
      Scene.passNumbers_transcript, hsteps]
    simp [Scene.booted, Event.passNumber?]
  · obtain ⟨value, hset, hwrites⟩ :=
      (Contents.powered d size').exists_writes_executed_startup t 0
    have hending : Orderly t [.stop] := Orderly.nil.cons fun _ => Event.noConfusion
    have hturns : Orderly t ((Scene.booted t d size').transcript t d.cyclesPerDelayIteration
        (m.turns cmds) ++ [.stop]) := Scene.orderly_transcript hending _ _
    rw [hevents, List.append_assoc, List.cons_append, List.cons_append]
    refine .cons (fun _ => Event.noConfusion)
      (.cons (fun _ _ => ⟨value, hset, ?_⟩) (.append ?_ hturns))
    · rw [List.filterMap_append, hwrites]
      exact List.prefix_append _ _
    · exact Contents.filterMap_executed_of_aloof _ _ Event.aloof_turn? _

/-- With a period of 4000 cycles the watchdog ends the second turn. Its reset keeps the port's latch,
    so that the pin is high again with the write to the direction register. -/
theorem events_run_stop_short_period :
    ∃ m m', powerUp .pic16f1823 (.guarded 4000) ⟨"portc", 0⟩ = .ok m ∧
      m.run [.step, .step, .stop] = .ok m' ∧ m'.bus.journal.events = [
        .start, .reset .powerOn,
        .write 0x18E 0, .write 0x08E 0, .write 0x00E 1, .pin "portc" 0 true 4,
        .passStart 0, .write 0x00E 0, .pin "portc" 0 false 6, .passEnd 3002,
        .passStart 1, .write 0x00E 1, .pin "portc" 0 true 3008, .passEnd 3002,
        .reset .watchdog, .pin "portc" 0 false 6008,
        .write 0x18E 0, .write 0x08E 0, .pin "portc" 0 true 6010, .write 0x00E 1,
        .stop] := by
  have hcheck : (Descriptor.guarded 4000).check = .ok () := by decide +kernel
  have hsize : Size.parse (Descriptor.guarded 4000).dataMemory = .ok 4096 := by decide +kernel
  have hbooted : ∃ m, powerUp .pic16f1823 (.guarded 4000) ⟨"portc", 0⟩ = .ok m :=
    exists_powerUp (by decide +kernel)
  obtain ⟨m, hboot⟩ := hbooted
  obtain ⟨size, hsound, hready⟩ := booted_of_powerUp hcheck hboot
  obtain ⟨-, -, -, hturns⟩ := (hready.onSchedule hsound).exists_run 2 (by decide)
  have hturns' : m.turns [.step, .step] = [.pass, .pass, .restart .watchdog] := hturns
  obtain ⟨hfits, htold⟩ := events_run_stop hcheck hsize hboot
    (show Command.stop ∉ [Command.step, .step] by decide)
  obtain ⟨m', hrun⟩ := hfits.mp (hready.fits (by decide))
  refine ⟨m, m', hboot, hrun, (htold m' hrun).1.trans ?_⟩
  rw [hturns']
  decide +kernel

end Machine

end LedBench.Bench
