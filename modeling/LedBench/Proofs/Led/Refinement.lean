import LedBench.Proofs.Firmware.Flat
import LedBench.Proofs.Led.Tracking

namespace LedBench.Firmware

open Bench

/-- The program's writes when it starts. -/
def Target.startupWrites (t : Target) : List (UInt16 × UInt8) :=
  t.digitalMode?.toList.map (·, 0) ++ [(t.direction, 0), (t.led.port, 1)]

variable {σ : Type} [Hardware σ]

/-- What the program does in a turn, on any chip. -/
def Blinker.drive (t : Target) (p : Blinker σ) : Turn → Except σ (Blinker σ)
  | .pass => p.pass t
  | .restart _ => p.restart t

/-- Drives the program through turns in order. -/
def Blinker.follow (t : Target) : Blinker σ → List Turn → Except σ (Blinker σ)
  | p, [] => .ok p
  | p, turn :: rest =>
    match p.drive t turn with
    | .ok p => p.follow t rest
    | .error s => .error s

theorem Blinker.follow_append (t : Target) (p : Blinker σ) (first second : List Turn) :
    p.follow t (first ++ second) =
      match p.follow t first with
      | .ok p => p.follow t second
      | .error s => .error s := by
  induction first generalizing p with
  | nil => rfl
  | cons turn rest ih =>
    rw [List.cons_append, follow, follow]
    cases p.drive t turn with
    | ok p' => exact ih p'
    | error s => rfl

namespace FlatMemory

/-- The LED's register on plain memory holds this level and nothing else. -/
structure Lit (t : Target) (level : Bool) (m : FlatMemory) : Prop where
  full : m.Full
  get_eq : m.get t.led.port = level.toUInt8

theorem lit_filled (t : Target) : (filled 0).Lit t false :=
  ⟨full_filled 0, get_filled 0 _⟩

theorem Lit.store {t : Target} {level : Bool} {m : FlatMemory} (h : m.Lit t level) {addr : UInt16}
    (haddr : t.led.port ≠ addr) (value : UInt8) : (m.store addr value).Lit t level where
  full := h.full.store addr value
  get_eq := by rw [h.full.get_store, if_neg haddr, h.get_eq]

/-- The initializer's last instruction lights the LED, whatever it was before. -/
theorem Lit.light {t : Target} {level : Bool} {m : FlatMemory} (h : m.Lit t level) :
    (m.modify t.led.port (· ||| t.ledMask)).Lit t true ∧
      (m.modify t.led.port (· ||| t.ledMask)).writes = m.writes ++ [(t.led.port, 1)] := by
  have hset : level.toUInt8 ||| t.ledMask = 1 := by cases t <;> cases level <;> decide
  refine ⟨⟨h.full.modify _ _, ?_⟩, ?_⟩
  · rw [h.full.get_modify, if_pos rfl, h.get_eq, hset]
    rfl
  · rw [writes_modify, h.get_eq, hset]

theorem Lit.startup {t : Target} {level : Bool} {m : FlatMemory} (h : m.Lit t level) :
    (t.startup.foldl exec m).Lit t true ∧
      (t.startup.foldl exec m).writes = m.writes ++ t.startupWrites := by
  cases t with
  | pic16f1823 =>
    have hdigital := h.store (show Target.pic16f1823.led.port ≠ 0x18E by decide) 0
    obtain ⟨hlit, hwrites⟩ :=
      (hdigital.store (show Target.pic16f1823.led.port ≠ 0x08E by decide) 0).light
    refine ⟨hlit, hwrites.trans ?_⟩
    simp [Target.startupWrites, Target.digitalMode?, Target.direction]
  | pic16f628a =>
    obtain ⟨hlit, hwrites⟩ :=
      (h.store (show Target.pic16f628a.led.port ≠ 0x086 by decide) 0).light
    refine ⟨hlit, hwrites.trans ?_⟩
    simp [Target.startupWrites, Target.digitalMode?, Target.direction]

/-- The program after its initializer, on memory filled with zeros. -/
def started (t : Target) : Blinker FlatMemory :=
  ⟨t.startup.foldl exec (filled 0), true⟩

theorem Lit.pass {t : Target} {level : Bool} {p : Blinker FlatMemory}
    (h : p.hardware.Lit t level) :
    ∃ p', p.pass t = .ok p' ∧ p'.hardware.Lit t (!level) ∧
      p'.hardware.writes = p.hardware.writes ++ [(t.led.port, (!level).toUInt8)] := by
  have hinverted : level.toUInt8 ^^^ t.ledMask = (!level).toUInt8 := by
    cases t <;> cases level <;> decide
  refine ⟨_, pass_eq p t, ⟨(h.full.modify _ _).idle _, ?_⟩, ?_⟩
  · rw [get_idle, h.full.get_modify, if_pos rfl, h.get_eq, hinverted]
  · rw [writes_idle, writes_modify, h.get_eq, hinverted]

theorem Lit.restart {t : Target} {level : Bool} {p : Blinker FlatMemory}
    (h : p.hardware.Lit t level) :
    ∃ p', p.restart t = .ok p' ∧ p'.hardware.Lit t true ∧
      p'.hardware.writes = p.hardware.writes ++ t.startupWrites :=
  ⟨_, start_eq p.hardware t, h.startup.1, h.startup.2⟩

end FlatMemory

end LedBench.Firmware

namespace LedBench.Bench

open Chip Firmware

/-- The register write of an event, if it is one. -/
def Event.write? : Event → Option (UInt16 × UInt8)
  | .write addr value => some (addr, value)
  | _ => none

/-- The register writes that a journal reports, in order. -/
def Journal.writes (j : Journal) : List (UInt16 × UInt8) :=
  (Journal.events j).filterMap Event.write?

namespace Lamp

theorem writes_change (l : PortLayout) (before after : Lamp) (cycle : UInt64) :
    (change l before after cycle).filterMap Event.write? = [] := by
  unfold change
  split <;> rfl

theorem writes_starting (t : Target) (l : PortLayout) (s : Lamp) (cycle : UInt64) :
    (starting t l s cycle).filterMap Event.write? = t.startupWrites := by
  cases t <;>
    simp [starting, enabling, Target.startupWrites, Target.digitalMode?, Event.write?,
      writes_change]

theorem writes_restarting (t : Target) (l : PortLayout) (cause : ResetCause) (s : Lamp)
    (cycle : UInt64) :
    (restarting t l cause s cycle).filterMap Event.write? = t.startupWrites := by
  simp [restarting, Event.write?, List.filterMap_cons, writes_change, writes_starting]

end Lamp

namespace Machine

variable {t : Target} {d : Descriptor} {led : PinRef} {size : UInt64} {l : PortLayout} {i : Nat}
  {m : Machine}

/-- The machine and the program on plain memory, driven through the same turns, agree on the LED
    and on all writes so far. -/
structure Mirrors (t : Target) (m : Machine) (p : Blinker FlatMemory) : Prop where
  lit : p.hardware.Lit t m.program.level
  writes_eq : Journal.writes m.bus.journal = p.hardware.writes

/-- The turns of a command take the program on plain memory to where the command takes the
    machine. -/
private theorem Mirrors.exists_follow {p : Blinker FlatMemory} (h : m.Mirrors t p)
    (htarget : m.target = t) {b : Bus} {c : Command}
    (hevents : b.view.events = m.bus.view.events ++ m.shown l c) :
    ∃ p', p.follow t (c.turns m (m.after b c)) = .ok p' ∧ (m.after b c).Mirrors t p' := by
  have hwrites : Journal.writes (m.after b c).bus.journal =
      p.hardware.writes ++ (m.shown l c).filterMap Event.write? := by
    rw [bus_after, ← h.writes_eq, Journal.writes, Journal.writes, ← List.filterMap_append]
    exact congrArg (List.filterMap Event.write?) hevents
  rw [turns_after]
  cases c with
  | step =>
    obtain ⟨p₁, hpass, hlit₁, hwrites₁⟩ := h.lit.pass
    cases hexpires : m.expires with
    | false =>
      refine ⟨p₁, ?_, ?_, ?_⟩
      · simp [Blinker.follow, Blinker.drive, hpass]
      · simpa [Machine.after, hexpires] using hlit₁
      · rw [hwrites, hwrites₁, shown, hexpires, htarget]
        simp [Event.write?, List.filterMap_cons]
    | true =>
      obtain ⟨p₂, hrestart, hlit₂, hwrites₂⟩ := hlit₁.restart
      refine ⟨p₂, ?_, ?_, ?_⟩
      · simp [Blinker.follow, Blinker.drive, hpass, hrestart]
      · simpa [Machine.after, hexpires] using hlit₂
      · rw [hwrites, hwrites₂, hwrites₁, shown, hexpires, htarget]
        simp [Event.write?, List.filterMap_cons, Lamp.writes_restarting]
  | reset =>
    obtain ⟨p₁, hrestart, hlit₁, hwrites₁⟩ := h.lit.restart
    refine ⟨p₁, ?_, hlit₁, ?_⟩
    · simp [Blinker.follow, Blinker.drive, hrestart]
    · rw [hwrites, hwrites₁, shown, Lamp.writes_restarting, htarget]
  | burn word => exact ⟨p, rfl, h.lit, by rw [hwrites]; exact List.append_nil _⟩
  | stop => exact ⟨p, rfl, h.lit, by rw [hwrites]; exact List.append_nil _⟩

/-- A machine that the program on plain memory has mirrored through these turns. -/
structure Mirrored (t : Target) (d : Descriptor) (led : PinRef) (size : UInt64) (l : PortLayout)
    (i : Nat) (done : List Turn) (m : Machine) : Prop extends Tracking t d led size l i m where
  mirrors : ∃ p, (FlatMemory.started t).follow t done = .ok p ∧ m.Mirrors t p

theorem Mirrored.exists_perform {done : List Turn} (h : m.Mirrored t d led size l i done)
    (c : Command) (hroom : m.bus.cycles.toNat + m.cost c < UInt64.size) :
    ∃ m', m.perform c = .ok m' ∧ m'.Mirrored t d led size l i (done ++ c.turns m m') := by
  obtain ⟨b, hperform, htracking, hevents⟩ := h.toTracking.exists_perform c hroom
  obtain ⟨p, hfollow, hmirrors⟩ := h.mirrors
  obtain ⟨p', hfollow', hmirrors'⟩ := hmirrors.exists_follow h.target_eq hevents
  refine ⟨_, hperform, htracking, p', ?_, hmirrors'⟩
  rw [Blinker.follow_append, hfollow]
  exact hfollow'

/-- The boot's writes are those of the initializer on plain memory. -/
theorem Booted.mirrored (h : m.Booted t d led size)
    (hwiring : Wiring t led (Build.ofDescriptor d size).decoding l i) :
    m.Mirrored t d led size l i [] := by
  obtain ⟨htracking, hevents⟩ := h.tracking hwiring
  obtain ⟨hlit, hwrites⟩ := (FlatMemory.lit_filled t).startup
  have hjournal : Journal.writes m.bus.journal = (bootShown t l).filterMap Event.write? :=
    congrArg (List.filterMap Event.write?) hevents
  refine ⟨htracking, FlatMemory.started t, rfl, by rw [h.level_eq]; exact hlit, ?_⟩
  rw [hjournal, FlatMemory.started, hwrites, bootShown]
  simp [Event.write?, List.filterMap_cons, Lamp.writes_starting, FlatMemory.writes,
    FlatMemory.filled]

/-- On a wired chip a machine reports, from its boot on, the very writes that the program makes on
    plain memory filled with zeros, started there and driven through the same turns. The widths of
    ports, their reset values and the watchdog make no difference to them. -/
theorem writes_run_eq {t : Target} {d : Descriptor} {led : PinRef} {m : Machine}
    (hwired : Wired t d led) (hboot : powerUp t d led = .ok m) {cmds : List Command}
    (hfits : m.Fits cmds) :
    ∃ m' p p', m.run cmds = .ok m' ∧ Blinker.start t (FlatMemory.filled 0) = .ok p ∧
      p.follow t (m.turns cmds) = .ok p' ∧
      Journal.writes m'.bus.journal = p'.hardware.writes := by
  obtain ⟨size, hsound, hbooted⟩ := booted_of_powerUp hwired.check hboot
  obtain ⟨l, i, -, hwiring⟩ := hwired.exists_wiring hsound
  obtain ⟨m', hrun, hmirrored⟩ := exists_run_of_step
    (fun done m c (h : m.Mirrored t d led size l i done) => h.exists_perform c)
    (hbooted.mirrored hwiring) hfits
  obtain ⟨p', hfollow, hmirrors⟩ := hmirrored.mirrors
  exact ⟨m', FlatMemory.started t, p', hrun, FlatMemory.start_eq (FlatMemory.filled 0) t, hfollow,
    hmirrors.writes_eq⟩

/-- A chip whose watchdog ends every second turn writes no other than one without a watchdog. -/
theorem writes_run_eq_guarded :
    ∃ m m' p p', powerUp .pic16f1823 (.guarded 4000) ⟨"portc", 0⟩ = .ok m ∧
      m.run [.step, .step, .reset, .step] = .ok m' ∧
      Blinker.start .pic16f1823 (FlatMemory.filled 0) = .ok p ∧
      p.follow .pic16f1823 (m.turns [.step, .step, .reset, .step]) = .ok p' ∧
      Journal.writes m'.bus.journal = p'.hardware.writes := by
  have hbooted : ∃ m, powerUp .pic16f1823 (.guarded 4000) ⟨"portc", 0⟩ = .ok m :=
    exists_powerUp (by decide +kernel)
  obtain ⟨m, hboot⟩ := hbooted
  obtain ⟨size, -, hready⟩ := booted_of_powerUp wired_guarded.check hboot
  have hfits : m.Fits [.step, .step, .reset, .step] := hready.fits (by decide)
  obtain ⟨m', p, p', hall⟩ := writes_run_eq wired_guarded hboot hfits
  exact ⟨m, m', p, p', hboot, hall⟩

end Machine

end LedBench.Bench
