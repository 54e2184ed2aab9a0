import Mathlib.Data.List.Flatten
import LedBench.Proofs.Machine.Refusal
import LedBench.Proofs.Machine.Transcript

namespace LedBench.Firmware

open Chip

/-- The program reaches a register of the port. -/
def Target.Reaches (t : Target) (l : PortLayout) : Prop := ∃ addr ∈ t.reach, addr ∈ l.registers

instance (t : Target) (l : PortLayout) : Decidable (t.Reaches l) := by
  unfold Target.Reaches
  infer_instance

end LedBench.Firmware

namespace LedBench.Chip

open Firmware

/-- The chip without the ports that the program does not reach. -/
def Descriptor.reached (d : Descriptor) (t : Target) : Descriptor :=
  { d with ports := d.ports.filter fun l => t.Reaches l }

theorem Descriptor.mem_ports_reached {d : Descriptor} {t : Target} {l : PortLayout} :
    l ∈ (d.reached t).ports ↔ l ∈ d.ports ∧ t.Reaches l := by
  rw [reached, List.mem_filter, decide_eq_true_eq]

theorem Descriptor.nodup_reached {d : Descriptor} (t : Target)
    (hnodup : (d.ports.flatMap PortLayout.registers).Nodup) :
    ((d.reached t).ports.flatMap PortLayout.registers).Nodup :=
  hnodup.sublist (List.filter_sublist.flatMap _)

end LedBench.Chip

namespace LedBench.Bench

open Chip Firmware

/-- Nothing was written but where the program reaches. -/
def History.Within (t : Target) (h : History) : Prop :=
  ∀ addr value, .write addr value ∈ h → addr ∈ t.reach

/-- A port that the program does not reach has nothing to remember. -/
theorem Port.recalled_of_within {t : Target} {l : PortLayout} {h : History} (hwithin : h.Within t)
    (hl : ¬ t.Reaches l) : recalled h l = powered l := by
  induction h with
  | nil => exact recalled_nil l
  | cons deed before ih =>
    have hbefore := ih fun addr value hmem => hwithin addr value (.tail _ hmem)
    cases deed with
    | write addr value =>
      have haddr : addr ∉ l.registers :=
        fun hmem => hl ⟨addr, hwithin addr value (.head _), hmem⟩
      rw [recalled_write_of_not_mem haddr, hbefore]
    | reset cause =>
      rw [recalled_reset, hbefore]
      cases cause <;> rfl

namespace Contents

/-- What is told of a port between two states of a chip. -/
theorem Recalls.pinEvents_eq {d : Descriptor} {size : UInt64} {h h' : History} {c c' : Contents}
    (hc : c.Recalls d size h) (hc' : c'.Recalls d size h') (cycle : UInt64) :
    c.pinEvents c' cycle = d.ports.flatMap fun l =>
      (Port.pinChanges (Port.recalled h l) (Port.recalled h' l)).map fun (bit, level) =>
        .pin l.id bit level cycle := by
  rw [pinEvents, hc.ports_eq, hc'.ports_eq, List.zip_map', List.flatMap_map]
  rfl

/-- Two chips to which the same was done, where the program reaches: the second has only the ports
    that it reaches. -/
structure Confined (t : Target) (d : Descriptor) (size : UInt64) (c c' : Contents) : Prop where
  recalls : ∃ h : History, h.Within t ∧ c.Recalls d size h ∧ c'.Recalls (d.reached t) size h
  memory_eq : ∀ addr ∉ t.reach,
    c.memory.read? addr = if addr.toNat < size.toNat then some 0 else none

variable {t : Target} {d : Descriptor} {size : UInt64} {c c' n n' : Contents}

theorem confined_powered (t : Target) (d : Descriptor) (size : UInt64) :
    Confined t d size (.powered d size) (.powered (d.reached t) size) := by
  refine ⟨⟨[], ?_, Bus.recalls_powered d size, Bus.recalls_powered (d.reached t) size⟩, ?_⟩
  · intro addr value hmem
    cases hmem
  · exact fun addr _ => DataMemory.read?_blank size addr

theorem memory_put_of_ne {addr other : UInt16} (hne : other ≠ addr) (value : UInt8) :
    (c.put addr value).memory.read? other = c.memory.read? other := by
  cases howner : c.owner? addr with
  | none =>
    rw [put_of_owner?_eq_none howner, DataMemory.read?_put]
    simp [hne]
  | some i =>
    obtain ⟨p, q, -, -, -, hput⟩ := put_of_owner?_eq_some howner value
    rw [hput]

/-- Nothing is written elsewhere, so that nothing changes there. -/
theorem Confined.undergo (hnodup : (d.ports.flatMap PortLayout.registers).Nodup)
    (h : Confined t d size c c') {deed : Deed}
    (hdeed : ∀ addr value, deed = .write addr value → addr ∈ t.reach) :
    Confined t d size (c.undergo deed) (c'.undergo deed) := by
  obtain ⟨⟨past, hwithin, hc, hc'⟩, hmemory⟩ := h
  refine ⟨⟨deed :: past, ?_, hc.undergo hnodup deed,
    hc'.undergo (Descriptor.nodup_reached t hnodup) deed⟩, ?_⟩
  · intro addr value hmem
    rcases List.mem_cons.mp hmem with heq | hpast
    · exact hdeed addr value heq.symm
    · exact hwithin addr value hpast
  · intro addr haddr
    cases deed with
    | reset cause => exact hmemory addr haddr
    | write other value =>
      have hne : addr ≠ other := by
        rintro rfl
        exact haddr (hdeed addr value rfl)
      exact (memory_put_of_ne hne value).trans (hmemory addr haddr)

/-- Where the program reaches both chips answer alike. -/
theorem Confined.load_eq (hnodup : (d.ports.flatMap PortLayout.registers).Nodup)
    (h : Confined t d size c c') {addr : UInt16} (haddr : addr ∈ t.reach) :
    c.load addr = c'.load addr := by
  obtain ⟨⟨past, -, hc, hc'⟩, -⟩ := h
  rw [load, load]
  by_cases hport : ∃ l ∈ d.ports, addr ∈ l.registers
  · obtain ⟨l, hl, hmem⟩ := hport
    have hl' : l ∈ (d.reached t).ports := Descriptor.mem_ports_reached.mpr ⟨hl, addr, haddr, hmem⟩
    rw [hc.load?_of_mem hnodup hl hmem,
      hc'.load?_of_mem (Descriptor.nodup_reached t hnodup) hl' hmem]
  · have hnone : ∀ l ∈ d.ports, addr ∉ l.registers := fun l hl hmem => hport ⟨l, hl, hmem⟩
    rw [hc.load?_of_forall hnone,
      hc'.load?_of_forall fun l hl => hnone l (Descriptor.mem_ports_reached.mp hl).1]

/-- Elements that yield nothing can be left out. -/
theorem flatMap_filter_of_forall {α β : Type} {f : α → List β} {p : α → Bool} {xs : List α}
    (h : ∀ x ∈ xs, p x = false → f x = []) : (xs.filter p).flatMap f = xs.flatMap f := by
  induction xs with
  | nil => rfl
  | cons x rest ih =>
    rw [List.forall_mem_cons] at h
    rw [List.flatMap_cons, ← ih h.2]
    cases hx : p x with
    | true => rw [List.filter_cons_of_pos hx, List.flatMap_cons]
    | false => rw [List.filter_cons_of_neg (by simp [hx]), h.1 hx, List.nil_append]

/-- A port that the program does not reach has no part in what is told of the pins. -/
theorem Confined.pinEvents_eq (h : Confined t d size c c') (hn : Confined t d size n n')
    (cycle : UInt64) : c.pinEvents n cycle = c'.pinEvents n' cycle := by
  obtain ⟨⟨past, hwithin, hc, hc'⟩, -⟩ := h
  obtain ⟨⟨past', hwithin', hn, hn'⟩, -⟩ := hn
  rw [hc.pinEvents_eq hn, hc'.pinEvents_eq hn', Descriptor.reached]
  refine (flatMap_filter_of_forall fun l _ hl => ?_).symm
  have hunreached : ¬ t.Reaches l := of_decide_eq_false hl
  rw [Port.recalled_of_within hwithin hunreached, Port.recalled_of_within hwithin' hunreached,
    Port.pinChanges_of_pins_eq rfl]
  rfl

end Contents

/-- An event is of no pin, or of the pin of a port that the program reaches. -/
def Event.OnReachedPort (t : Target) (d : Descriptor) (e : Event) : Prop :=
  ∀ port bit level cycle, e = .pin port bit level cycle → ∃ l ∈ d.ports, t.Reaches l ∧ l.id = port

/-- The same is told of two chips, and of no pins but those of ports that the program reaches. -/
structure ToldAlike (t : Target) (d : Descriptor) (told told' : List Event) : Prop where
  eq : told = told'
  pins : ∀ e ∈ told, e.OnReachedPort t d

namespace ToldAlike

variable {t : Target} {d : Descriptor} {told told' more more' : List Event}

theorem nil : ToldAlike t d [] [] := ⟨rfl, fun _ hmem => nomatch hmem⟩

theorem append (h : ToldAlike t d told told') (hmore : ToldAlike t d more more') :
    ToldAlike t d (told ++ more) (told' ++ more') := by
  refine ⟨by rw [h.eq, hmore.eq], ?_⟩
  rw [List.forall_mem_append]
  exact ⟨h.pins, hmore.pins⟩

theorem cons {e : Event} (he : ∀ port bit level cycle, e ≠ .pin port bit level cycle)
    (h : ToldAlike t d told told') : ToldAlike t d (e :: told) (e :: told') := by
  refine ⟨by rw [h.eq], ?_⟩
  rw [List.forall_mem_cons]
  exact ⟨fun port bit level cycle heq => absurd heq (he port bit level cycle), h.pins⟩

end ToldAlike

namespace Contents

variable {t : Target} {d : Descriptor} {size : UInt64} {c c' n n' : Contents}

theorem Confined.pinEvents_alike (h : Confined t d size c c') (hn : Confined t d size n n')
    (cycle : UInt64) : ToldAlike t d (c.pinEvents n cycle) (c'.pinEvents n' cycle) := by
  refine ⟨h.pinEvents_eq hn cycle, ?_⟩
  rw [h.pinEvents_eq hn cycle]
  rintro e he port bit level at' rfl
  obtain ⟨⟨past, -, -, hc'⟩, -⟩ := h
  obtain ⟨⟨past', -, -, hn'⟩, -⟩ := hn
  rw [hc'.pinEvents_eq hn'] at he
  obtain ⟨l, hl, hpin⟩ := List.mem_flatMap.mp he
  obtain ⟨change, -, heq⟩ := List.mem_map.mp hpin
  cases heq
  obtain ⟨hmem, hreach⟩ := Descriptor.mem_ports_reached.mp hl
  exact ⟨l, hmem, hreach, rfl⟩

theorem Confined.put (hnodup : (d.ports.flatMap PortLayout.registers).Nodup)
    (h : Confined t d size c c') {addr : UInt16} (haddr : addr ∈ t.reach) (value : UInt8) :
    Confined t d size (c.put addr value) (c'.put addr value) := by
  have hdeed : ∀ other byte, Deed.write addr value = .write other byte → other ∈ t.reach := by
    rintro _ _ ⟨⟩
    exact haddr
  exact h.undergo hnodup hdeed

theorem Confined.reset (hnodup : (d.ports.flatMap PortLayout.registers).Nodup)
    (h : Confined t d size c c') (cause : ResetCause) :
    Confined t d size (c.reset cause) (c'.reset cause) := by
  have hdeed : ∀ addr value, Deed.reset cause = .write addr value → addr ∈ t.reach :=
    fun _ _ => Deed.noConfusion
  exact h.undergo hnodup hdeed

theorem Confined.written (hnodup : (d.ports.flatMap PortLayout.registers).Nodup)
    (h : Confined t d size c c') {addr : UInt16} (haddr : addr ∈ t.reach) (value : UInt8)
    (cycle : UInt64) :
    ToldAlike t d (c.written addr value cycle) (c'.written addr value cycle) :=
  (h.pinEvents_alike (h.put hnodup haddr value) cycle).cons fun _ _ _ _ => Event.noConfusion

/-- So it is with instructions in order. -/
theorem Confined.executed (hnodup : (d.ports.flatMap PortLayout.registers).Nodup)
    (h : Confined t d size c c') {instrs : List Instr} (hreach : ∀ i ∈ instrs, i.addr ∈ t.reach)
    (cycle : UInt64) :
    ToldAlike t d (c.executed cycle instrs) (c'.executed cycle instrs) ∧
      Confined t d size (instrs.foldl exec c) (instrs.foldl exec c') := by
  induction instrs generalizing c c' cycle with
  | nil => exact ⟨.nil, h⟩
  | cons i rest ih =>
    rw [List.forall_mem_cons] at hreach
    have hload := h.load_eq hnodup hreach.1
    have hexec : Confined t d size (c.exec i) (c'.exec i) := by
      rw [exec, exec, hload]
      exact h.put hnodup hreach.1 _
    obtain ⟨htold, hrest⟩ := ih hexec hreach.2 (cycle + UInt64.ofNat i.cycles)
    refine ⟨?_, hrest⟩
    rw [Contents.executed, Contents.executed, hload]
    exact (h.written hnodup hreach.1 _ _).append htold

theorem Confined.startup (hnodup : (d.ports.flatMap PortLayout.registers).Nodup)
    (h : Confined t d size c c') (cycle : UInt64) :
    ToldAlike t d (c.executed cycle t.startup) (c'.executed cycle t.startup) ∧
      Confined t d size (t.startup.foldl exec c) (t.startup.foldl exec c') := by
  refine h.executed hnodup (fun i hi => ?_) cycle
  rw [← t.map_addr_startup]
  exact List.mem_map_of_mem hi

/-- What a confined chip holds at a place that the program does not reach. -/
theorem Confined.port_eq (h : Confined t d size c c') {i : Nat} {l : PortLayout}
    (hl : d.ports[i]? = some l) (hunreached : ¬ t.Reaches l) :
    c.ports[i]? = some (.powered l) := by
  obtain ⟨⟨past, hwithin, hc, -⟩, -⟩ := h
  rw [hc.ports_eq, List.getElem?_map, hl, Option.map_some,
    Port.recalled_of_within hwithin hunreached]

end Contents

namespace Scene

/-- Two scenes at the same time, on chips to which the same was done. -/
structure Confined (t : Target) (d : Descriptor) (size : UInt64) (s s' : Scene) : Prop where
  contents : Contents.Confined t d size s.contents s'.contents
  cycle_eq : s.cycle = s'.cycle
  passes_eq : s.passes = s'.passes

variable {t : Target} {d : Descriptor} {size : UInt64} {s s' : Scene}

theorem confined_booted (t : Target) (size : UInt64)
    (hnodup : (d.ports.flatMap PortLayout.registers).Nodup) :
    Confined t d size (.booted t d size) (.booted t (d.reached t) size) :=
  ⟨((Contents.confined_powered t d size).startup hnodup 0).2, rfl, rfl⟩

/-- A turn tells the same of both chips and does the same to them. -/
theorem Confined.turn (hnodup : (d.ports.flatMap PortLayout.registers).Nodup)
    (h : Confined t d size s s') (cyclesPerNop : UInt64) (turn : Turn) :
    ToldAlike t d (s.told t cyclesPerNop turn) (s'.told t cyclesPerNop turn) ∧
      Confined t d size (s.next t cyclesPerNop turn) (s'.next t cyclesPerNop turn) := by
  obtain ⟨hcontents, hcycle, hpasses⟩ := h
  cases turn with
  | pass =>
    have hled : t.led.port ∈ t.reach := by cases t <;> decide
    rw [told, told, next, next, hcycle, hpasses, hcontents.load_eq hnodup hled]
    refine ⟨.cons (fun _ _ _ _ => Event.noConfusion) (.append ?_ ?_), ?_, rfl, rfl⟩
    · exact hcontents.written hnodup hled _ _
    · exact ToldAlike.nil.cons fun _ _ _ _ => Event.noConfusion
    · exact hcontents.put hnodup hled _
  | restart cause =>
    have hreset := hcontents.reset hnodup cause
    obtain ⟨htold, hstarted⟩ := hreset.startup hnodup s'.cycle
    rw [told, told, next, next, hcycle, hpasses]
    refine ⟨.cons (fun _ _ _ _ => Event.noConfusion) (.append ?_ htold), hstarted, rfl, rfl⟩
    exact hcontents.pinEvents_alike hreset s'.cycle

theorem Confined.transcript (hnodup : (d.ports.flatMap PortLayout.registers).Nodup)
    (h : Confined t d size s s') (cyclesPerNop : UInt64) (turns : List Turn) :
    ToldAlike t d (s.transcript t cyclesPerNop turns) (s'.transcript t cyclesPerNop turns) ∧
      Confined t d size (turns.foldl (next t cyclesPerNop) s)
        (turns.foldl (next t cyclesPerNop) s') := by
  induction turns generalizing s s' with
  | nil => exact ⟨.nil, h⟩
  | cons turn rest ih =>
    obtain ⟨htold, hnext⟩ := h.turn hnodup cyclesPerNop turn
    obtain ⟨hrest, hlast⟩ := ih hnext
    exact ⟨htold.append hrest, hlast⟩

end Scene

namespace Machine

/-- The machine leaves the rest of the chip alone, through any steps and resets after its boot. Data
    memory holds 0 wherever the program does not reach. Every port none of whose registers it
    reaches, wherever it stands, holds its power-on values and has all pins low. And what is told,
    from the boot on, is what would be told of the chip without such ports: no pin is reported on
    behalf of one, and every pin that is reported goes by the name of a port that is reached. Steps
    and resets are done as long as the cycle counter has room for them. -/
theorem confined_run {t : Target} {d : Descriptor} {led : PinRef} {m : Machine} {size : UInt64}
    (hcheck : d.check = .ok ()) (hsize : Size.parse d.dataMemory = .ok size)
    (hboot : powerUp t d led = .ok m) {cmds : List Command} (hstop : .stop ∉ cmds) :
    (m.Fits cmds ↔ ∃ m', m.run cmds = .ok m') ∧
      ∀ m', m.run cmds = .ok m' →
        (∀ addr ∉ t.reach, m'.bus.chip.memory.read? addr =
          if addr.toNat < size.toNat then some 0 else none) ∧
        (∀ (i : Nat) (l : PortLayout), d.ports[i]? = some l → ¬ t.Reaches l →
          m'.bus.chip.ports[i]? = some (.powered l) ∧ (Port.powered l).pins = 0) ∧
        m'.bus.journal.events =
          .start :: .reset .powerOn ::
            (Contents.powered (d.reached t) size).executed 0 t.startup ++
              (Scene.booted t (d.reached t) size).transcript t d.cyclesPerDelayIteration
                (m.turns cmds) ∧
        ∀ port bit level cycle, .pin port bit level cycle ∈ m'.bus.journal.events →
          ∃ l ∈ d.ports, t.Reaches l ∧ l.id = port := by
  obtain ⟨size', hsound, hbooted⟩ := booted_of_powerUp hcheck hboot
  obtain rfl : size' = size := Except.ok.inj (hsound.parse.symm.trans hsize)
  refine ⟨hbooted.fits_iff, ?_⟩
  intro m' hrun
  obtain ⟨n, hrun', hnarrated⟩ := exists_run_of_forall (P := (· ≠ .stop))
    (I := fun done m => m.Narrated t d led size' done)
    (fun done m c hc h hroom => h.exists_perform hc hroom) (hbooted.narrated hsound)
    (fun c hc heq => hstop (heq ▸ hc)) (hbooted.fits_iff.mpr ⟨m', hrun⟩)
  obtain rfl : m' = n := Except.ok.inj (hrun.symm.trans hrun')
  have hnodup := hsound.ports.nodup
  obtain ⟨hstarted, -⟩ := (Contents.confined_powered t d size').startup hnodup 0
  obtain ⟨hturns, hscene⟩ := (Scene.confined_booted t size' hnodup).transcript hnodup
    d.cyclesPerDelayIteration (m.turns cmds)
  rw [← hnarrated.scene_eq] at hscene
  have hconfined := hscene.contents
  have htold := ((hstarted.append hturns).cons (e := .reset .powerOn) fun _ _ _ _ =>
    Event.noConfusion).cons (e := .start) fun _ _ _ _ => Event.noConfusion
  have hevents := hnarrated.events_eq
  refine ⟨hconfined.memory_eq, ?_, hevents.trans htold.eq, ?_⟩
  · intro i l hl hunreached
    refine ⟨hconfined.port_eq hl hunreached, ?_⟩
    simp [Port.pins, Port.powered]
  · intro port bit level cycle hmem
    have hmem' : Event.pin port bit level cycle ∈ m'.bus.view.events := hmem
    rw [hevents] at hmem'
    exact htold.pins _ hmem' port bit level cycle rfl

/-- Of the two ports of the 14-pin part the program reaches the second alone. With two turns, of
    which the second ends in a reset by the watchdog, a power-on reset and another turn, nothing
    happens at the first. -/
theorem confined_run_guarded :
    ∃ m m', powerUp .pic16f1823 (.guarded 4000) ⟨"portc", 0⟩ = .ok m ∧
      m.run [.step, .step, .reset, .step] = .ok m' ∧
      m'.bus.chip.memory.read? 0x020 = some 0 ∧
      m'.bus.chip.ports[0]? = some (.powered (Descriptor.guarded 4000).ports[0]) ∧
      ∀ port bit level cycle, .pin port bit level cycle ∈ m'.bus.journal.events →
        port = "portc" := by
  have hcheck : (Descriptor.guarded 4000).check = .ok () := by decide +kernel
  have hsize : Size.parse (Descriptor.guarded 4000).dataMemory = .ok 4096 := by decide +kernel
  have hbooted : ∃ m, powerUp .pic16f1823 (.guarded 4000) ⟨"portc", 0⟩ = .ok m :=
    exists_powerUp (by decide +kernel)
  obtain ⟨m, hboot⟩ := hbooted
  obtain ⟨size, hsound, hready⟩ := booted_of_powerUp hcheck hboot
  obtain ⟨hfits, hruns⟩ := confined_run hcheck hsize hboot
    (show Command.stop ∉ [Command.step, .step, .reset, .step] by decide)
  obtain ⟨m', hrun⟩ := hfits.mp (hready.fits (by decide))
  obtain ⟨hmemory, hports, -, hpins⟩ := hruns m' hrun
  refine ⟨m, m', hboot, hrun, hmemory 0x020 (by decide), (hports 0 _ rfl (by decide)).1, ?_⟩
  intro port bit level cycle hmem
  obtain ⟨l, hl, hreaches, rfl⟩ := hpins port bit level cycle hmem
  have hnames : ∀ l ∈ (Descriptor.guarded 4000).ports, Target.Reaches .pic16f1823 l →
      l.id = "portc" := by
    decide
  exact hnames l hl hreaches

end Machine

end LedBench.Bench
