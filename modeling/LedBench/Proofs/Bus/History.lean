import LedBench.Chip.Builtin
import LedBench.Proofs.Bus.Operation

namespace LedBench.Bench

open Chip Firmware

/-- What leaves a trace in the registers of a chip. -/
inductive Deed where
  | write (addr : UInt16) (value : UInt8)
  | reset (cause : ResetCause)
  deriving DecidableEq, Repr

/-- The deeds since a chip was built, the latest first. -/
abbrev History := List Deed

namespace History

/-- The last value written to one of these registers, if no reset that clears them came after it. -/
def last? (registers : List UInt16) (clears : ResetCause → Bool) : History → Option UInt8
  | [] => none
  | .write addr value :: before =>
    if addr ∈ registers then some value else last? registers clears before
  | .reset cause :: before => if clears cause then none else last? registers clears before

/-- The direction register of a port returns to its reset value with every reset. -/
def tris (l : PortLayout) (h : History) : UInt8 :=
  (last? [l.tris] (fun _ => true) h).getD l.reset.tris &&& l.pinMask

/-- So does the analog select, which stays at that value for ever where the port has no register
    for it. -/
def ansel (l : PortLayout) (h : History) : UInt8 :=
  (last? l.ansel.toList (fun _ => true) h).getD l.reset.ansel &&& l.pinMask

/-- The latch is written through either of two registers, and cleared at power-on alone. -/
def lat (l : PortLayout) (h : History) : UInt8 :=
  (last? (l.port :: l.lat.toList) (· = .powerOn) h).getD 0 &&& l.pinMask

/-- A pin reads its latch unless it is an input or in analog mode. -/
def portValue (l : PortLayout) (h : History) : UInt8 :=
  h.lat l &&& ~~~ h.tris l &&& ~~~ h.ansel l

/-- No reset clears a byte of data memory. -/
def byte (addr : UInt16) (h : History) : UInt8 := (last? [addr] (fun _ => false) h).getD 0

variable {registers : List UInt16} {clears : ResetCause → Bool} {h : History} {addr : UInt16}

theorem last?_write_of_mem (hmem : addr ∈ registers) (value : UInt8) :
    last? registers clears (.write addr value :: h) = some value := if_pos hmem

theorem last?_write_of_not_mem (hmem : addr ∉ registers) (value : UInt8) :
    last? registers clears (.write addr value :: h) = last? registers clears h := if_neg hmem

theorem byte_write (a addr : UInt16) (value : UInt8) :
    byte a (.write addr value :: h) = if a = addr then value else h.byte a := by
  by_cases heq : a = addr
  · subst heq
    rw [if_pos rfl, byte, last?_write_of_mem (List.mem_singleton.mpr rfl), Option.getD_some]
  · rw [if_neg heq, byte, last?_write_of_not_mem (by simpa using Ne.symm heq), byte]

end History

namespace Port

/-- A port as its history has left it. -/
def recalled (h : History) (l : PortLayout) : Port where
  layout := l
  tris := h.tris l
  lat := h.lat l
  ansel := h.ansel l

variable {l : PortLayout} {h : History} {addr : UInt16}

theorem recalled_nil (l : PortLayout) : recalled [] l = powered l := by
  simp [recalled, powered, History.tris, History.lat, History.ansel, History.last?]

theorem recalled_reset (h : History) (l : PortLayout) (cause : ResetCause) :
    recalled (.reset cause :: h) l = (recalled h l).reset cause := by
  cases cause <;>
    simp [recalled, reset, powered, History.tris, History.lat, History.ansel, History.last?]

/-- A write elsewhere is not remembered. -/
theorem recalled_write_of_not_mem (haddr : addr ∉ l.registers) (value : UInt8) :
    recalled (.write addr value :: h) l = recalled h l := by
  simp only [mem_registers_iff, not_or] at haddr
  obtain ⟨hport, htris, hlat, hansel⟩ := haddr
  have hlatch : addr ∉ l.port :: l.lat.toList := by
    simpa [hport, eq_comm] using hlat
  simp only [recalled, History.tris, History.lat, History.ansel]
  rw [History.last?_write_of_not_mem (by simpa using htris),
    History.last?_write_of_not_mem hlatch,
    History.last?_write_of_not_mem (by simpa [eq_comm] using hansel)]

/-- A write of one of its registers is remembered by that register, the latch by both of its own. -/
theorem recalled_write (hnodup : l.registers.Nodup) {value : UInt8} {q : Port}
    (hwrite : (recalled h l).write? addr value = some q) :
    q = recalled (.write addr value :: h) l := by
  have hlatch : addr ∈ l.port :: l.lat.toList ↔ addr = l.port ∨ some addr = l.lat := by
    simp [eq_comm]
  have hselect : addr ∈ l.ansel.toList ↔ some addr = l.ansel := by simp [eq_comm]
  simp only [write?] at hwrite
  simp only [recalled, History.tris, History.lat, History.ansel, History.last?, hlatch, hselect,
    List.mem_singleton]
  split at hwrite
  · rename_i hport
    change addr = l.port ∨ some addr = l.lat at hport
    have htris : addr ≠ l.tris := by
      rintro rfl
      rcases hport with hport | hlat
      · exact tris_ne_port hnodup hport
      · exact (lat_ne hnodup hlat).2 rfl
    have hansel : ¬ some addr = l.ansel := by
      intro hansel
      rcases hport with hport | hlat
      · exact (ansel_ne hnodup hansel).1 hport
      · exact (ansel_ne hnodup hansel).2.2 hlat
    cases hwrite
    rw [if_pos hport, if_neg htris, if_neg hansel]
    rfl
  rename_i hport
  change ¬ (addr = l.port ∨ some addr = l.lat) at hport
  split at hwrite
  · rename_i htris
    change addr = l.tris at htris
    have hansel : ¬ some addr = l.ansel := fun hansel => (ansel_ne hnodup hansel).2.1 htris
    cases hwrite
    rw [if_neg hport, if_pos htris, if_neg hansel]
    rfl
  rename_i htris
  change ¬ addr = l.tris at htris
  split at hwrite
  · rename_i hansel
    change some addr = l.ansel at hansel
    cases hwrite
    rw [if_neg hport, if_neg htris, if_pos hansel]
    rfl
  · cases hwrite

/-- The latch has no bits without a pin, so that those of the port register need no mask. -/
theorem portValue_recalled (h : History) (l : PortLayout) :
    (recalled h l).portValue = h.portValue l := by
  have hlat : h.lat l &&& l.pinMask = h.lat l := by
    rw [History.lat, UInt8.and_assoc, UInt8.and_self]
  calc (recalled h l).portValue
      = h.lat l &&& ~~~ h.tris l &&& ~~~ h.ansel l &&& l.pinMask := rfl
    _ = h.lat l &&& l.pinMask &&& ~~~ h.tris l &&& ~~~ h.ansel l := by ac_rfl
    _ = h.portValue l := by rw [hlat, History.portValue]

end Port

namespace Contents

/-- The contents after a deed. -/
def undergo (c : Contents) : Deed → Contents
  | .write addr value => c.put addr value
  | .reset cause => c.reset cause

/-- The contents of a described chip are what its history has left. -/
structure Recalls (d : Descriptor) (size : UInt64) (h : History) (c : Contents) : Prop where
  ports_eq : c.ports = d.ports.map (Port.recalled h)
  memory_eq : ∀ a, (∀ l ∈ d.ports, a ∉ l.registers) →
    c.memory.read? a = if a.toNat < size.toNat then some (h.byte a) else none

variable {d : Descriptor} {size : UInt64} {h : History} {c : Contents}

theorem Recalls.decoding_ports (hc : c.Recalls d size h) : c.decoding.ports = d.ports := by
  have hlayout : ((·.layout) ∘ Port.recalled h : PortLayout → PortLayout) = id := rfl
  rw [decoding, hc.ports_eq, List.map_map, hlayout, List.map_id]

/-- An address that no port has is none of the registers that remember a write to it. -/
private theorem map_recalled_write {ports : List PortLayout} {addr : UInt16}
    (hforeign : ∀ l ∈ ports, addr ∉ l.registers) (value : UInt8) :
    ports.map (Port.recalled (.write addr value :: h)) = ports.map (Port.recalled h) :=
  List.map_congr_left fun l hl => Port.recalled_write_of_not_mem (hforeign l hl) value

/-- A write to an address of no port is remembered by data memory, if that goes so far. -/
private theorem Recalls.put_memory (hc : c.Recalls d size h) {addr : UInt16}
    (howner : c.owner? addr = none) (value : UInt8) :
    (c.put addr value).Recalls d size (.write addr value :: h) := by
  have hforeign : ∀ l ∈ d.ports, addr ∉ l.registers := by
    rw [← hc.decoding_ports]
    exact owner?_eq_none_iff.mp howner
  rw [put_of_owner?_eq_none howner]
  refine ⟨by rw [map_recalled_write hforeign]; exact hc.ports_eq, ?_⟩
  intro a ha
  rw [DataMemory.read?_put, hc.memory_eq a ha, History.byte_write]
  by_cases hlt : a.toNat < size.toNat <;> simp [hlt]

/-- A write to a register of a port is remembered by that port and by nothing else. -/
private theorem Recalls.put_port (hnodup : (d.ports.flatMap PortLayout.registers).Nodup)
    (hc : c.Recalls d size h) {addr : UInt16} {i : Nat} (howner : c.owner? addr = some i)
    (value : UInt8) : (c.put addr value).Recalls d size (.write addr value :: h) := by
  obtain ⟨p, q, hp, hclaims, hwrite, hput⟩ := put_of_owner?_eq_some howner value
  obtain ⟨l, hl, rfl⟩ : ∃ l, d.ports[i]? = some l ∧ Port.recalled h l = p := by
    rw [hc.ports_eq, List.getElem?_map] at hp
    exact Option.map_eq_some_iff.mp hp
  have haddr : addr ∈ l.registers := Port.claims_iff.mp hclaims
  have hself : l.registers.Nodup :=
    (List.pairwise_flatMap.mp hnodup).1 l (List.mem_of_getElem? hl)
  rw [hput]
  refine ⟨?_, ?_⟩
  · dsimp only
    rw [hc.ports_eq]
    refine List.ext_getElem? fun j => ?_
    -- The `i`-th port takes the write; no other has the address among its registers.
    by_cases hji : j = i
    · subst hji
      obtain ⟨hlt, hget⟩ := List.getElem?_eq_some_iff.mp hl
      simp [hlt, hget, Port.recalled_write hself hwrite]
    · rw [List.getElem?_set_ne (Ne.symm hji), List.getElem?_map, List.getElem?_map]
      cases hj : d.ports[j]? with
      | none => rfl
      | some l' =>
        have hother : addr ∉ l'.registers := by
          intro haddr'
          have howner' : c.owner? addr = some j := by
            refine owner?_eq_of_nodup (by rwa [hc.decoding_ports]) (p := Port.recalled h l') ?_ haddr'
            rw [hc.ports_eq, List.getElem?_map, hj, Option.map_some]
          exact hji (Option.some.inj (howner'.symm.trans howner))
        rw [Option.map_some, Option.map_some, Port.recalled_write_of_not_mem hother]
  · intro a ha
    have hne : a ≠ addr := by
      rintro rfl
      exact ha l (List.mem_of_getElem? hl) haddr
    rw [History.byte_write, if_neg hne]
    exact hc.memory_eq a ha

theorem Recalls.undergo (hnodup : (d.ports.flatMap PortLayout.registers).Nodup)
    (hc : c.Recalls d size h) (deed : Deed) : (c.undergo deed).Recalls d size (deed :: h) := by
  cases deed with
  | write addr value =>
    cases howner : c.owner? addr with
    | none => exact hc.put_memory howner value
    | some i => exact hc.put_port hnodup howner value
  | reset cause =>
    refine ⟨?_, hc.memory_eq⟩
    rw [Contents.undergo, Contents.reset, hc.ports_eq, List.map_map]
    exact List.map_congr_left fun l _ => (Port.recalled_reset h l cause).symm

/-- A register is read from the port that has it. -/
theorem Recalls.load?_of_mem (hnodup : (d.ports.flatMap PortLayout.registers).Nodup)
    (hc : c.Recalls d size h) {l : PortLayout} (hl : l ∈ d.ports) {a : UInt16}
    (ha : a ∈ l.registers) : c.load? a = (Port.recalled h l).read? a := by
  obtain ⟨i, hi⟩ := List.mem_iff_getElem?.mp hl
  have hport : c.ports[i]? = some (Port.recalled h l) := by
    rw [hc.ports_eq, List.getElem?_map, hi, Option.map_some]
  have hnodup' : (c.decoding.ports.flatMap PortLayout.registers).Nodup := by
    rwa [hc.decoding_ports]
  rw [load?, owner?_eq_of_nodup hnodup' hport ha]
  dsimp only
  rw [hport, Option.bind_some]

/-- What is no register is read from data memory, as far as that goes. -/
theorem Recalls.load?_of_forall (hc : c.Recalls d size h) {a : UInt16}
    (ha : ∀ l ∈ d.ports, a ∉ l.registers) :
    c.load? a = if a.toNat < size.toNat then some (h.byte a) else none := by
  have howner : c.owner? a = none := by
    rw [owner?_eq_none_iff, hc.decoding_ports]
    exact ha
  rw [load?, howner]
  exact hc.memory_eq a ha

end Contents

/-- The trace that an operation leaves in the registers. -/
def BusOp.deed? : BusOp → Option Deed
  | .write addr value => some (.write addr value)
  | .poke addr value => some (.write addr value)
  | .reset cause => some (.reset cause)
  | _ => none

/-- What somebody may do with a bus: an operation, or a change of bits in place, for which a
    register is read and written back. -/
inductive Handling where
  | op (o : BusOp)
  | setBits (addr : UInt16) (mask : UInt8)
  | toggleBits (addr : UInt16) (mask : UInt8)
  deriving DecidableEq, Repr

namespace Handling

def run (b : Bus) : Handling → Except Bus Bus
  | .op o => o.run b
  | .setBits addr mask => Hardware.setBits b addr mask
  | .toggleBits addr mask => Hardware.toggleBits b addr mask

def cycles (cyclesPerNop : UInt64) : Handling → Nat
  | .op o => o.cycles cyclesPerNop
  | .setBits _ _ => 2
  | .toggleBits _ _ => 2

/-- The trace that it leaves. A change in place writes the value that is read there, 0 where nothing
    answers, with its bits set or inverted. -/
def deed? (b : Bus) : Handling → Option Deed
  | .op o => o.deed?
  | .setBits addr mask => some (.write addr ((b.peek? addr).getD 0 ||| mask))
  | .toggleBits addr mask => some (.write addr ((b.peek? addr).getD 0 ^^^ mask))

end Handling

namespace View

/-- The view after a handling for which the cycle counter has room. -/
def handle (v : View) : Handling → View
  | .op o => v.operate o
  | .setBits addr mask => v.modify addr (· ||| mask)
  | .toggleBits addr mask => v.modify addr (· ^^^ mask)

theorem build_handle (v : View) (x : Handling) : (v.handle x).build = v.build := by
  cases x with
  | op o => exact build_operate v o
  | setBits addr mask => exact build_modify v addr (· ||| mask)
  | toggleBits addr mask => exact build_modify v addr (· ^^^ mask)

/-- A handling takes its cycles and leaves sound counters. -/
theorem clock_handle {v : View} (hsound : v.clock.Sound) (x : Handling)
    (hroom : v.clock.cycles.toNat + x.cycles v.clock.cyclesPerNop < UInt64.size) :
    (v.handle x).clock.Sound ∧
      (v.handle x).clock.cycles.toNat =
        v.clock.cycles.toNat + x.cycles v.clock.cyclesPerNop := by
  cases x with
  | op o => exact clock_operate hsound o hroom
  | setBits addr mask =>
    obtain ⟨helapsed, hsound'⟩ := elapsed_modify hsound hroom addr (· ||| mask)
    exact ⟨hsound', helapsed.cycles_eq⟩
  | toggleBits addr mask =>
    obtain ⟨helapsed, hsound'⟩ := elapsed_modify hsound hroom addr (· ^^^ mask)
    exact ⟨hsound', helapsed.cycles_eq⟩

end View

/-- Every handling is the function of the view that bears its name. -/
theorem Handling.run_takes {b : Bus} (hsound : b.clock.Sound) (x : Handling) :
    b.Takes (x.cycles b.cyclesPerNop) (fun b' => b'.view = b.view.handle x) (x.run b) := by
  cases x with
  | op o => exact o.run_takes hsound
  | setBits addr mask => exact Bus.modify_takes hsound addr (· ||| mask)
  | toggleBits addr mask => exact Bus.modify_takes hsound addr (· ^^^ mask)

namespace Bus

/-- A bus after so many cycles in which it was handled, and the trace that this left. -/
structure Handled (b b' : Bus) (cycles : Nat) (deed? : Option Deed) : Prop where
  sound : b'.clock.Sound
  cyclesPerNop_eq : b'.cyclesPerNop = b.cyclesPerNop
  cycles_eq : b'.cycles.toNat = b.cycles.toNat + cycles
  contents_eq : b'.contents = deed?.elim b.contents b.contents.undergo

/-- An operation changes the contents by its deed or not at all. -/
private theorem contents_operate (v : View) (op : BusOp) :
    (v.operate op).contents = op.deed?.elim v.contents v.contents.undergo := by
  cases op with
  | read addr => exact View.contents_read v addr
  | write addr value => exact View.contents_write v addr value
  | poke addr value =>
    rw [View.operate, View.poke?, BusOp.deed?, Option.elim_some, Contents.undergo, Contents.put]
    cases v.contents.store? addr value <;> rfl
  | _ => rfl

private theorem contents_handle (b : Bus) (x : Handling) :
    (b.view.handle x).contents = (x.deed? b).elim b.contents b.contents.undergo := by
  have hmodify : ∀ addr f, (b.view.modify addr f).contents =
      b.contents.undergo (.write addr (f ((b.peek? addr).getD 0))) := by
    intro addr f
    rw [View.contents_modify, peek?_eq_load?]
    rfl
  cases x with
  | op o => exact contents_operate b.view o
  | setBits addr mask => exact hmodify addr (· ||| mask)
  | toggleBits addr mask => exact hmodify addr (· ^^^ mask)

/-- However a bus is handled, it takes its cycles and leaves one trace at most. -/
theorem handling_takes {b : Bus} (hsound : b.clock.Sound) (x : Handling) :
    b.Takes (x.cycles b.cyclesPerNop)
      (fun b' => b.Handled b' (x.cycles b.cyclesPerNop) (x.deed? b)) (x.run b) := by
  refine (x.run_takes hsound).imp fun b' hroom hview => ?_
  obtain ⟨hsound', hcycles⟩ := View.clock_handle (v := b.view) hsound x hroom
  have hbuild := View.build_handle b.view x
  rw [← hview] at hsound' hcycles hbuild
  refine ⟨hsound', congrArg Build.cyclesPerNop hbuild, hcycles, ?_⟩
  rw [contents_eq_of_view hview, contents_handle]

/-- Handles a bus in order, up to the first time that it traps. -/
def handle : Bus → List Handling → Except Bus Bus
  | b, [] => .ok b
  | b, x :: rest =>
    match x.run b with
    | .ok b => b.handle rest
    | .error b => .error b

/-- The deeds of so many handlings, the latest first. -/
def history : Bus → List Handling → History
  | _, [] => []
  | b, x :: rest =>
    match x.run b with
    | .ok b' => b'.history rest ++ (x.deed? b).toList
    | .error _ => []

variable {d : Descriptor} {size : UInt64}

/-- A bus that recalls its past recalls what is done to it next as well, as long as the cycle counter
    has room. -/
theorem exists_handle (hnodup : (d.ports.flatMap PortLayout.registers).Nodup) {b : Bus}
    (hsound : b.clock.Sound) {past : History} (hrecalls : b.contents.Recalls d size past)
    {xs : List Handling}
    (hroom : b.cycles.toNat + (xs.map (·.cycles b.cyclesPerNop)).sum < UInt64.size) :
    ∃ b', b.handle xs = .ok b' ∧ b'.contents.Recalls d size (b.history xs ++ past) := by
  induction xs generalizing b past with
  | nil => exact ⟨b, rfl, hrecalls⟩
  | cons x rest ih =>
    rw [List.map_cons, List.sum_cons] at hroom
    obtain ⟨b', hrun, hhandled⟩ := (handling_takes hsound x).ok (by omega)
    have hnext : b'.contents.Recalls d size ((x.deed? b).toList ++ past) := by
      rw [hhandled.contents_eq]
      cases x.deed? b with
      | none => exact hrecalls
      | some deed => exact hrecalls.undergo hnodup deed
    obtain ⟨b'', hrest, hlast⟩ := ih hhandled.sound hnext (by
      rw [hhandled.cycles_eq, hhandled.cyclesPerNop_eq]
      omega)
    refine ⟨b'', ?_, ?_⟩
    · rw [handle, hrun]
      exact hrest
    · rw [history, hrun]
      dsimp only
      rwa [List.append_assoc]

theorem recalls_powered (d : Descriptor) (size : UInt64) :
    (View.powered d size).contents.Recalls d size [] := by
  refine ⟨?_, fun a _ => DataMemory.read?_blank size a⟩
  exact List.map_congr_left fun l _ => (Port.recalled_nil l).symm

private theorem peek?_of_recalls {b : Bus} {h : History} (hsound : d.Sound size)
    (hrecalls : b.contents.Recalls d size h) {l : PortLayout} (hl : l ∈ d.ports) {a : UInt16}
    (ha : a ∈ l.registers) : b.peek? a = (Port.recalled h l).read? a := by
  rw [peek?_eq_load?]
  exact hrecalls.load?_of_mem hsound.ports.nodup hl ha

/-- What a read finds on a chip that passes the checks, however its bus was handled since it was
    built, is told by the writes and resets alone. Direction and analog select hold the last value
    written since a reset of either cause, the latch the last one written to it or to its port
    register since a power-on reset, a byte of data memory the last one ever written; the port
    register reads the latch where the pin is a digital output. Nothing else answers. The cycle
    counter must have room for the handling; where it has not, the simulation traps. -/
theorem peek?_handle {d : Descriptor} {size : UInt64} (hcheck : d.check = .ok ())
    (hsize : Size.parse d.dataMemory = .ok size) (xs : List Handling)
    (hroom : (xs.map (·.cycles d.cyclesPerDelayIteration)).sum < UInt64.size) :
    ∃ b b', ofDescriptor d = .ok b ∧ b.handle xs = .ok b' ∧
      (∀ l ∈ d.ports,
        b'.peek? l.tris = some ((b.history xs).tris l) ∧
        (∀ a, l.ansel = some a → b'.peek? a = some ((b.history xs).ansel l)) ∧
        (∀ a, l.lat = some a → b'.peek? a = some ((b.history xs).lat l)) ∧
        b'.peek? l.port = some ((b.history xs).portValue l)) ∧
      ∀ a, (∀ l ∈ d.ports, a ∉ l.registers) →
        b'.peek? a = if a.toNat < size.toNat then some ((b.history xs).byte a) else none := by
  obtain ⟨size', hsound⟩ := Descriptor.check_eq_ok_iff.mp hcheck
  obtain rfl : size' = size := Except.ok.inj (hsound.parse.symm.trans hsize)
  obtain ⟨b, hbus, hpowered⟩ := exists_ofDescriptor hsound
  have hclock : b.clock.Sound := by
    rw [clock_eq_of_view hpowered]
    exact View.clock_sound_powered hsound
  have hcycles : b.cycles.toNat = 0 := by
    rw [cycles_eq_of_view hpowered]
    rfl
  have hpace : b.cyclesPerNop = d.cyclesPerDelayIteration :=
    congrArg (fun v => v.clock.cyclesPerNop) hpowered
  have hblank : b.contents.Recalls d size' [] := by
    rw [contents_eq_of_view hpowered]
    exact recalls_powered d size'
  have hroom' : b.cycles.toNat + (xs.map (·.cycles b.cyclesPerNop)).sum < UInt64.size := by
    rwa [hcycles, hpace, Nat.zero_add]
  obtain ⟨b', hrun, hrecalls⟩ := exists_handle hsound.ports.nodup hclock hblank hroom'
  rw [List.append_nil] at hrecalls
  refine ⟨b, b', hbus, hrun, ?_, ?_⟩
  · intro l hl
    have hnodup : (Port.recalled (b.history xs) l).layout.registers.Nodup :=
      (List.pairwise_flatMap.mp hsound.ports.nodup).1 l hl
    have hpeek : ∀ {a}, a ∈ l.registers → b'.peek? a = (Port.recalled (b.history xs) l).read? a :=
      peek?_of_recalls hsound hrecalls hl
    refine ⟨?_, ?_, ?_, ?_⟩
    · rw [hpeek (Port.mem_registers_iff.mpr (.inr (.inl rfl)))]
      exact Port.read?_tris hnodup
    · intro a hansel
      rw [hpeek (Port.mem_registers_iff.mpr (.inr (.inr (.inr hansel.symm))))]
      exact Port.read?_ansel hnodup hansel
    · intro a hlat
      rw [hpeek (Port.mem_registers_iff.mpr (.inr (.inr (.inl hlat.symm))))]
      exact Port.read?_lat hnodup hlat
    · rw [hpeek (Port.mem_registers_iff.mpr (.inl rfl)), ← Port.portValue_recalled]
      exact Port.read?_port (Port.recalled (b.history xs) l)
  · intro a ha
    have howner : b'.contents.owner? a = none := by
      rw [Contents.owner?_eq_none_iff, hrecalls.decoding_ports]
      exact ha
    rw [peek?_eq_load?, Contents.load?, howner]
    exact hrecalls.memory_eq a ha

/-- On the 14-pin part a reset by the watchdog leaves the latch and data memory alone, and of the
    pins that are made outputs after it those read high that are made digital too. -/
theorem peek?_handle_watchdog :
    ∃ b b', ofDescriptor pic16f1823 = .ok b ∧
      b.handle [.op (.poke 0x10E 0xFF), .setBits 0x020 0x81, .op (.write 0x08E 0x01),
        .op (.reset .watchdog), .op (.write 0x08E 0x20), .op (.write 0x18E 0x0C)] = .ok b' ∧
      b'.peek? 0x00E = some 0x13 ∧ b'.peek? 0x020 = some 0x81 ∧ b'.peek? 0x1000 = none := by
  have hhistory : (ofDescriptor pic16f1823).toOption.all (fun b =>
      b.history [.op (.poke 0x10E 0xFF), .setBits 0x020 0x81, .op (.write 0x08E 0x01),
          .op (.reset .watchdog), .op (.write 0x08E 0x20), .op (.write 0x18E 0x0C)] =
        [.write 0x18E 0x0C, .write 0x08E 0x20, .reset .watchdog, .write 0x08E 0x01,
          .write 0x020 0x81, .write 0x10E 0xFF]) = true := by
    decide +kernel
  have hcheck : pic16f1823.check = .ok () := by decide +kernel
  have hsize : Size.parse pic16f1823.dataMemory = .ok 4096 := by decide +kernel
  obtain ⟨b, b', hbus, hrun, hports, hother⟩ :=
    peek?_handle hcheck hsize
      [.op (.poke 0x10E 0xFF), .setBits 0x020 0x81, .op (.write 0x08E 0x01),
        .op (.reset .watchdog), .op (.write 0x08E 0x20), .op (.write 0x18E 0x0C)] (by decide)
  rw [hbus] at hhistory
  have hdeeds := of_decide_eq_true hhistory
  rw [hdeeds] at hports hother
  obtain ⟨-, -, -, hport⟩ := hports _ (List.mem_of_getElem? (show pic16f1823.ports[1]? = _ from rfl))
  exact ⟨b, b', hbus, hrun, hport, hother 0x020 (by decide), hother 0x1000 (by decide)⟩

end Bus

end LedBench.Bench
