import LedBench.Proofs.Bus.History
import LedBench.Proofs.Trace.Runs

namespace LedBench.Bench

open Chip Firmware

/-- The bit of a change among the pins of one port. -/
def Event.bitOf? (port : String) : Event → Option UInt8
  | .pin id bit _ _ => if id = port then some bit else none
  | _ => none

namespace Port

/-- The level of a pin outside the chip. -/
def level (p : Port) (bit : UInt8) : Bool := p.pins &&& (1 <<< bit) ≠ 0

/-- The mask of one bit finds that bit of a byte. -/
theorem and_shift_eq_zero_iff (x : UInt8) {bit : UInt8} (hbit : bit < 8) :
    x &&& (1 <<< bit) = 0 ↔ x.toBitVec.getLsbD bit.toNat = false := by
  have hlt : bit.toNat < 8 := UInt8.lt_iff_toNat_lt.mp hbit
  have hmask : ((1 : UInt8) <<< bit).toBitVec = BitVec.twoPow 8 bit.toNat := by
    have hmod : (bit.toBitVec % 8#8).toNat = bit.toNat := Nat.mod_eq_of_lt hlt
    rw [BitVec.twoPow_eq, ← hmod]
    rfl
  have hne : BitVec.twoPow 8 bit.toNat ≠ 0#8 := by
    intro hzero
    have hself := congrArg (fun y => y.getLsbD bit.toNat) hzero
    simp [hlt] at hself
  rw [← UInt8.toBitVec_inj, UInt8.toBitVec_and, hmask, BitVec.and_twoPow]
  cases x.toBitVec.getLsbD bit.toNat
  · exact ⟨fun _ => rfl, fun _ => rfl⟩
  · exact ⟨fun h => absurd h hne, fun h => Bool.noConfusion h⟩

/-- The pins that differ between two states of a port are those whose level does. -/
theorem xor_pins_eq_zero_iff {p q : Port} {bit : UInt8} (hbit : bit < 8) :
    (p.pins ^^^ q.pins) &&& (1 <<< bit) = 0 ↔ p.level bit = q.level bit := by
  rw [and_shift_eq_zero_iff _ hbit, UInt8.toBitVec_xor, BitVec.getLsbD_xor, level, level,
    decide_eq_decide, ne_eq, ne_eq, and_shift_eq_zero_iff _ hbit, and_shift_eq_zero_iff _ hbit]
  cases p.pins.toBitVec.getLsbD bit.toNat <;> cases q.pins.toBitVec.getLsbD bit.toNat <;> simp

/-- The bits of a port register. -/
def bits : List UInt8 := [0, 1, 2, 3, 4, 5, 6, 7]

theorem mem_bits {bit : UInt8} : bit ∈ bits ↔ bit < 8 := by
  constructor
  · have hall : bits.all (· < 8) = true := rfl
    intro hbit
    exact of_decide_eq_true (List.all_eq_true.mp hall bit hbit)
  · intro hlt
    exact forall_byte_lt (P := (· ∈ bits)) (by decide) (UInt8.lt_iff_toNat_lt.mp hlt)

/-- The pins whose level differs are told with their new level. -/
theorem pinChanges_eq_levels (p q : Port) :
    pinChanges p q = bits.filterMap fun bit =>
      if p.level bit = q.level bit then none else some (bit, q.level bit) := by
  refine List.filterMap_congr fun bit hbit => ?_
  simp only [xor_pins_eq_zero_iff (mem_bits.mp hbit)]
  rfl

/-- The change of one pin between two states of a port, if its level differs. -/
theorem filterMap_pinChanges {β : Type} {p q : Port} {bit : UInt8} (hbit : bit < 8)
    {f : UInt8 × Bool → Option β} (hother : ∀ change, change.1 ≠ bit → f change = none) :
    (pinChanges p q).filterMap f =
      if p.level bit = q.level bit then [] else (f (bit, q.level bit)).toList := by
  have hnodup : bits.Nodup := by decide
  obtain ⟨i, hi⟩ := List.mem_iff_getElem?.mp (mem_bits.mpr hbit)
  rw [pinChanges_eq_levels, List.filterMap_filterMap, List.filterMap_eq_flatMap_toList,
    Contents.flatMap_eq_of_unique hi]
  · split <;> rfl
  · intro j b hj hb
    have hne : b ≠ bit := by
      rintro rfl
      have hlt : j < bits.length := (List.getElem?_eq_some_iff.mp hb).1
      exact hj ((List.getElem?_inj hlt hnodup).mp (hb.trans hi.symm))
    split
    · rfl
    · rw [Option.bind_some, hother _ hne]
      rfl

/-- The changes of a port are told in ascending order of their bits, and each once. -/
theorem pairwise_pinChanges (p q : Port) :
    ((pinChanges p q).map (·.1)).Pairwise (· < ·) := by
  have hbits : bits.Pairwise (· < ·) := by decide
  rw [pinChanges_eq_levels, List.map_filterMap]
  refine List.Pairwise.filterMap _ ?_ hbits
  intro a b hab x hx y hy
  have hself : ∀ {bit found : UInt8}, found ∈ (if p.level bit = q.level bit then none
      else some (bit, q.level bit)).map (·.1) → found = bit := by
    intro bit found hfound
    split at hfound
    · cases hfound
    · cases hfound
      rfl
  rwa [hself hx, hself hy]

end Port

/-- The port at this place, of which there is no other with its name. -/
structure Decoding.Names (k : Decoding) (l : PortLayout) (i : Nat) : Prop where
  place : k.ports[i]? = some l
  unique : ∀ j l', k.ports[j]? = some l' → l'.id = l.id → j = i

/-- Where no address is given twice, no port is there twice. -/
private theorem exists_names {k : Decoding}
    (hnodup : (k.ports.flatMap PortLayout.registers).Nodup) {l : PortLayout} (hl : l ∈ k.ports)
    (hunique : ∀ l' ∈ k.ports, l'.id = l.id → l' = l) : ∃ i, k.Names l i := by
  have hports : k.ports.Nodup := by
    refine (List.pairwise_flatMap.mp hnodup).2.imp ?_
    rintro l l' hapart rfl
    have hport : l.port ∈ l.registers := Port.mem_registers_iff.mpr (.inl rfl)
    exact hapart l.port hport l.port hport rfl
  obtain ⟨i, hi⟩ := List.mem_iff_getElem?.mp hl
  refine ⟨i, hi, ?_⟩
  intro j l' hj hid
  obtain rfl := hunique l' (List.mem_of_getElem? hj) hid
  exact (List.getElem?_inj (List.getElem?_eq_some_iff.mp hj).1 hports).mp (hj.trans hi.symm)

namespace Contents

variable {c c' : Contents} {l : PortLayout} {i : Nat} {p q : Port}

/-- Of the reports of a change, those that speak of one port alone are its own. -/
theorem filterMap_pinEvents {β : Type} (hnames : c'.decoding.Names l i) (hp : c.ports[i]? = some p)
    (hq : c'.ports[i]? = some q) {f : Event → Option β}
    (hother : ∀ id bit level cycle, id ≠ l.id → f (.pin id bit level cycle) = none)
    (cycle : UInt64) :
    (c.pinEvents c' cycle).filterMap f =
      (Port.pinChanges p q).filterMap fun change => f (.pin l.id change.1 change.2 cycle) := by
  have hlayout : q.layout = l := Option.some.inj ((place_of_port hq).symm.trans hnames.place)
  have hzip : (c.ports.zip c'.ports)[i]? = some (p, q) := List.getElem?_zip_eq_some.mpr ⟨hp, hq⟩
  rw [pinEvents, List.filterMap_flatMap, flatMap_eq_of_unique hzip]
  · dsimp only
    rw [List.filterMap_map, hlayout]
    rfl
  · rintro j ⟨p', q'⟩ hj hpair
    obtain ⟨-, hq'⟩ := List.getElem?_zip_eq_some.mp hpair
    have hid : q'.layout.id ≠ l.id := fun hid => hj (hnames.unique j _ (place_of_port hq') hid)
    simp [List.filterMap_map, hother _ _ _ _ hid]

/-- The port of that name is the one at this place. -/
theorem find?_of_names (hnames : c.decoding.Names l i) (hq : c.ports[i]? = some q) :
    c.ports.find? (·.layout.id = l.id) = some q := by
  have hlayout : q.layout = l := Option.some.inj ((place_of_port hq).symm.trans hnames.place)
  obtain ⟨hi, hget⟩ := List.getElem?_eq_some_iff.mp hq
  refine List.find?_eq_some_iff_getElem.mpr ⟨by simp [hlayout], i, hi, hget, ?_⟩
  intro j hj
  have hne : j ≠ i := Nat.ne_of_lt hj
  have hplace := place_of_port (List.getElem?_eq_getElem (Nat.lt_trans hj hi))
  simpa using fun hid => hne (hnames.unique j _ hplace hid)

end Contents

namespace View

/-- All that an operation tells: a write, if it is one, and then the pins that it changed. -/
def Tells (v w : View) : Prop :=
  ∃ write? : Option (UInt16 × UInt8),
    w.events = v.events ++ (write?.map fun (addr, value) => Event.write addr value).toList ++
      v.contents.pinEvents w.contents w.clock.cycles

variable {v w : View}

theorem tells_of_contents_eq (hevents : w.events = v.events)
    (hcontents : w.contents = v.contents) : v.Tells w := by
  refine ⟨none, ?_⟩
  rw [hevents, hcontents, Contents.pinEvents_of_ports_eq rfl]
  simp

private theorem tells_of_poke? {addr : UInt16} {value : UInt8} (h : v.poke? addr value = some w) :
    v.Tells w := by
  obtain ⟨c, -, rfl⟩ := Option.map_eq_some_iff.mp h
  exact ⟨some (addr, value), by simp⟩

theorem tells_write (v : View) (addr : UInt16) (value : UInt8) : v.Tells (v.write addr value) := by
  have hidle : ((v.lapse 1).latch addr).events = v.events := rfl
  rw [write]
  cases hpoke : (v.lapse 1).poke? addr value with
  | none => exact tells_of_contents_eq hidle rfl
  | some w =>
    obtain ⟨write?, hevents⟩ := tells_of_poke? hpoke
    exact ⟨write?, hevents⟩

theorem tells_modify (v : View) (addr : UInt16) (f : UInt8 → UInt8) :
    v.Tells (v.modify addr f) := by
  obtain ⟨write?, hevents⟩ := tells_write (v.read addr) addr (f (v.load addr))
  rw [events_read, contents_read] at hevents
  exact ⟨write?, hevents⟩

theorem tells_operate (v : View) (op : BusOp) : v.Tells (v.operate op) := by
  cases op with
  | read addr => exact tells_of_contents_eq (events_read v addr) (contents_read v addr)
  | write addr value => exact tells_write v addr value
  | nop => exact tells_of_contents_eq rfl rfl
  | poke addr value =>
    rw [operate]
    cases hpoke : v.poke? addr value with
    | none => exact tells_of_contents_eq rfl rfl
    | some w => exact tells_of_poke? hpoke
  | reset cause => exact ⟨none, by simp [operate, reset, Clock.reset]⟩
  | burn word => exact tells_of_contents_eq rfl rfl
  | takeFault => exact tells_of_contents_eq rfl rfl
  | takeResetRequest => exact tells_of_contents_eq rfl rfl

theorem tells_handle (v : View) (x : Handling) : v.Tells (v.handle x) := by
  cases x with
  | op o => exact tells_operate v o
  | setBits addr mask => exact tells_modify v addr (· ||| mask)
  | toggleBits addr mask => exact tells_modify v addr (· ^^^ mask)

/-- What an operation tells of one port are the pins that it changed there, and nothing else. -/
theorem Tells.exists_told (h : v.Tells w) {l : PortLayout} {i : Nat}
    (hnames : w.contents.decoding.Names l i) {p q : Port} (hp : v.contents.ports[i]? = some p)
    (hq : w.contents.ports[i]? = some q) :
    ∃ told, w.events = v.events ++ told ∧
      ∀ {β : Type} (f : Event → Option β), (∀ addr value, f (.write addr value) = none) →
        (∀ id bit level cycle, id ≠ l.id → f (.pin id bit level cycle) = none) →
        told.filterMap f =
          (Port.pinChanges p q).filterMap fun change =>
            f (.pin l.id change.1 change.2 w.clock.cycles) := by
  obtain ⟨write?, hevents⟩ := h
  refine ⟨_, hevents.trans (List.append_assoc ..), ?_⟩
  intro β f hwrite hother
  have hnone :
      (write?.map fun (addr, value) => Event.write addr value).toList.filterMap f = [] := by
    cases write? with
    | none => rfl
    | some written => exact List.filterMap_cons_none (hwrite written.1 written.2)
  rw [List.filterMap_append, hnone, List.nil_append,
    Contents.filterMap_pinEvents hnames hp hq hother]

/-- An operation adds to the changes of one pin its own, if it changed that pin. -/
theorem Tells.changes (h : v.Tells w) {l : PortLayout} {i : Nat}
    (hnames : w.contents.decoding.Names l i) {p q : Port} (hp : v.contents.ports[i]? = some p)
    (hq : w.contents.ports[i]? = some q) {bit : UInt8} (hbit : bit < 8) :
    w.events.filterMap (Event.change? ⟨l.id, bit⟩) =
      v.events.filterMap (Event.change? ⟨l.id, bit⟩) ++
        if p.level bit = q.level bit then [] else [(q.level bit, w.clock.cycles)] := by
  obtain ⟨told, hevents, htold⟩ := h.exists_told hnames hp hq
  rw [hevents, List.filterMap_append, htold _ (fun _ _ => rfl), Port.filterMap_pinChanges hbit]
  · simp [Event.change?]
  · intro change hne
    simp [Event.change?, hne]
  · intro id b level cycle hid
    simp [Event.change?, hid]

/-- An operation tells of every pin of a port once at most, and of its pins in ascending order. -/
theorem Tells.pairwise (h : v.Tells w) {l : PortLayout} {i : Nat}
    (hdecoding : w.contents.decoding = v.contents.decoding)
    (hnames : w.contents.decoding.Names l i) :
    ∃ told, w.events = v.events ++ told ∧
      (told.filterMap (Event.bitOf? l.id)).Pairwise (· < ·) := by
  obtain ⟨p, hp, -⟩ := Contents.exists_port_of_place (hdecoding ▸ hnames.place)
  obtain ⟨q, hq, -⟩ := Contents.exists_port_of_place hnames.place
  obtain ⟨told, hevents, htold⟩ := h.exists_told hnames hp hq
  refine ⟨told, hevents, ?_⟩
  rw [htold _ (fun _ _ => rfl)]
  · simpa [Event.bitOf?, List.filterMap_eq_map'] using Port.pairwise_pinChanges p q
  · intro id b level cycle hid
    simp [Event.bitOf?, hid]

end View

/-- The changes of a pin up to now: from low on it has gone up and down by turns, in the order of
    the cycles so far, and it was last set to this level. -/
structure Chronicle (level : Bool) (now : UInt64) (changes : List (Bool × UInt64)) : Prop where
  alternates : (false :: changes.map (·.1)).IsChain (· ≠ ·)
  last_eq : (changes.getLast?.map (·.1)).getD false = level
  ordered : (changes.map (·.2)).Pairwise (· ≤ ·)
  past : ∀ change ∈ changes, change.2 ≤ now

namespace Chronicle

variable {level : Bool} {now : UInt64} {changes : List (Bool × UInt64)}

theorem nil (now : UInt64) : Chronicle false now [] := by
  refine ⟨?_, rfl, ?_, ?_⟩ <;> simp

private theorem getLast?_levels (h : Chronicle level now changes) :
    (false :: changes.map (·.1)).getLast? = some level := by
  rw [List.getLast?_cons, List.getLast?_map, h.last_eq]

/-- The next change of a pin, or none where its level is the same, goes on with the chronicle. -/
theorem extend (h : Chronicle level now changes) {later : UInt64} (hle : now ≤ later)
    (next : Bool) :
    Chronicle next later (changes ++ if level = next then [] else [(next, later)]) := by
  have hpast : ∀ change ∈ changes, change.2 ≤ later :=
    fun change hchange => UInt64.le_trans (h.past change hchange) hle
  by_cases heq : level = next
  · subst heq
    rw [if_pos rfl, List.append_nil]
    exact ⟨h.alternates, h.last_eq, h.ordered, hpast⟩
  · rw [if_neg heq]
    refine ⟨?_, ?_, ?_, ?_⟩
    · rw [List.map_append, ← List.cons_append]
      refine h.alternates.append (List.isChain_singleton _) ?_
      intro before hbefore after hafter
      rw [getLast?_levels h] at hbefore
      cases hbefore
      cases hafter
      exact heq
    · simp
    · rw [List.map_append, List.pairwise_append]
      refine ⟨h.ordered, List.pairwise_singleton .., ?_⟩
      intro cycle hcycle last hlast
      obtain ⟨change, hchange, rfl⟩ := List.mem_map.mp hcycle
      obtain rfl : last = later := by simpa using hlast
      exact hpast change hchange
    · simpa [or_imp, forall_and] using hpast

/-- However it is interleaved with other news, a trace of such changes finds that they alternate,
    and measures its intervals without a wrap. -/
theorem trace {pin : PinRef} {seen : List Event}
    (h : Chronicle level now (seen.filterMap (Event.change? pin))) :
    (Trace.ofEvents pin seen).alternates = true ∧
      (Trace.ofEvents pin seen).intervals?.isSome = true := by
  have halternates := h.alternates.tail
  have hordered := h.ordered
  rw [← Trace.changes_ofEvents, List.map_map] at halternates hordered
  exact ⟨Trace.alternates_of_isChain halternates, Trace.isSome_intervals?_of_pairwise hordered⟩

end Chronicle

namespace Bus

/-- A bus on which the changes of this pin so far are its chronicle. -/
structure Tracks (k : Decoding) (l : PortLayout) (i : Nat) (bit : UInt8) (b : Bus) : Prop where
  sound : b.clock.Sound
  decoding_eq : b.contents.decoding = k
  chronicle : ∃ q, b.contents.ports[i]? = some q ∧ q.layout = l ∧
    Chronicle (q.level bit) b.cycles (b.journal.events.filterMap (Event.change? ⟨l.id, bit⟩))

variable {k : Decoding} {l : PortLayout} {i : Nat} {bit : UInt8} {b b' : Bus}

/-- However a bus is handled, it tells of a write at most and of the pins that changed. -/
theorem tells_of_handling (hsound : b.clock.Sound) {x : Handling} (hrun : x.run b = .ok b') :
    b.view.Tells b'.view ∧ b'.view.build = b.view.build := by
  have htakes := x.run_takes hsound
  rw [hrun] at htakes
  rw [htakes.2]
  exact ⟨View.tells_handle b.view x, View.build_handle b.view x⟩

theorem Tracks.run (hnames : k.Names l i) (hbit : bit < 8) (h : b.Tracks k l i bit) {x : Handling}
    (hrun : x.run b = .ok b') : b'.Tracks k l i bit := by
  obtain ⟨p, hp, -, hchronicle⟩ := h.chronicle
  obtain ⟨htells, hbuild⟩ := tells_of_handling h.sound hrun
  have hhandled := handling_takes h.sound x
  rw [hrun] at hhandled
  have hdecoding : b'.contents.decoding = k :=
    (View.decoding_eq_of_build hbuild).trans h.decoding_eq
  have hnames' : b'.view.contents.decoding.Names l i := hdecoding ▸ hnames
  obtain ⟨q, hq, hlayout⟩ := Contents.exists_port_of_place hnames'.place
  have hle : b.cycles ≤ b'.cycles := by
    rw [UInt64.le_iff_toNat_le, hhandled.2.cycles_eq]
    exact Nat.le_add_right _ _
  refine ⟨hhandled.2.sound, hdecoding, q, hq, hlayout, ?_⟩
  have hchanges := htells.changes hnames' hp hq hbit
  change b'.journal.events.filterMap _ = _ at hchanges
  rw [hchanges]
  exact hchronicle.extend hle (q.level bit)

/-- As long as the cycle counter has room, a bus on which a pin is tracked stays one. -/
theorem Tracks.exists_handle (hnames : k.Names l i) (hbit : bit < 8) (h : b.Tracks k l i bit)
    {xs : List Handling}
    (hroom : b.cycles.toNat + (xs.map (·.cycles b.cyclesPerNop)).sum < UInt64.size) :
    ∃ b', b.handle xs = .ok b' ∧ b'.Tracks k l i bit := by
  induction xs generalizing b with
  | nil => exact ⟨b, rfl, h⟩
  | cons x rest ih =>
    rw [List.map_cons, List.sum_cons] at hroom
    obtain ⟨b', hrun, hhandled⟩ := (handling_takes h.sound x).ok (by omega)
    obtain ⟨b'', hrest, hlast⟩ := ih (h.run hnames hbit hrun) (by
      rw [hhandled.cycles_eq, hhandled.cyclesPerNop_eq]
      omega)
    refine ⟨b'', ?_, hlast⟩
    rw [handle, hrun]
    exact hrest

private theorem tracks_powered {d : Descriptor} {size : UInt64} (hsound : d.Sound size)
    (hnames : (Build.ofDescriptor d size).decoding.Names l i) (bit : UInt8)
    (hpowered : b.view = .powered d size) :
    b.Tracks (Build.ofDescriptor d size).decoding l i bit := by
  have hevents : b.journal.events = [] := congrArg View.events hpowered
  refine ⟨?_, ?_, Port.powered l, ?_, rfl, ?_⟩
  · rw [clock_eq_of_view hpowered]
    exact View.clock_sound_powered hsound
  · have hbuild := (congrArg View.build hpowered).trans (View.build_powered hsound)
    exact congrArg Build.decoding hbuild
  · rw [contents_eq_of_view hpowered]
    have hplace : d.ports[i]? = some l := hnames.place
    simp [View.powered, hplace]
  · rw [hevents]
    have hlow : (Port.powered l).level bit = false := by
      simp [Port.level, Port.pins, Port.powered]
    rw [hlow]
    exact Chronicle.nil b.cycles

/-- On a chip that passes the checks the changes of a pin are told completely, each once and in
    order, however the bus was handled since it was built. They go up and down by turns, first up;
    the last of them, or low where there is none, is the level that the port gives its pin now; and
    their cycles never go down nor past the present one. What is done next tells of no pin of the
    port twice, and of its pins in ascending order. So a trace of the pin, whatever else it hears
    between these changes, such as resets, finds that they alternate and measures its intervals
    without a wrap. The port must be the only one of its name, and the cycle counter must have room
    for the handling; where it has not, the simulation traps. -/
theorem changes_handle {d : Descriptor} (hcheck : d.check = .ok ()) {l : PortLayout}
    (hl : l ∈ d.ports) (hunique : ∀ l' ∈ d.ports, l'.id = l.id → l' = l) {bit : UInt8}
    (hbit : bit < 8) (xs : List Handling)
    (hroom : (xs.map (·.cycles d.cyclesPerDelayIteration)).sum < UInt64.size) :
    ∃ b b' q, ofDescriptor d = .ok b ∧ b.handle xs = .ok b' ∧
      b'.chip.port? l.id = some q ∧ q.layout = l ∧
      Chronicle (q.level bit) b'.cycles
        (b'.journal.events.filterMap (Event.change? ⟨l.id, bit⟩)) ∧
      b'.pinLevel ⟨l.id, bit⟩ = .ok (q.level bit) ∧
      (∀ x b'', Handling.run b' x = .ok b'' →
        ∃ told, b''.journal.events = b'.journal.events ++ told ∧
          (told.filterMap (Event.bitOf? l.id)).Pairwise (· < ·)) ∧
      ∀ seen : List Event,
        seen.filterMap (Event.change? ⟨l.id, bit⟩) =
            b'.journal.events.filterMap (Event.change? ⟨l.id, bit⟩) →
          (Trace.ofEvents ⟨l.id, bit⟩ seen).alternates = true ∧
            (Trace.ofEvents ⟨l.id, bit⟩ seen).intervals?.isSome = true := by
  obtain ⟨size, hsound⟩ := Descriptor.check_eq_ok_iff.mp hcheck
  obtain ⟨b, hbus, hpowered⟩ := exists_ofDescriptor hsound
  obtain ⟨i, hnames⟩ := exists_names (k := (Build.ofDescriptor d size).decoding)
    hsound.ports.nodup hl hunique
  have hcycles : b.cycles.toNat = 0 := by
    rw [cycles_eq_of_view hpowered]
    rfl
  have hpace : b.cyclesPerNop = d.cyclesPerDelayIteration :=
    congrArg (fun v => v.clock.cyclesPerNop) hpowered
  have hfits : b.cycles.toNat + (xs.map (·.cycles b.cyclesPerNop)).sum < UInt64.size := by
    rwa [hcycles, hpace, Nat.zero_add]
  obtain ⟨b', hrun, htracks⟩ :=
    (tracks_powered hsound hnames bit hpowered).exists_handle hnames hbit hfits
  have hnames' : b'.contents.decoding.Names l i := htracks.decoding_eq ▸ hnames
  obtain ⟨q, hq, hlayout, hchronicle⟩ := htracks.chronicle
  have hport : b'.chip.port? l.id = some q := Contents.find?_of_names hnames' hq
  refine ⟨b, b', q, hbus, hrun, hport, hlayout, hchronicle, ?_, ?_, ?_⟩
  · rw [pinLevel, hport]
    dsimp only
    rw [if_pos hbit, Port.level]
  · intro x b'' hx
    obtain ⟨htells, hbuild⟩ := tells_of_handling htracks.sound hx
    have hdecoding := View.decoding_eq_of_build hbuild
    exact htells.pairwise hdecoding (by rw [hdecoding]; exact hnames')
  · intro seen hseen
    rw [← hseen] at hchronicle
    exact hchronicle.trace

/-- On the 14-pin part a pin that is up when the watchdog resets the chip goes down as the port
    becomes an input, and up again when it is made an output, since the latch has kept its bit. -/
theorem changes_handle_watchdog :
    ∃ b b', ofDescriptor pic16f1823 = .ok b ∧
      b.handle [.op (.poke 0x08E 0x00), .setBits 0x00E 0x06, .op (.reset .watchdog), .op .nop,
        .op (.write 0x08E 0x3B)] = .ok b' ∧
      Chronicle true b'.cycles [(true, 2), (false, 2), (true, 4)] ∧
      b'.pinLevel ⟨"portc", 2⟩ = .ok true := by
  have hchanges : (ofDescriptor pic16f1823).toOption.all (fun b =>
      (b.handle [.op (.poke 0x08E 0x00), .setBits 0x00E 0x06, .op (.reset .watchdog), .op .nop,
        .op (.write 0x08E 0x3B)]).toOption.all fun b' =>
          b'.journal.events.filterMap (Event.change? ⟨"portc", 2⟩) =
            [(true, 2), (false, 2), (true, 4)]) = true := by
    decide +kernel
  have hbit : (2 : UInt8) < 8 := by decide
  obtain ⟨b, b', q, hbus, hrun, -, -, hchronicle, hlevel, -⟩ :=
    changes_handle (d := pic16f1823) (by decide +kernel)
      (List.mem_of_getElem? (show pic16f1823.ports[1]? = _ from rfl)) (by decide) hbit
      [.op (.poke 0x08E 0x00), .setBits 0x00E 0x06, .op (.reset .watchdog), .op .nop,
        .op (.write 0x08E 0x3B)] (by decide)
  rw [hbus] at hchanges
  dsimp only [Except.toOption, Option.all] at hchanges
  rw [hrun] at hchanges
  rw [of_decide_eq_true hchanges] at hchronicle
  have hlit : q.level 2 = true := hchronicle.last_eq.symm
  rw [hlit] at hchronicle hlevel
  exact ⟨b, b', hbus, hrun, hchronicle, hlevel⟩

end Bus

end LedBench.Bench
