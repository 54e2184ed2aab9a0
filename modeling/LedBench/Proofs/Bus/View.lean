import LedBench.Proofs.Bus.Clock
import LedBench.Proofs.Bus.Contents

namespace LedBench.Bench

open Chip Firmware

/-- What can be known of a bus, its log apart. The operations of a bus are total functions of it,
under the same names. -/
structure View where
  clock : Clock
  contents : Contents
  /-- The first failed access that nobody has asked for yet. -/
  fault : Option UInt16
  configWord : UInt16
  events : List Event

def Bus.view (b : Bus) : View :=
  ⟨b.clock, b.contents, b.chip.fault, b.chip.configWord, b.journal.events⟩

namespace View

def emit (e : Event) (v : View) : View := { v with events := v.events ++ [e] }

def lapse (cycles : UInt64) (v : View) : View := { v with clock := v.clock.lapse cycles }

/-- Keeps a failed access, unless an earlier one is still kept. -/
def latch (addr : UInt16) (v : View) : View := { v with fault := v.fault <|> some addr }

/-- What a read of the program sees: 0 where nothing answers. -/
def load (v : View) (addr : UInt16) : UInt8 := (v.contents.load? addr).getD 0

def read (addr : UInt16) (v : View) : View :=
  if v.contents.decoding.Maps addr then v.lapse 1 else (v.lapse 1).latch addr

/-- The view after a byte is put at an address, if something answers there. -/
def poke? (addr : UInt16) (value : UInt8) (v : View) : Option View :=
  (v.contents.store? addr value).map fun c =>
    { v with
      contents := c
      events := v.events ++ .write addr value :: v.contents.pinEvents c v.clock.cycles }

def write (addr : UInt16) (value : UInt8) (v : View) : View :=
  ((v.lapse 1).poke? addr value).getD ((v.lapse 1).latch addr)

/-- The view after a register is read, changed and written back. -/
def modify (addr : UInt16) (f : UInt8 → UInt8) (v : View) : View :=
  (v.read addr).write addr (f (v.load addr))

def delay (count : Nat) (v : View) : View := { v with clock := v.clock.delay count }

def burn (word : UInt16) (v : View) : View :=
  { v with configWord := word, clock := v.clock.burn word }

def reset (cause : ResetCause) (v : View) : View :=
  { v with
    contents := v.contents.reset cause
    clock := v.clock.reset
    events := v.events ++ v.contents.pinEvents (v.contents.reset cause) v.clock.cycles }

/-- The view once the fault has been asked for. -/
def settle (v : View) : View := { v with fault := none }

def release (v : View) : View := { v with clock := v.clock.release }

@[simp] theorem fault_emit (v : View) (e : Event) : (v.emit e).fault = v.fault := rfl

@[simp] theorem events_emit (v : View) (e : Event) : (v.emit e).events = v.events ++ [e] := rfl

@[simp] theorem clock_release (v : View) : v.release.clock = v.clock.release := rfl

@[simp] theorem contents_release (v : View) : v.release.contents = v.contents := rfl

@[simp] theorem fault_release (v : View) : v.release.fault = v.fault := rfl

@[simp] theorem events_release (v : View) : v.release.events = v.events := rfl

theorem settle_eq_self {v : View} (h : v.fault = none) : v.settle = v := by
  simp only [settle, ← h]

theorem release_eq_self {v : View} (h : v.clock.resetRequested = false) : v.release = v := by
  simp only [release, Clock.release, ← h]

@[simp] theorem clock_delay (v : View) (count : Nat) :
    (v.delay count).clock = v.clock.delay count := rfl

@[simp] theorem contents_delay (v : View) (count : Nat) :
    (v.delay count).contents = v.contents := rfl

@[simp] theorem fault_delay (v : View) (count : Nat) : (v.delay count).fault = v.fault := rfl

@[simp] theorem events_delay (v : View) (count : Nat) : (v.delay count).events = v.events := rfl

theorem clock_read (v : View) (addr : UInt16) : (v.read addr).clock = v.clock.lapse 1 := by
  unfold read
  split <;> rfl

theorem contents_read (v : View) (addr : UInt16) : (v.read addr).contents = v.contents := by
  unfold read
  split <;> rfl

theorem events_read (v : View) (addr : UInt16) : (v.read addr).events = v.events := by
  unfold read
  split <;> rfl

theorem clock_write (v : View) (addr : UInt16) (value : UInt8) :
    (v.write addr value).clock = v.clock.lapse 1 := by
  simp only [write, poke?]
  cases (v.lapse 1).contents.store? addr value <;> rfl

theorem contents_write (v : View) (addr : UInt16) (value : UInt8) :
    (v.write addr value).contents = v.contents.put addr value := by
  have hcontents : (v.lapse 1).contents = v.contents := rfl
  simp only [write, poke?, hcontents, Contents.put]
  cases v.contents.store? addr value <;> rfl

theorem contents_modify (v : View) (addr : UInt16) (f : UInt8 → UInt8) :
    (v.modify addr f).contents = v.contents.put addr (f (v.load addr)) := by
  rw [modify, contents_write, contents_read]

theorem clock_modify (v : View) (addr : UInt16) (f : UInt8 → UInt8) :
    (v.modify addr f).clock = (v.clock.lapse 1).lapse 1 := by
  rw [modify, clock_write, clock_read]

end View

theorem Journal.events_push_event (j : Journal) (e : Event) :
    Journal.events (j.push (.event e)) = Journal.events j ++ [e] := by
  simp [Journal.events]

theorem Journal.events_push_note (j : Journal) (n : Note) :
    Journal.events (j.push (.note n)) = Journal.events j := by
  simp [Journal.events]

namespace Bus

theorem view_emit (b : Bus) (e : Event) : (b.emit e).view = b.view.emit e := by
  simp [view, View.emit, emit, Journal.events_push_event, clock, contents]

theorem view_note (b : Bus) (n : Note) : (b.note n).view = b.view := by
  simp [view, note, Journal.events_push_note, clock, contents]

theorem view_burn (b : Bus) (word : UInt16) : (b.burn word).view = b.view.burn word := rfl

theorem view_takeFault (b : Bus) : b.takeFault.2.view = b.view.settle := rfl

theorem view_takeResetRequest (b : Bus) : b.takeResetRequest.2.view = b.view.release := rfl

theorem view_latch (b : Bus) (addr : UInt16) : (b.latch addr).view = b.view.latch addr := by
  unfold latch
  cases hfault : b.chip.fault with
  | some first => simp [View.latch, view, hfault]
  | none =>
    simp [View.latch, view, hfault, note, Journal.events_push_note, clock, contents,
      ChipState.contents]

theorem peek?_eq_load? (b : Bus) (addr : UInt16) : b.peek? addr = b.contents.load? addr :=
  Contents.read?_eq_load? b.chip addr

/-- Reports add events and nothing else. -/
theorem view_reportPins (b : Bus) (p q : Port) :
    (b.reportPins p q).view =
      { b.view with
        events := b.view.events ++
          (Port.pinChanges p q).map fun (bit, level) => .pin q.layout.id bit level b.cycles } := by
  unfold reportPins
  generalize Port.pinChanges p q = changes
  induction changes generalizing b with
  | nil => simp
  | cons change rest ih =>
    rw [List.foldl_cons, ih, view_emit]
    simp [View.emit, emit]

/-- A write without an instruction succeeds where something answers, and shows itself and the pins
    that it changes. -/
theorem view_poke? (b : Bus) (addr : UInt16) (value : UInt8) :
    (b.poke? addr value).map Bus.view = b.view.poke? addr value := by
  have hview : b.view.poke? addr value = (b.contents.store? addr value).map fun c =>
      { b.view with
        contents := c
        events := b.view.events ++ .write addr value :: b.contents.pinEvents c b.cycles } := rfl
  rw [hview, poke?, Contents.store?]
  cases hidx : b.chip.ports.findIdx? (·.claims addr) with
  | none =>
    have howner : b.contents.owner? addr = none := hidx
    have hmemory : b.contents.memory = b.chip.memory := rfl
    simp only [howner, hmemory]
    cases b.chip.memory.write? addr value with
    | none => rfl
    | some m =>
      simp only [Option.bind_eq_bind, Option.bind_some, Option.map_some, Option.pure_def,
        view_emit, Contents.pinEvents_of_ports_eq (c := b.contents) (d := ⟨m, b.contents.ports⟩) rfl]
      rfl
  | some i =>
    obtain ⟨hi, hclaims, _⟩ := List.findIdx?_eq_some_iff_getElem.mp hidx
    have howner : b.contents.owner? addr = some i := hidx
    have hport : b.chip.ports[i]? = some b.chip.ports[i] := List.getElem?_eq_getElem hi
    have hcontents : b.contents.ports[i]? = some b.chip.ports[i] := hport
    obtain ⟨q, hq⟩ := Option.isSome_iff_exists.mp (Port.write?_isSome_of_claims hclaims value)
    simp only [howner, hport, hcontents, hq, Option.bind_eq_bind, Option.bind_some,
      Option.map_some, Option.pure_def, view_reportPins, view_note, view_emit,
      Contents.pinEvents_set hcontents]
    simp [View.emit, view, note, emit, clock, contents, ChipState.contents]

/-- Port by port, the reports of a reset. -/
theorem view_foldl_reportPins (b : Bus) (pairs : List (Port × Port)) :
    (pairs.foldl (fun b (before, after) => b.reportPins before after) b).view =
      { b.view with
        events := b.view.events ++ pairs.flatMap fun (p, q) =>
          (Port.pinChanges p q).map fun (bit, level) => .pin q.layout.id bit level b.cycles } := by
  induction pairs generalizing b with
  | nil => simp
  | cons pair rest ih =>
    have hcycles : (b.reportPins pair.1 pair.2).cycles = b.cycles :=
      congrArg (fun v => v.clock.cycles) (view_reportPins b pair.1 pair.2)
    rw [List.foldl_cons, ih, hcycles, view_reportPins]
    simp

theorem view_reset (b : Bus) (cause : ResetCause) : (b.reset cause).view = b.view.reset cause := by
  rw [reset, view_foldl_reportPins]
  rfl

/-- The outcome of an operation that takes so many cycles: a result of which something is known if
    the cycle counter has room for them, and a trap if it has not. -/
def Takes {α : Type} (b : Bus) (cycles : Nat) (post : α → Prop) : Except Bus α → Prop
  | .ok a => b.cycles.toNat + cycles < UInt64.size ∧ post a
  | .error _ => UInt64.size ≤ b.cycles.toNat + cycles

theorem Takes.ok {α : Type} {b : Bus} {cycles : Nat} {post : α → Prop} {r : Except Bus α}
    (h : b.Takes cycles post r) (hroom : b.cycles.toNat + cycles < UInt64.size) :
    ∃ a, r = .ok a ∧ post a := by
  cases r with
  | ok a => exact ⟨a, rfl, h.2⟩
  | error _ => exact absurd hroom (Nat.not_lt.mpr h)

theorem Takes.imp {α : Type} {b : Bus} {cycles : Nat} {post post' : α → Prop} {r : Except Bus α}
    (h : b.Takes cycles post r)
    (himp : ∀ a, b.cycles.toNat + cycles < UInt64.size → post a → post' a) :
    b.Takes cycles post' r := by
  cases r with
  | ok a => exact ⟨h.1, himp a h.1 h.2⟩
  | error _ => exact h

theorem Takes.trap {α : Type} {b : Bus} {cycles : Nat} {post : α → Prop} {r : Except Bus α}
    (h : b.Takes cycles post r) (hfull : UInt64.size ≤ b.cycles.toNat + cycles) :
    ∃ b', r = .error b' := by
  cases r with
  | ok a => exact absurd h.1 (Nat.not_lt.mpr hfull)
  | error b' => exact ⟨b', rfl⟩

/-- An operation that comes after so many cycles takes those as well. -/
theorem Takes.after {α : Type} {b b' : Bus} {n k : Nat} {post : α → Prop} {r : Except Bus α}
    (h : b'.Takes k post r) (hcycles : b'.cycles.toNat = b.cycles.toNat + n) :
    b.Takes (n + k) post r := by
  cases r with
  | ok a => exact ⟨by have := h.1; omega, h.2⟩
  | error _ =>
    have : UInt64.size ≤ b'.cycles.toNat + k := h
    change UInt64.size ≤ b.cycles.toNat + (n + k)
    omega

/-- What traps for want of so many cycles traps for want of more. -/
theorem Takes.error_mono {α β : Type} {b b' : Bus} {cycles more : Nat} {post : α → Prop}
    {post' : β → Prop} (h : b.Takes cycles post (.error b')) (hle : cycles ≤ more) :
    b.Takes more post' (.error b') := by
  have : UInt64.size ≤ b.cycles.toNat + cycles := h
  change UInt64.size ≤ b.cycles.toNat + more
  omega

theorem cycles_eq_of_view {b : Bus} {v : View} (h : b.view = v) : b.cycles = v.clock.cycles :=
  congrArg (fun v => v.clock.cycles) h

theorem clock_eq_of_view {b : Bus} {v : View} (h : b.view = v) : b.clock = v.clock :=
  congrArg View.clock h

theorem contents_eq_of_view {b : Bus} {v : View} (h : b.view = v) : b.contents = v.contents :=
  congrArg View.contents h

theorem advance_takes {b : Bus} (hcount : b.chip.watchdog.count.toNat ≤ b.cycles.toNat)
    (cycles : UInt64) :
    b.Takes cycles.toNat (fun b' => b'.view = b.view.lapse cycles) (b.advance cycles) := by
  unfold advance
  by_cases hroom : b.cycles.toNat + cycles.toNat < UInt64.size
  · have htick := b.chip.watchdog.tick?_eq_lapse cycles (by omega)
    simp only [Counter.add?, if_pos hroom, htick]
    exact ⟨hroom, rfl⟩
  · simp only [Counter.add?, if_neg hroom]
    exact Nat.not_lt.mp hroom

theorem read_takes {b : Bus} (hsound : b.clock.Sound) (addr : UInt16) :
    b.Takes 1 (fun r => r.1 = b.view.load addr ∧ r.2.view = b.view.read addr) (b.read addr) := by
  have hadvance := advance_takes hsound.count_le 1
  unfold read
  cases h : b.advance 1 with
  | error b' =>
    rw [h] at hadvance
    exact hadvance
  | ok b' =>
    rw [h] at hadvance
    obtain ⟨hroom, hview⟩ := hadvance
    have hload : b'.peek? addr = b.view.contents.load? addr := by
      rw [peek?_eq_load?, contents_eq_of_view hview]
      rfl
    have hmaps : (b.view.contents.load? addr).isSome = true ↔ b.view.contents.decoding.Maps addr :=
      Contents.load?_isSome_iff
    cases hbyte : b.view.contents.load? addr with
    | some value =>
      rw [hbyte] at hmaps
      simp only [hload, hbyte]
      exact ⟨hroom, by simp [View.load, hbyte], by rw [View.read, if_pos (hmaps.mp rfl), hview]⟩
    | none =>
      rw [hbyte] at hmaps
      simp only [hload, hbyte]
      refine ⟨hroom, by simp [View.load, hbyte], ?_⟩
      rw [View.read, if_neg (by simpa using hmaps), view_latch, hview]

theorem write_takes {b : Bus} (hsound : b.clock.Sound) (addr : UInt16) (value : UInt8) :
    b.Takes 1 (fun b' => b'.view = b.view.write addr value) (b.write addr value) := by
  have hadvance := advance_takes hsound.count_le 1
  unfold write
  cases h : b.advance 1 with
  | error b' =>
    rw [h] at hadvance
    exact hadvance
  | ok b' =>
    rw [h] at hadvance
    obtain ⟨hroom, hview⟩ := hadvance
    have hpoke := view_poke? b' addr value
    rw [hview] at hpoke
    simp only [View.write, ← hpoke]
    cases b'.poke? addr value with
    | some b'' => exact ⟨hroom, rfl⟩
    | none => exact ⟨hroom, by simp [view_latch, hview]⟩

/-- A register is changed in two cycles. -/
theorem modify_takes {b : Bus} (hsound : b.clock.Sound) (addr : UInt16) (f : UInt8 → UInt8) :
    b.Takes 2 (fun b' => b'.view = b.view.modify addr f) (Hardware.modify b addr f) := by
  have hread := read_takes hsound addr
  have hreadEq : Hardware.read b addr = b.read addr := rfl
  rw [Hardware.modify, hreadEq]
  cases h : b.read addr with
  | error b' =>
    rw [h] at hread
    exact hread.error_mono (by omega)
  | ok r =>
    obtain ⟨value, b'⟩ := r
    rw [h] at hread
    obtain ⟨hroom, hvalue, hview⟩ := hread
    dsimp only at hvalue hview
    have hclock : b'.clock = b.clock.lapse 1 := by
      rw [clock_eq_of_view hview, View.clock_read]
      rfl
    obtain ⟨helapsed, hsound'⟩ := Clock.elapsed_access hsound hroom
    rw [← hclock] at helapsed hsound'
    have hmodify : b.view.modify addr f = b'.view.write addr (f value) := by
      rw [View.modify, hview, hvalue]
    rw [hmodify]
    exact (write_takes hsound' addr (f value)).after helapsed.cycles_eq

theorem nop_takes {b : Bus} (hsound : b.clock.Sound) :
    b.Takes b.cyclesPerNop.toNat (fun b' => b'.view = b.view.delay 1) b.nop := by
  unfold nop
  by_cases hroom : b.cycles.toNat + b.cyclesPerNop.toNat < UInt64.size
  · have hnops : b.nops.toNat + (1 : UInt64).toNat < UInt64.size := by
      have : b.nops.toNat ≤ b.cycles.toNat := hsound.nops_le
      have : 0 < b.cyclesPerNop.toNat := hsound.delay_pos
      rw [UInt64.toNat_one]
      omega
    simp only [Counter.add?, if_pos hnops]
    exact advance_takes (b := { b with nops := b.nops + 1 }) hsound.count_le b.cyclesPerNop
  · have hfull := Nat.not_lt.mp hroom
    cases hadd : Counter.add? b.nops 1 with
    | none => exact hfull
    | some nops =>
      obtain ⟨b', hb'⟩ := (advance_takes (b := { b with nops }) hsound.count_le b.cyclesPerNop).trap
        hfull
      simp only [hb']
      exact hfull

/-- A wait takes as many no-ops as it counts. -/
theorem delay_takes {b : Bus} (hsound : b.clock.Sound) (count : Nat) :
    b.Takes (count * b.cyclesPerNop.toNat) (fun b' => b'.view = b.view.delay count)
      (Hardware.delay count b) := by
  induction count generalizing b with
  | zero =>
    refine ⟨?_, rfl⟩
    simpa using b.cycles.toNat_lt
  | succ count ih =>
    have hnop := nop_takes hsound
    have hnopEq : Hardware.nop b = b.nop := rfl
    rw [Hardware.delay, hnopEq, Nat.succ_mul, Nat.add_comm]
    cases h : b.nop with
    | error b' =>
      rw [h] at hnop
      exact hnop.error_mono (by omega)
    | ok b' =>
      rw [h] at hnop
      obtain ⟨hroom, hview⟩ := hnop
      have hclock : b'.clock = b.clock.nop := clock_eq_of_view hview
      have helapsed := Clock.elapsed_nop hsound hroom
      have hsound' := hsound.nop hroom
      rw [← hclock] at helapsed hsound'
      have hper : b'.cyclesPerNop = b.cyclesPerNop := helapsed.cyclesPerNop_eq
      have hdelay : b.view.delay (count + 1) = b'.view.delay count := by
        rw [hview]
        rfl
      rw [hdelay, ← hper]
      exact (ih hsound').after (hper ▸ helapsed.cycles_eq)

end Bus

end LedBench.Bench
