import LedBench.Bench.Bus

namespace LedBench.Bench

open Chip

namespace Port

theorem claims_iff {p : Port} {addr : UInt16} : p.claims addr = true ↔ addr ∈ p.layout.registers := by
  simp [claims]

theorem mem_registers_iff {l : PortLayout} {addr : UInt16} :
    addr ∈ l.registers ↔
      addr = l.port ∨ addr = l.tris ∨ some addr = l.lat ∨ some addr = l.ansel := by
  simp only [PortLayout.registers, List.mem_append, List.mem_cons, List.not_mem_nil, or_false,
    Option.mem_toList, or_assoc, eq_comm]

theorem tris_ne_port {l : PortLayout} (hnodup : l.registers.Nodup) : l.tris ≠ l.port := by
  rintro heq
  simp [PortLayout.registers, heq] at hnodup

theorem lat_ne {l : PortLayout} (hnodup : l.registers.Nodup) {a : UInt16} (hlat : some a = l.lat) :
    a ≠ l.port ∧ a ≠ l.tris := by
  constructor <;> rintro rfl <;> simp [PortLayout.registers, ← hlat] at hnodup

theorem ansel_ne {l : PortLayout} (hnodup : l.registers.Nodup) {a : UInt16}
    (hansel : some a = l.ansel) : a ≠ l.port ∧ a ≠ l.tris ∧ some a ≠ l.lat := by
  refine ⟨?_, ?_, ?_⟩
  · rintro rfl
    simp [PortLayout.registers, ← hansel] at hnodup
  · rintro rfl
    simp [PortLayout.registers, ← hansel] at hnodup
  · intro hlat
    simp [PortLayout.registers, ← hansel, ← hlat] at hnodup

theorem read?_port (p : Port) : p.read? p.layout.port = some p.portValue := if_pos rfl

theorem read?_tris {p : Port} (hnodup : p.layout.registers.Nodup) :
    p.read? p.layout.tris = some p.tris := by
  rw [read?, if_neg (tris_ne_port hnodup), if_pos rfl]

theorem read?_lat {p : Port} (hnodup : p.layout.registers.Nodup) {a : UInt16}
    (hlat : p.layout.lat = some a) : p.read? a = some p.lat := by
  obtain ⟨hport, htris⟩ := lat_ne hnodup hlat.symm
  rw [read?, if_neg hport, if_neg htris, if_pos hlat.symm]

theorem read?_ansel {p : Port} (hnodup : p.layout.registers.Nodup) {a : UInt16}
    (hansel : p.layout.ansel = some a) : p.read? a = some p.ansel := by
  obtain ⟨hport, htris, hlat⟩ := ansel_ne hnodup hansel.symm
  rw [read?, if_neg hport, if_neg htris, if_neg hlat, if_pos hansel.symm]

theorem read?_isSome_of_claims {p : Port} {addr : UInt16} (h : p.claims addr = true) :
    (p.read? addr).isSome = true := by
  have hmem := mem_registers_iff.mp (claims_iff.mp h)
  unfold read?
  split
  · rfl
  split
  · rfl
  split
  · rfl
  split
  · rfl
  · simp_all

theorem write?_isSome_of_claims {p : Port} {addr : UInt16} (h : p.claims addr = true)
    (value : UInt8) : (p.write? addr value).isSome = true := by
  have hmem := mem_registers_iff.mp (claims_iff.mp h)
  simp only [write?]
  split
  · rfl
  split
  · rfl
  split
  · rfl
  · simp_all

theorem layout_of_write? {p q : Port} {addr : UInt16} {value : UInt8}
    (h : p.write? addr value = some q) : q.layout = p.layout := by
  simp only [write?] at h
  split at h
  · cases h
    rfl
  split at h
  · cases h
    rfl
  split at h
  · cases h
    rfl
  · cases h

theorem layout_reset (p : Port) (cause : ResetCause) : (p.reset cause).layout = p.layout := rfl

/-- Pins that stay as they are are not reported. -/
theorem pinChanges_of_pins_eq {p q : Port} (h : p.pins = q.pins) : pinChanges p q = [] := by
  simp [pinChanges, h]

end Port

namespace DataMemory

/-- The file after a write, which changes nothing past its end. -/
def put (addr : UInt16) (value : UInt8) (m : DataMemory) : DataMemory :=
  (m.write? addr value).getD m

theorem read?_put (m : DataMemory) (addr other : UInt16) (value : UInt8) :
    (m.put addr value).read? other =
      (m.read? other).map fun byte => if other = addr then value else byte := by
  have hsome : (m.write? addr value).isSome = (m.read? addr).isSome := write?_isSome
  rw [put]
  cases hwrite : m.write? addr value with
  | none =>
    rw [hwrite] at hsome
    by_cases heq : other = addr
    · subst heq
      have hbeyond : m.read? other = none := by simpa using hsome.symm
      simp [hbeyond]
    · simp [heq]
  | some n =>
    rw [hwrite] at hsome
    rw [Option.getD_some, read?_of_write? hwrite]
    by_cases heq : other = addr
    · subst heq
      obtain ⟨byte, hbyte⟩ := Option.isSome_iff_exists.mp hsome.symm
      simp [hbyte]
    · simp [heq]

end DataMemory

/-- How a chip decodes addresses: the layouts of its ports and the size of its data memory. -/
structure Decoding where
  ports : List PortLayout
  size : Nat

/-- Something answers at the address. -/
def Decoding.Maps (k : Decoding) (addr : UInt16) : Prop :=
  (∃ p ∈ k.ports, addr ∈ p.registers) ∨ addr.toNat < k.size

instance (k : Decoding) (addr : UInt16) : Decidable (k.Maps addr) := by
  unfold Decoding.Maps
  infer_instance

/-- The bytes behind the addresses of a chip. -/
structure Contents where
  memory : DataMemory
  ports : List Port
  deriving DecidableEq

def ChipState.contents (s : ChipState) : Contents := ⟨s.memory, s.ports⟩

def Bus.contents (b : Bus) : Contents := b.chip.contents

namespace Contents

def decoding (c : Contents) : Decoding := ⟨c.ports.map (·.layout), c.memory.cells.size⟩

/-- The ports stand in the order of their layouts. -/
theorem exists_port_of_place {c : Contents} {i : Nat} {l : PortLayout}
    (hplace : c.decoding.ports[i]? = some l) : ∃ p, c.ports[i]? = some p ∧ p.layout = l := by
  rwa [decoding, List.getElem?_map, Option.map_eq_some_iff] at hplace

theorem place_of_port {c : Contents} {i : Nat} {p : Port} (hp : c.ports[i]? = some p) :
    c.decoding.ports[i]? = some p.layout := by
  rw [decoding, List.getElem?_map, hp, Option.map_some]

theorem map_layout_port? (s : ChipState) (id : String) :
    (s.port? id).map (·.layout) = s.contents.decoding.ports.find? (·.id = id) := by
  rw [ChipState.port?, ChipState.contents, decoding, List.find?_map]
  rfl

/-- A port is found under the name under which its layout is. -/
theorem exists_port?_of_layout {s : ChipState} {id : String} {l : PortLayout}
    (h : s.contents.decoding.ports.find? (·.id = id) = some l) :
    ∃ p, s.port? id = some p ∧ p.layout = l := by
  rwa [← map_layout_port?, Option.map_eq_some_iff] at h

/-- The port that answers at an address, by its place. -/
def owner? (c : Contents) (addr : UInt16) : Option Nat := c.ports.findIdx? (·.claims addr)

def load? (c : Contents) (addr : UInt16) : Option UInt8 :=
  match c.owner? addr with
  | some i => c.ports[i]?.bind (·.read? addr)
  | none => c.memory.read? addr

/-- The contents with a byte put at an address. -/
def store? (c : Contents) (addr : UInt16) (value : UInt8) : Option Contents :=
  match c.owner? addr with
  | some i =>
    (c.ports[i]?.bind (·.write? addr value)).map fun p => { c with ports := c.ports.set i p }
  | none => (c.memory.write? addr value).map fun m => { c with memory := m }

/-- The contents after a write, which changes nothing where nothing answers. -/
def put (addr : UInt16) (value : UInt8) (c : Contents) : Contents := (c.store? addr value).getD c

def reset (c : Contents) (cause : ResetCause) : Contents :=
  { c with ports := c.ports.map (·.reset cause) }

/-- The reports of all pins that differ between two contents. -/
def pinEvents (before after : Contents) (cycle : UInt64) : List Event :=
  (before.ports.zip after.ports).flatMap fun (p, q) =>
    (Port.pinChanges p q).map fun (bit, level) => .pin q.layout.id bit level cycle

theorem pinEvents_of_ports_eq {c d : Contents} (h : d.ports = c.ports) (cycle : UInt64) :
    c.pinEvents d cycle = [] := by
  rw [pinEvents, h]
  induction c.ports with
  | nil => rfl
  | cons p rest ih => simp [Port.pinChanges_of_pins_eq, ih]

/-- A list of which only the element at one place yields anything. -/
theorem flatMap_eq_of_unique {α β : Type} {f : α → List β} {xs : List α} {i : Nat} {a : α}
    (hi : xs[i]? = some a) (hother : ∀ j b, j ≠ i → xs[j]? = some b → f b = []) :
    xs.flatMap f = f a := by
  induction xs generalizing i with
  | nil => simp at hi
  | cons x rest ih =>
    rw [List.flatMap_cons]
    cases i with
    | zero =>
      obtain rfl : x = a := by simpa using hi
      have hrest : rest.flatMap f = [] := by
        rw [List.flatMap_eq_nil_iff]
        intro b hb
        obtain ⟨j, hj⟩ := List.mem_iff_getElem?.mp hb
        exact hother (j + 1) b (Nat.succ_ne_zero j) (by simpa using hj)
      rw [hrest, List.append_nil]
    | succ i =>
      rw [hother 0 x (Nat.succ_ne_zero i).symm rfl, List.nil_append]
      exact ih (by simpa using hi) fun j b hj hb => hother (j + 1) b (by omega) (by simpa using hb)

/-- A change of one port is reported by that port alone. -/
theorem pinEvents_set {c : Contents} {i : Nat} {p : Port} (hp : c.ports[i]? = some p) (q : Port)
    (cycle : UInt64) :
    c.pinEvents { c with ports := c.ports.set i q } cycle =
      (Port.pinChanges p q).map fun (bit, level) => .pin q.layout.id bit level cycle := by
  obtain ⟨memory, ports⟩ := c
  induction ports generalizing i with
  | nil => simp at hp
  | cons x rest ih =>
    cases i with
    | zero =>
      obtain rfl : x = p := by simpa using hp
      simpa [pinEvents] using pinEvents_of_ports_eq (c := ⟨memory, rest⟩) rfl cycle
    | succ i =>
      have hrest := ih (by simpa using hp)
      simp only [pinEvents] at hrest
      simp [pinEvents, Port.pinChanges_of_pins_eq, hrest]

theorem read?_eq_load? (s : ChipState) (addr : UInt16) :
    s.read? addr = s.contents.load? addr := by
  simp only [ChipState.read?, load?, owner?, ChipState.contents,
    List.find?_eq_bind_findIdx?_getElem?]
  cases hidx : s.ports.findIdx? (·.claims addr) with
  | none => rfl
  | some i =>
    obtain ⟨hi, _⟩ := List.findIdx?_eq_some_iff_getElem.mp hidx
    simp [List.getElem?_eq_getElem hi]

/-- A port that owns an address exists and claims it. -/
theorem of_owner?_eq_some {c : Contents} {addr : UInt16} {i : Nat} (h : c.owner? addr = some i) :
    ∃ p, c.ports[i]? = some p ∧ p.claims addr = true := by
  obtain ⟨hi, hclaims, _⟩ := List.findIdx?_eq_some_iff_getElem.mp h
  exact ⟨c.ports[i], List.getElem?_eq_getElem hi, hclaims⟩

theorem owner?_eq_none_iff {c : Contents} {addr : UInt16} :
    c.owner? addr = none ↔ ∀ p ∈ c.decoding.ports, addr ∉ p.registers := by
  simp [owner?, List.findIdx?_eq_none_iff, decoding, Port.claims]

theorem maps_of_owner?_eq_some {c : Contents} {addr : UInt16} {i : Nat}
    (h : c.owner? addr = some i) : c.decoding.Maps addr := by
  obtain ⟨p, hp, hclaims⟩ := of_owner?_eq_some h
  refine .inl ⟨p.layout, ?_, Port.claims_iff.mp hclaims⟩
  exact List.mem_map.mpr ⟨p, List.mem_of_getElem? hp, rfl⟩

theorem maps_iff_of_owner?_eq_none {c : Contents} {addr : UInt16} (h : c.owner? addr = none) :
    c.decoding.Maps addr ↔ addr.toNat < c.memory.cells.size := by
  constructor
  · rintro (⟨p, hp, hmem⟩ | hlt)
    · exact absurd hmem (owner?_eq_none_iff.mp h p hp)
    · exact hlt
  · exact .inr

theorem load?_isSome_iff {c : Contents} {addr : UInt16} :
    (c.load? addr).isSome = true ↔ c.decoding.Maps addr := by
  unfold load?
  cases howner : c.owner? addr with
  | none =>
    rw [maps_iff_of_owner?_eq_none howner]
    simp [DataMemory.read?]
  | some i =>
    obtain ⟨p, hp, hclaims⟩ := of_owner?_eq_some howner
    simpa [hp, Port.read?_isSome_of_claims hclaims] using maps_of_owner?_eq_some howner

theorem store?_isSome_iff {c : Contents} {addr : UInt16} {value : UInt8} :
    (c.store? addr value).isSome = true ↔ c.decoding.Maps addr := by
  unfold store?
  cases howner : c.owner? addr with
  | none =>
    rw [maps_iff_of_owner?_eq_none howner, Option.isSome_map, DataMemory.write?_isSome]
    simp [DataMemory.read?]
  | some i =>
    obtain ⟨p, hp, hclaims⟩ := of_owner?_eq_some howner
    simpa [hp, Port.write?_isSome_of_claims hclaims] using maps_of_owner?_eq_some howner

theorem put_of_owner?_eq_none {c : Contents} {addr : UInt16} (h : c.owner? addr = none)
    (value : UInt8) : c.put addr value = { c with memory := c.memory.put addr value } := by
  rw [put, store?, h]
  dsimp only
  rw [DataMemory.put]
  cases c.memory.write? addr value <;> rfl

theorem put_of_owner?_eq_some {c : Contents} {addr : UInt16} {i : Nat}
    (h : c.owner? addr = some i) (value : UInt8) :
    ∃ p q, c.ports[i]? = some p ∧ p.claims addr = true ∧ p.write? addr value = some q ∧
      c.put addr value = { c with ports := c.ports.set i q } := by
  obtain ⟨p, hp, hclaims⟩ := of_owner?_eq_some h
  obtain ⟨q, hq⟩ := Option.isSome_iff_exists.mp (Port.write?_isSome_of_claims hclaims value)
  refine ⟨p, q, hp, hclaims, hq, ?_⟩
  rw [put, store?, h]
  dsimp only
  rw [hp, Option.bind_some, hq]
  rfl

/-- No write changes how addresses are decoded. -/
theorem decoding_of_store? {c d : Contents} {addr : UInt16} {value : UInt8}
    (h : c.store? addr value = some d) : d.decoding = c.decoding := by
  unfold store? at h
  cases howner : c.owner? addr with
  | none =>
    rw [howner, Option.map_eq_some_iff] at h
    obtain ⟨m, hm, rfl⟩ := h
    unfold DataMemory.write? at hm
    split at hm
    · cases hm
      simp [decoding]
    · cases hm
  | some i =>
    rw [howner, Option.map_eq_some_iff] at h
    obtain ⟨q, hq, rfl⟩ := h
    obtain ⟨p, hp, hwrite⟩ := Option.bind_eq_some_iff.mp hq
    obtain ⟨hi, rfl⟩ := List.getElem?_eq_some_iff.mp hp
    have hset : (c.ports.map (·.layout)).set i q.layout = c.ports.map (·.layout) := by
      have hi' : i < (c.ports.map (·.layout)).length := by simpa using hi
      have hget : (c.ports.map (·.layout))[i] = c.ports[i].layout := List.getElem_map ..
      rw [Port.layout_of_write? hwrite, ← hget, List.set_getElem_self]
    simp [decoding, List.map_set, hset]

theorem decoding_reset (c : Contents) (cause : ResetCause) :
    (c.reset cause).decoding = c.decoding := by
  simp [decoding, reset, Function.comp_def, Port.layout_reset]

/-- Where no address is given twice, a port owns each of its registers. -/
theorem owner?_eq_of_nodup {c : Contents}
    (hnodup : (c.decoding.ports.flatMap PortLayout.registers).Nodup) {i : Nat} {p : Port}
    (hp : c.ports[i]? = some p) {addr : UInt16} (haddr : addr ∈ p.layout.registers) :
    c.owner? addr = some i := by
  obtain ⟨hi, rfl⟩ := List.getElem?_eq_some_iff.mp hp
  refine List.findIdx?_eq_some_iff_getElem.mpr ⟨hi, Port.claims_iff.mpr haddr, ?_⟩
  intro j hji hclaims
  have hapart := (List.pairwise_flatMap.mp hnodup).2
  have hj : j < c.decoding.ports.length := by simp [decoding]; omega
  have hi' : i < c.decoding.ports.length := by simpa [decoding] using hi
  have h := List.pairwise_iff_getElem.mp hapart j i hj hi' hji addr
    (by simpa [decoding] using Port.claims_iff.mp hclaims) addr (by simpa [decoding] using haddr)
  exact h rfl

end Contents

end LedBench.Bench
