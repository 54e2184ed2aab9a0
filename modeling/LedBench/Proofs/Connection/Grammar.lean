import LedBench.PinRef
import LedBench.Proofs.Text.Blank
import LedBench.Proofs.Text.Decimal
import Mathlib.Data.List.Basic
import Mathlib.Data.List.TakeWhile

namespace LedBench.PinRef

open Text

/-- The parts of a connection, white space around it left out: what stands before its first point
    and all that stands behind it. -/
structure Parts (s : String) (port bit : List Char) : Prop where
  split : trimmed s.toList = port ++ '.' :: bit
  first : '.' ∉ port

/-- A bit in writing: the digits of a number below eight, with at most a plus sign in front. -/
structure SpellsBit (cs : List Char) (bit : UInt8) : Prop where
  bit_lt : bit < 8
  digits : ∃ digits, (cs = digits ∨ cs = '+' :: digits) ∧ digits ≠ [] ∧
    (∀ c ∈ digits, c.isDigit = true) ∧ bit.toNat = Nat.ofDigitChars 10 digits 0

/-- A reference whose text names a pin. -/
structure Spellable (r : PinRef) : Prop where
  port_ne_empty : r.port ≠ ""
  dot_not_mem : '.' ∉ r.port.toList
  isBlank_head : ∀ c ∈ r.port.toList.head?, isBlank c = false
  bit_lt : r.bit < 8

/-- A reference that some text names: the port is in lower case as well. -/
structure Nameable (r : PinRef) : Prop extends Spellable r where
  isUpper : ∀ c ∈ r.port.toList, c.isUpper = false

/-- The port in lower case. -/
def lowered (r : PinRef) : PinRef := { r with port := r.port.map Char.toLower }

variable {s : String} {r : PinRef} {port bit : List Char}

theorem bit?_eq_some_iff {cs : List Char} {bit : UInt8} :
    bit? cs = some bit ↔ SpellsBit cs bit := by
  constructor
  · intro h
    unfold bit? at h
    split at h
    · rename_i n hn
      split at h
      · rename_i hlt
        cases h
        have hbit : (UInt8.ofNat n).toNat = n := Nat.mod_eq_of_lt (by omega)
        refine ⟨?_, ?_⟩
        · rw [UInt8.lt_iff_toNat_lt, hbit]
          exact hlt
        · rw [hbit]
          exact decimal?_eq_some_iff.mp hn
      · cases h
    · cases h
  · rintro ⟨hlt, hdigits⟩
    have hbit : bit.toNat < 8 := UInt8.lt_iff_toNat_lt.mp hlt
    rw [bit?, decimal?_eq_some_iff.mpr hdigits]
    dsimp only
    rw [if_pos hbit, UInt8.ofNat_toNat]

theorem exists_parts (h : '.' ∈ trimmed s.toList) : ∃ port bit, Parts s port bit := by
  obtain ⟨port, bit, hsplit, hfirst⟩ := List.eq_append_cons_of_mem h
  exact ⟨port, bit, hsplit, hfirst⟩

theorem Parts.head?_eq (h : Parts s port bit) (hport : port ≠ []) :
    (trimmed s.toList).head? = port.head? := by
  obtain ⟨c, rest, rfl⟩ := List.exists_cons_of_ne_nil hport
  rw [h.split]
  rfl

theorem Parts.head?_eq_dot_iff (h : Parts s port bit) :
    (trimmed s.toList).head? = some '.' ↔ port = [] := by
  cases port with
  | nil => simp [h.split]
  | cons c rest =>
    rw [h.head?_eq (List.cons_ne_nil c rest), List.head?_cons, Option.some.injEq]
    constructor
    · rintro rfl
      exact absurd List.mem_cons_self h.first
    · intro hnil
      cases hnil

/-- Without a point there is nothing to tell a port from a bit. -/
theorem parse_of_dot_not_mem (h : '.' ∉ trimmed s.toList) : parse s = .error (.malformed s) := by
  have hdrop : (trimmed s.toList).dropWhile (· ≠ '.') = [] := by
    rw [List.dropWhile_eq_nil_iff]
    intro c hc
    exact decide_eq_true fun hdot => h (hdot ▸ hc)
  unfold parse
  simp only [hdrop]

/-- With a point the parts decide. -/
theorem Parts.parse_eq (h : Parts s port bit) :
    parse s = if port = [] then .error (.malformed s)
      else match bit? bit with
        | some n => .ok ⟨String.ofList (port.map Char.toLower), n⟩
        | none => .error (.invalidBit s (String.ofList bit)) := by
  have hport : ∀ c ∈ port, decide (c ≠ '.') = true :=
    fun c hc => decide_eq_true fun hdot => h.first (hdot ▸ hc)
  have htake : (trimmed s.toList).takeWhile (· ≠ '.') = port := by
    rw [h.split, List.takeWhile_append_of_pos hport, List.takeWhile_cons_of_neg (by decide),
      List.append_nil]
  have hdrop : (trimmed s.toList).dropWhile (· ≠ '.') = '.' :: bit := by
    rw [h.split, List.dropWhile_append_of_pos hport, List.dropWhile_cons_of_neg (by decide)]
  unfold parse
  cases hbit : bit? bit with
  | none => simp only [htake, hdrop, hbit, List.isEmpty_iff]
  | some n => simp only [htake, hdrop, hbit, List.isEmpty_iff]

/-- The texts that name a pin. -/
theorem parse_eq_ok_iff :
    parse s = .ok r ↔ ∃ port bit, Parts s port bit ∧ port ≠ [] ∧ SpellsBit bit r.bit ∧
      r.port = String.ofList (port.map Char.toLower) := by
  constructor
  · intro hparse
    by_cases hdot : '.' ∈ trimmed s.toList
    · obtain ⟨port, bit, hparts⟩ := exists_parts hdot
      rw [hparts.parse_eq] at hparse
      split at hparse
      · cases hparse
      rename_i hport
      split at hparse
      · rename_i n hbit
        cases hparse
        exact ⟨port, bit, hparts, hport, bit?_eq_some_iff.mp hbit, rfl⟩
      · cases hparse
    · rw [parse_of_dot_not_mem hdot] at hparse
      cases hparse
  · rintro ⟨port, bit, hparts, hport, hbit, heq⟩
    rw [hparts.parse_eq, if_neg hport, bit?_eq_some_iff.mpr hbit, ← heq]

/-- The texts that do not, and what is said of them. -/
theorem parse_eq_error_iff {e : ConnectionError} :
    parse s = .error e ↔
      (e = .malformed s ∧ ('.' ∉ trimmed s.toList ∨ (trimmed s.toList).head? = some '.')) ∨
      ∃ port bit, Parts s port bit ∧ port ≠ [] ∧ (∀ n, ¬ SpellsBit bit n) ∧
        e = .invalidBit s (String.ofList bit) := by
  constructor
  · intro hparse
    by_cases hdot : '.' ∈ trimmed s.toList
    · obtain ⟨port, bit, hparts⟩ := exists_parts hdot
      rw [hparts.parse_eq] at hparse
      split at hparse
      · rename_i hport
        cases hparse
        exact .inl ⟨rfl, .inr (hparts.head?_eq_dot_iff.mpr hport)⟩
      rename_i hport
      split at hparse
      · cases hparse
      · rename_i hbit
        cases hparse
        refine .inr ⟨port, bit, hparts, hport, fun n hn => ?_, rfl⟩
        rw [bit?_eq_some_iff.mpr hn] at hbit
        cases hbit
    · rw [parse_of_dot_not_mem hdot] at hparse
      cases hparse
      exact .inl ⟨rfl, .inl hdot⟩
  · rintro (⟨rfl, hdot | hhead⟩ | ⟨port, bit, hparts, hport, hbit, rfl⟩)
    · exact parse_of_dot_not_mem hdot
    · obtain ⟨port, bit, hparts⟩ := exists_parts (List.mem_of_mem_head? hhead)
      rw [hparts.parse_eq, if_pos (hparts.head?_eq_dot_iff.mp hhead)]
    · have hnone : bit? bit = none := by
        rw [Option.eq_none_iff_forall_ne_some]
        exact fun n hn => hbit n (bit?_eq_some_iff.mp hn)
      rw [hparts.parse_eq, if_neg hport, hnone]

/-- What a text is read as can be named. -/
theorem nameable_of_parse (h : parse s = .ok r) : Nameable r := by
  obtain ⟨port, bit, hparts, hport, hbit, heq⟩ := parse_eq_ok_iff.mp h
  have hlist : r.port.toList = port.map Char.toLower := by
    rw [heq, String.toList_ofList]
  refine ⟨⟨?port_ne_empty, ?dot_not_mem, ?isBlank_head, hbit.bit_lt⟩, ?isUpper⟩
  case port_ne_empty =>
    intro hempty
    rw [String.toList_eq_nil_iff.mpr hempty] at hlist
    exact hport (List.map_eq_nil_iff.mp hlist.symm)
  case dot_not_mem =>
    rw [hlist, List.mem_map]
    rintro ⟨c, hc, hdot⟩
    exact hparts.first (toLower_eq_dot_iff.mp hdot ▸ hc)
  case isBlank_head =>
    rw [hlist, List.head?_map, ← hparts.head?_eq hport]
    intro c hc
    obtain ⟨lead, hlead, rfl⟩ := Option.map_eq_some_iff.mp hc
    rw [isBlank_toLower]
    exact head?_trimmed lead hlead
  case isUpper =>
    rw [hlist, List.forall_mem_map]
    exact fun c _ => isUpper_toLower c

theorem lowered_eq_self_iff : r.lowered = r ↔ ∀ c ∈ r.port.toList, c.isUpper = false := by
  have hport : r.lowered = r ↔ r.port.map Char.toLower = r.port :=
    ⟨congrArg port, congrArg (PinRef.mk · r.bit)⟩
  have hlist : r.port.map Char.toLower = r.port ↔
      r.port.toList.map Char.toLower = r.port.toList.map id := by
    rw [← String.toList_inj, String.toList_map, List.map_id]
  rw [hport, hlist, List.map_inj_left]
  exact forall₂_congr fun c _ => toLower_eq_self_iff

theorem toList_text (r : PinRef) :
    r.text.toList = r.port.toList ++ '.' :: (toString r.bit.toNat).toList := by
  rw [text, String.toList_append, String.toList_append]
  exact List.append_assoc _ _ _

/-- The number of a bit is a way to write it. -/
theorem spellsBit_toString {bit : UInt8} (h : bit < 8) :
    SpellsBit (toString bit.toNat).toList bit :=
  ⟨h, _, .inl rfl, digits?_eq_some_iff.mp (digits?_toString bit.toNat)⟩

/-- The text of a reference names it but for its capitals. -/
theorem Spellable.parse_text (h : Spellable r) : parse r.text = .ok r.lowered := by
  have hport : r.port.toList ≠ [] := mt String.toList_eq_nil_iff.mp h.port_ne_empty
  have hhead : ∀ c ∈ r.text.toList.head?, isBlank c = false := by
    rw [toList_text, List.head?_append_of_ne_nil _ hport]
    exact h.isBlank_head
  have hlast : ∀ c ∈ r.text.toList.getLast?, isBlank c = false := by
    intro c hc
    rw [toList_text, List.getLast?_append_of_ne_nil _ (List.cons_ne_nil _ _),
      List.getLast?_cons_of_ne_nil (toString_ne_nil _)] at hc
    have hdigit : 48 ≤ c.toNat ∧ c.toNat ≤ 57 :=
      Char.isDigit_iff_toNat.mp (isDigit_toString (List.mem_of_mem_getLast? hc))
    exact isBlank_of_visible (by omega) (by omega)
  have hparts : Parts r.text r.port.toList (toString r.bit.toNat).toList := by
    refine ⟨?_, h.dot_not_mem⟩
    rw [trimmed_eq_self hhead hlast, toList_text]
  refine parse_eq_ok_iff.mpr ⟨_, _, hparts, hport, spellsBit_toString h.bit_lt, ?_⟩
  rw [lowered, ← String.toList_inj, String.toList_map, String.toList_ofList]

/-- A reference that can be named at all is named by its own text. -/
theorem parse_text_iff : parse r.text = .ok r ↔ Nameable r := by
  refine ⟨nameable_of_parse, fun h => ?_⟩
  rw [h.toSpellable.parse_text, lowered_eq_self_iff.mpr h.isUpper]

/-- The grammar of connections, and what printing makes of it. A text names a pin just if it has a
    port and a bit with a point between them, and then the pin is the port in lower case with that
    bit. Of the others those are malformed that have no point or nothing before the first one; in
    the rest all that stands behind the first point is quoted, for it is no bit. What was read is
    printed as a text that is read as the same, and these are the only references whose text names
    them. -/
theorem parse_grammar (s : String) :
    (∀ r, parse s = .ok r ↔
      ∃ port bit, Parts s port bit ∧ port ≠ [] ∧ SpellsBit bit r.bit ∧
        r.port = String.ofList (port.map Char.toLower)) ∧
    (∀ e, parse s = .error e ↔
      (e = .malformed s ∧ ('.' ∉ trimmed s.toList ∨ (trimmed s.toList).head? = some '.')) ∨
      ∃ port bit, Parts s port bit ∧ port ≠ [] ∧ (∀ n, ¬ SpellsBit bit n) ∧
        e = .invalidBit s (String.ofList bit)) ∧
    (∀ r, parse s = .ok r → parse r.text = .ok r) ∧
    ∀ r, parse r.text = .ok r ↔ Nameable r :=
  ⟨fun _ => parse_eq_ok_iff, fun _ => parse_eq_error_iff,
    fun _ h => parse_text_iff.mpr (nameable_of_parse h), fun _ => parse_text_iff⟩

/-- Capitals, a plus sign and zeros in front are read, and are not printed again. -/
theorem parse_grammar_capitals :
    parse " PORTC.+007" = .ok ⟨"portc", 7⟩ ∧ parse "portc.7" = .ok ⟨"portc", 7⟩ := by
  have hread : parse " PORTC.+007" = .ok ⟨"portc", 7⟩ :=
    ((parse_grammar " PORTC.+007").1 _).mpr
      ⟨"PORTC".toList, "+007".toList, ⟨by decide, by decide⟩, by decide,
        ⟨by decide, "007".toList, .inr rfl, by simp, by simp, by decide⟩, by simp⟩
  exact ⟨hread, (parse_grammar " PORTC.+007").2.2.1 _ hread⟩

end LedBench.PinRef
