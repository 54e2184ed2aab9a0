import Mathlib.Algebra.Order.Ring.Nat
import Mathlib.Data.List.Forall2
import LedBench.HexFile

namespace LedBench.HexFile

open Firmware

/-- The lines of a text. Empty ones hold nothing. -/
def lines (text : List Char) : List (List Char) :=
  (text.splitOn '\n').filter fun line => !line.isEmpty

/-- The bytes that pairs of hexadecimal digits spell, letters of either case. -/
def bytes? : List Char → Option (List UInt8)
  | [] => some []
  | [_] => none
  | first :: second :: rest => do
    let high ← Text.digitValue? 16 first
    let low ← Text.digitValue? 16 second
    let bytes ← bytes? rest
    some (UInt8.ofNat (16 * high + low) :: bytes)

def Kind.ofCode? : UInt8 → Option Kind
  | 0x00 => some .data
  | 0x01 => some .endOfFile
  | 0x04 => some .extendedLinear
  | _ => none

/-- All bytes of a record add up to a multiple of 256. -/
def Balanced (bytes : List UInt8) : Prop := (bytes.map UInt8.toNat).sum % 256 = 0

instance (bytes : List UInt8) : Decidable (Balanced bytes) := by
  unfold Balanced
  infer_instance

namespace Record

/-- The record that bytes make: the count of its data, its address, high byte first, its kind, its
    data and a last byte that balances them. -/
def ofBytes? : List UInt8 → Option Record
  | count :: high :: low :: code :: rest =>
    if rest.length = count.toNat + 1 ∧ Balanced (count :: high :: low :: code :: rest) then
      (Kind.ofCode? code).map fun kind =>
        ⟨kind, UInt16.ofNat (256 * high.toNat + low.toNat), rest.dropLast⟩
    else none
  | _ => none

/-- The record of a line, which is marked by a colon. -/
def ofLine? : List Char → Option Record
  | ':' :: digits => (bytes? digits).bind ofBytes?
  | _ => none

/-- A line is that of a record: in pairs of digits after a colon it has the count of the data, the
    address, the kind, the data and a byte that balances all of them. -/
def IsLine (r : Record) (line : List Char) : Prop :=
  ∃ digits count high low code check,
    line = ':' :: digits ∧
    bytes? digits = some (count :: high :: low :: code :: (r.data ++ [check])) ∧
    count.toNat = r.data.length ∧
    256 * high.toNat + low.toNat = r.address.toNat ∧
    Kind.ofCode? code = some r.kind ∧
    Balanced (count :: high :: low :: code :: (r.data ++ [check]))

end Record

def records? (text : List Char) : Option (List Record) := (lines text).mapM Record.ofLine?

/-- Bytes by their addresses. -/
abbrev Image := Nat → Option UInt8

namespace Image

def empty : Image := fun _ => none

/-- The image with these bytes from an address on. -/
def put (image : Image) (first : Nat) (data : List UInt8) : Image := fun addr =>
  (if first ≤ addr then data[addr - first]? else none) <|> image addr

end Image

/-- The image that records leave, the upper half of the addresses being `upper` before them. The end
    record must be there, and be the last. What would lie across a boundary of 64 KiB is refused,
    since readers differ on where it goes. -/
def load? (upper : Nat) (image : Image) : List Record → Option Image
  | [] => none
  | ⟨.data, address, data⟩ :: rest =>
    if address.toNat + data.length ≤ 0x10000 then
      load? upper (image.put (0x10000 * upper + address.toNat) data) rest
    else none
  | ⟨.extendedLinear, _, [high, low]⟩ :: rest => load? (256 * high.toNat + low.toNat) image rest
  | ⟨.extendedLinear, _, _⟩ :: _ => none
  | ⟨.endOfFile, _, _⟩ :: rest => if rest.isEmpty then some image else none

/-- The image that a file holds. -/
def read? (file : String) : Option Image := (records? file.toList).bind (load? 0 .empty)

/-- A word at a word address: its low byte, and its high byte after it. -/
def wordImage (w : ConfigWord) : Image := fun addr =>
  if addr = 2 * w.address.toNat then some (UInt8.ofNat (w.value.toNat % 256))
  else if addr = 2 * w.address.toNat + 1 then some (UInt8.ofNat (w.value.toNat / 256))
  else none

theorem hexDigits_two {n : Nat} (h : n < 256) :
    Text.hexDigits 2 n = [(n / 16).digitChar, (n % 16).digitChar] := by
  rw [Text.hexDigits]
  by_cases hlt : n < 16
  · rw [Nat.toDigits_of_lt_base hlt, Nat.div_eq_of_lt hlt, Nat.mod_eq_of_lt hlt]
    rfl
  · rw [Nat.toDigits_of_base_le (by decide) (by omega), Nat.toDigits_of_lt_base (by omega)]
    rfl

/-- A digit in capitals is read as its value, and no line ends in it. -/
theorem capital_digitChar {n : Nat} (h : n < 16) :
    Text.digitValue? 16 n.digitChar.toUpper = some n ∧ n.digitChar.toUpper ≠ '\n' :=
  (by decide : ∀ n < 16, Text.digitValue? 16 n.digitChar.toUpper = some n ∧
    n.digitChar.toUpper ≠ '\n') n h

/-- Bytes are balanced exactly if their sum as bytes is 0. -/
theorem balanced_iff {bytes : List UInt8} : Balanced bytes ↔ bytes.foldl (· + ·) 0 = 0 := by
  have hsum : ∀ acc : UInt8, (bytes.foldl (· + ·) acc).toNat =
      (acc.toNat + (bytes.map UInt8.toNat).sum) % 256 := by
    induction bytes with
    | nil =>
      intro acc
      exact (Nat.mod_eq_of_lt acc.toNat_lt).symm
    | cons b rest ih =>
      intro acc
      rw [List.foldl_cons, ih, UInt8.toNat_add, List.map_cons, List.sum_cons]
      omega
  rw [Balanced, ← UInt8.toNat_inj, hsum, UInt8.toNat_zero, Nat.zero_add]

namespace Record

theorem byteText_eq (b : UInt8) :
    byteText b = [(b.toNat / 16).digitChar.toUpper, (b.toNat % 16).digitChar.toUpper] := by
  rw [byteText, hexDigits_two b.toNat_lt]
  rfl

theorem bytes?_flatMap_byteText (bytes : List UInt8) :
    bytes? (bytes.flatMap byteText) = some bytes := by
  induction bytes with
  | nil => rfl
  | cons b rest ih =>
    have hlt := b.toNat_lt
    obtain ⟨hhigh, -⟩ := capital_digitChar (n := b.toNat / 16) (by omega)
    obtain ⟨hlow, -⟩ := capital_digitChar (n := b.toNat % 16) (by omega)
    rw [List.flatMap_cons, byteText_eq, List.cons_append, List.cons_append, List.nil_append,
      bytes?, hhigh, hlow, ih]
    simp only [Option.bind_eq_bind, Option.bind_some, Nat.div_add_mod, UInt8.ofNat_toNat]

/-- The line of a record, its end left out. -/
def line (r : Record) : List Char := ':' :: r.bytes.flatMap byteText

theorem text_eq (r : Record) : r.text = r.line ++ ['\n'] := rfl

theorem newline_not_mem_line (r : Record) : '\n' ∉ r.line := by
  rw [line, List.mem_cons, not_or]
  refine ⟨by decide, ?_⟩
  intro hmem
  obtain ⟨b, -, hb⟩ := List.mem_flatMap.mp hmem
  have hlt := b.toNat_lt
  obtain ⟨-, hhigh⟩ := capital_digitChar (n := b.toNat / 16) (by omega)
  obtain ⟨-, hlow⟩ := capital_digitChar (n := b.toNat % 16) (by omega)
  rw [byteText_eq] at hb
  simp only [List.mem_cons, List.not_mem_nil, or_false] at hb
  rcases hb with h | h
  · exact hhigh h.symm
  · exact hlow h.symm

theorem balanced_bytes (r : Record) : Balanced r.bytes := by
  rw [balanced_iff, bytes, List.foldl_append, checksum, List.foldl_cons, List.foldl_nil,
    UInt8.add_comm]
  exact UInt8.sub_add_cancel 0 _

theorem toNat_bigEndian (w : UInt16) :
    256 * (w >>> 8).toUInt8.toNat + w.toUInt8.toNat = w.toNat := by
  have hlt := w.toNat_lt
  have hhigh : (w >>> 8).toNat = w.toNat / 256 := by
    rw [UInt16.toNat_shiftRight, Nat.shiftRight_eq_div_pow]
    rfl
  rw [UInt16.toNat_toUInt8, UInt16.toNat_toUInt8, hhigh]
  omega

theorem ofCode?_code (kind : Kind) : Kind.ofCode? kind.code = some kind := by
  cases kind <;> rfl

/-- The reader takes a line for a record exactly if it is that record's. -/
theorem ofLine?_eq_some_iff {line : List Char} {r : Record} :
    ofLine? line = some r ↔ r.IsLine line := by
  constructor
  · intro h
    unfold ofLine? at h
    split at h
    · rename_i digits
      obtain ⟨bytes, hbytes, hrecord⟩ := Option.bind_eq_some_iff.mp h
      unfold ofBytes? at hrecord
      split at hrecord
      · rename_i count high low code rest
        split at hrecord
        · rename_i hsound
          obtain ⟨kind, hkind, rfl⟩ := Option.map_eq_some_iff.mp hrecord
          have hne : rest ≠ [] := by
            rintro rfl
            simp at hsound
          have hrest := List.dropLast_concat_getLast hne
          have hlt := high.toNat_lt
          have hlt' := low.toNat_lt
          refine ⟨digits, count, high, low, code, rest.getLast hne, rfl, ?_, ?_, ?_, hkind, ?_⟩
          · rw [hrest]
            exact hbytes
          · rw [List.length_dropLast, hsound.1]
            rfl
          · rw [UInt16.toNat_ofNat', Nat.mod_eq_of_lt (by omega)]
          · rw [hrest]
            exact hsound.2
        · cases hrecord
      · cases hrecord
    · cases h
  · rintro ⟨digits, count, high, low, code, check, rfl, hbytes, hcount, haddress, hkind, hbalanced⟩
    have hlength : (r.data ++ [check]).length = count.toNat + 1 := by
      rw [List.length_append, hcount]
      rfl
    rw [ofLine?, hbytes, Option.bind_some, ofBytes?, if_pos ⟨hlength, hbalanced⟩, hkind,
      List.dropLast_concat, haddress, UInt16.ofNat_toNat]
    rfl

/-- A record whose data can be counted in a byte is written as a line of its own. -/
theorem isLine_line {r : Record} (h : r.data.length < 256) : r.IsLine r.line :=
  ⟨r.bytes.flatMap byteText, UInt8.ofNat r.data.length, (r.address >>> 8).toUInt8,
    r.address.toUInt8, r.kind.code, r.checksum, rfl, bytes?_flatMap_byteText r.bytes,
    UInt8.toNat_ofNat_of_lt' h, toNat_bigEndian r.address, ofCode?_code r.kind, r.balanced_bytes⟩

end Record

theorem lines_flatMap_text (rs : List Record) :
    lines (rs.flatMap Record.text) = rs.map Record.line := by
  induction rs with
  | nil => rfl
  | cons r rest ih =>
    have hline : ∀ c ∈ r.line, (c == '\n') = false := by
      intro c hc
      refine beq_eq_false_iff_ne.mpr ?_
      rintro rfl
      exact r.newline_not_mem_line hc
    have hsplit : (r.line ++ '\n' :: rest.flatMap Record.text).splitOn '\n' =
        r.line :: (rest.flatMap Record.text).splitOn '\n' :=
      List.splitOnP_append_cons_of_forall_mem hline '\n' (beq_self_eq_true '\n') _
    rw [lines] at ih
    rw [List.flatMap_cons, Record.text_eq, List.append_assoc, List.singleton_append, lines, hsplit,
      List.filter_cons, ih]
    rfl

/-- Records are read from a text exactly if its lines are theirs, one by one. -/
theorem records?_eq_some_iff {text : List Char} {rs : List Record} :
    records? text = some rs ↔ List.Forall₂ Record.IsLine rs (lines text) := by
  rw [records?]
  generalize lines text = ls
  induction ls generalizing rs with
  | nil => simp [eq_comm]
  | cons l rest ih =>
    rw [List.mapM_cons, Option.bind_eq_bind, Option.bind_eq_some_iff]
    constructor
    · rintro ⟨r, hr, hrest⟩
      obtain ⟨rs', hrs', hrs⟩ := Option.bind_eq_some_iff.mp hrest
      cases hrs
      exact .cons (Record.ofLine?_eq_some_iff.mp hr) (ih.mp hrs')
    · rintro (_ | ⟨hr, hrest⟩)
      exact ⟨_, Record.ofLine?_eq_some_iff.mpr hr, by rw [ih.mpr hrest]; rfl⟩

/-- Whatever records are written are read again. -/
theorem records?_render {rs : List Record} (h : ∀ r ∈ rs, r.data.length < 256) :
    records? (render rs).toList = some rs := by
  rw [records?_eq_some_iff, render, String.toList_ofList, lines_flatMap_text,
    List.forall₂_map_right_iff, List.forall₂_same]
  exact fun r hr => Record.isLine_line (h r hr)

theorem toNat_double (a : UInt16) : (a.toUInt32 * 2).toNat = 2 * a.toNat := by
  have hlt := a.toNat_lt
  have htwo : (2 : UInt32).toNat = 2 := rfl
  rw [UInt32.toNat_mul, UInt16.toNat_toUInt32, htwo]
  omega

theorem littleEndian_eq (v : UInt16) :
    littleEndian v = [UInt8.ofNat (v.toNat % 256), UInt8.ofNat (v.toNat / 256)] := by
  have hlt := v.toNat_lt
  have hlow : v.toUInt8.toNat = v.toNat % 256 := UInt16.toNat_toUInt8 v
  have hhigh : (v >>> 8).toUInt8.toNat = v.toNat / 256 := by
    have hvalue := Record.toNat_bigEndian v
    omega
  rw [littleEndian, ← hlow, ← hhigh, UInt8.ofNat_toNat, UInt8.ofNat_toNat]

/-- The two bytes of a word, put into an empty memory. -/
theorem put_littleEndian (w : ConfigWord) :
    Image.empty.put (2 * w.address.toNat) (littleEndian w.value) = wordImage w := by
  funext addr
  rw [littleEndian_eq, Image.put, Image.empty, wordImage, Option.orElse_eq_orElse]
  by_cases hfirst : addr = 2 * w.address.toNat
  · simp [hfirst]
  by_cases hsecond : addr = 2 * w.address.toNat + 1
  · simp [hsecond]
  rw [if_neg hfirst, if_neg hsecond]
  by_cases hle : 2 * w.address.toNat ≤ addr
  · obtain ⟨k, rfl⟩ : ∃ k, addr = 2 * w.address.toNat + (k + 2) := ⟨addr - 2 * w.address.toNat - 2, by omega⟩
    simp
  · simp [hle]

/-- The data of every record of a configuration word fit below the next boundary of 64 KiB: those of
    the word itself because a byte address of a word is even. -/
theorem room_ofConfigWord {w : ConfigWord} {r : Record} (h : r ∈ ofConfigWord w) :
    r.data.length ≤ 2 ∧ (r.kind = .data → r.address.toNat + r.data.length ≤ 0x10000) := by
  simp only [ofConfigWord, bigEndian, littleEndian, List.mem_cons, List.not_mem_nil, or_false] at h
  rcases h with rfl | rfl | rfl
  · exact ⟨Nat.le_refl 2, fun hkind => nomatch hkind⟩
  · refine ⟨Nat.le_refl 2, fun _ => ?_⟩
    have hdouble := toNat_double w.address
    simp only [List.length_cons, List.length_nil, UInt32.toNat_toUInt16]
    omega
  · exact ⟨Nat.zero_le 2, fun hkind => nomatch hkind⟩

theorem load?_ofConfigWord (w : ConfigWord) :
    load? 0 .empty (ofConfigWord w) = some (wordImage w) := by
  have hlt := w.address.toNat_lt
  have hdouble := toNat_double w.address
  have hlower : (w.address.toUInt32 * 2).toUInt16.toNat = 2 * w.address.toNat % 0x10000 := by
    rw [UInt32.toNat_toUInt16, hdouble]
  have hupper : ((w.address.toUInt32 * 2) >>> 16).toUInt16.toNat =
      2 * w.address.toNat / 0x10000 := by
    have hsixteen : 2 ^ ((16 : UInt32).toNat % 32) = 0x10000 := rfl
    rw [UInt32.toNat_toUInt16, UInt32.toNat_shiftRight, hdouble, Nat.shiftRight_eq_div_pow, hsixteen]
    omega
  have hroom : (w.address.toUInt32 * 2).toUInt16.toNat + (littleEndian w.value).length ≤ 0x10000 :=
    (room_ofConfigWord (w := w) (.tail _ (.head _))).2 rfl
  rw [ofConfigWord, bigEndian, load?, Record.toNat_bigEndian, hupper, load?, if_pos hroom, hlower,
    Nat.div_add_mod, put_littleEndian]
  rfl

theorem wordImage_low (w : ConfigWord) :
    wordImage w (2 * w.address.toNat) = some (UInt8.ofNat (w.value.toNat % 256)) := by
  rw [wordImage, if_pos rfl]

theorem wordImage_high (w : ConfigWord) :
    wordImage w (2 * w.address.toNat + 1) = some (UInt8.ofNat (w.value.toNat / 256)) := by
  rw [wordImage, if_neg (by omega), if_pos rfl]

/-- The lower of the two addresses is the even one, so that the address of the word is known from
    the image, and with it which byte is which. -/
theorem wordImage_injective {w w' : ConfigWord} (h : wordImage w' = wordImage w) : w' = w := by
  have hlow := congrFun h (2 * w.address.toNat)
  have haddress : w'.address.toNat = w.address.toNat := by
    by_contra hne
    rw [wordImage_low, wordImage, if_neg (by omega), if_neg (by omega)] at hlow
    cases hlow
  have hhigh := congrFun h (2 * w.address.toNat + 1)
  rw [wordImage_low, ← haddress, wordImage_low, Option.some_inj, ← UInt8.toNat_inj] at hlow
  rw [wordImage_high, ← haddress, wordImage_high, Option.some_inj, ← UInt8.toNat_inj] at hhigh
  have hlt := w.value.toNat_lt
  have hlt' := w'.value.toNat_lt
  have hvalue : w'.value.toNat = w.value.toNat := by
    rw [UInt8.toNat_ofNat', UInt8.toNat_ofNat'] at hlow hhigh
    omega
  cases w
  cases w'
  exact congrArg₂ ConfigWord.mk (UInt16.toNat_inj.mp haddress) (UInt16.toNat_inj.mp hvalue)

/-- Reading undoes writing. -/
theorem read?_render {rs : List Record} (h : ∀ r ∈ rs, r.data.length < 256) :
    read? (render rs) = load? 0 .empty rs := by
  rw [read?, records?_render h, Option.bind_some]

/-- The file of a configuration word is read in full: its lines are those of records, the last of
    them the end record, and the image they leave holds the two bytes of the word at twice its
    address and nothing else. Another word has another file. -/
theorem read?_render_ofConfigWord (w : ConfigWord) :
    (∃ rs : List Record,
      List.Forall₂ Record.IsLine rs (lines (render (ofConfigWord w)).toList) ∧
      rs.getLast? = some ⟨.endOfFile, 0, []⟩ ∧
      ∀ r ∈ rs, r.kind = .data → r.address.toNat + r.data.length ≤ 0x10000) ∧
    read? (render (ofConfigWord w)) = some (wordImage w) ∧
    ∀ w' : ConfigWord, render (ofConfigWord w') = render (ofConfigWord w) → w' = w := by
  have hcounted : ∀ w' : ConfigWord, ∀ r ∈ ofConfigWord w', r.data.length < 256 :=
    fun w' r hr => Nat.lt_of_le_of_lt (room_ofConfigWord hr).1 (by decide)
  have hread : ∀ w' : ConfigWord, read? (render (ofConfigWord w')) = some (wordImage w') := by
    intro w'
    rw [read?_render (hcounted w'), load?_ofConfigWord]
  refine ⟨⟨ofConfigWord w, ?_, rfl, fun r hr => (room_ofConfigWord hr).2⟩, hread w, ?_⟩
  · exact records?_eq_some_iff.mp (records?_render (hcounted w))
  · intro w' hfile
    have himage := hread w'
    rw [hfile, hread w, Option.some_inj] at himage
    exact (wordImage_injective himage).symm ▸ rfl

example : render (ofConfigWord ⟨0x8007, 0x3FFC⟩) =
    ":020000040001F9\n:02000E00FC3FB5\n:00000001FF\n" := by decide

end LedBench.HexFile
