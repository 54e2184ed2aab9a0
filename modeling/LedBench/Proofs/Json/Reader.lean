import LedBench.Json.Reader
import LedBench.Proofs.Json.Token
import Mathlib.Data.List.TakeWhile

namespace LedBench.Json

mutual
/-- Every number in the value is a whole one of 64 bits. -/
def Whole : Json → Prop
  | .nat n => n < UInt64.size
  | .number _ => False
  | .arr items => WholeItems items
  | .obj members => WholeMembers members
  | .null | .bool _ | .str _ => True

def WholeItems : List Json → Prop
  | [] => True
  | v :: rest => v.Whole ∧ WholeItems rest

def WholeMembers : List (String × Json) → Prop
  | [] => True
  | (_, v) :: rest => v.Whole ∧ WholeMembers rest
end

mutual
/-- The words that a value is written with. -/
def tokens : Json → List Token
  | .null => [.word "null"]
  | .bool b => [.word (if b then "true" else "false")]
  | .nat n => [.word (toString n)]
  | .number t => [.word t]
  | .str s => [.str s]
  | .arr items => [.mark '['] ++ (tokensOfItems items ++ [.mark ']'])
  | .obj members => [.mark '\x7b'] ++ (tokensOfMembers members ++ [.mark '\x7d'])

def tokensOfItems : List Json → List Token
  | [] => []
  | [v] => v.tokens
  | v :: w :: rest => v.tokens ++ [.mark ','] ++ tokensOfItems (w :: rest)

def tokensOfMembers : List (String × Json) → List Token
  | [] => []
  | [(k, v)] => [.str k] ++ ([.mark ':'] ++ v.tokens)
  | (k, v) :: m :: rest =>
    [.str k] ++ ([.mark ':'] ++ v.tokens ++ [.mark ',']) ++ tokensOfMembers (m :: rest)
end

theorem spells_nil : Spells [] [] := fun _ _ _ => rfl

theorem spells_nat (n : Nat) : Spells (toString n).toList [.word (toString n)] := by
  refine spells_word (Text.toString_ne_nil n) fun c hc => isInner_iff.mpr (.inl ?_)
  have hdigit := Text.isDigit_toString hc
  simp [Char.isAlphanum, hdigit]

theorem spells_bool (b : Bool) :
    Spells (if b then "true" else "false").toList [.word (if b then "true" else "false")] := by
  cases b <;> exact spells_word (by decide) (List.all_eq_true.mp rfl)

theorem spells_null : Spells "null".toList [.word "null"] :=
  spells_word (by decide) (List.all_eq_true.mp rfl)

/-- A mark after a value ends it. -/
theorem Spells.append_mark {cs : List Char} {ts : List Token} (h : Spells cs ts) {c : Char}
    (hc : c ∈ ['[', ']', '\x7b', '\x7d', ',', ':']) : Closes (cs ++ [c]) (ts ++ [.mark c]) := by
  refine h.append ?_ (closes_mark hc)
  rintro rest d ⟨⟩
  exact isInner_mark hc

mutual
theorem spells_compact (v : Json) (h : v.Whole) : Spells v.compact.toList v.tokens := by
  cases v with
  | null => exact spells_null
  | bool b => exact spells_bool b
  | nat n => exact spells_nat n
  | number t => exact h.elim
  | str s => exact (closes_quoteText s).spells
  | arr items =>
    have hitems := (spells_compactItems items h).append_mark (c := ']') (by decide)
    have hall := (closes_mark (c := '[') (by decide)).append hitems.spells
    simpa [compact, tokens] using hall
  | obj members =>
    have hmembers := (spells_compactMembers members h).append_mark (c := '\x7d') (by decide)
    have hall := (closes_mark (c := '\x7b') (by decide)).append hmembers.spells
    simpa [compact, tokens] using hall

theorem spells_compactItems (items : List Json) (h : WholeItems items) :
    Spells (compactItems items).toList (tokensOfItems items) := by
  match items, h with
  | [], _ => exact spells_nil
  | [v], h => exact spells_compact v h.1
  | v :: w :: rest, h =>
    have hfirst := (spells_compact v h.1).append_mark (c := ',') (by decide)
    have hall := hfirst.append (spells_compactItems (w :: rest) h.2)
    simpa [compactItems, tokensOfItems] using hall

theorem spells_compactMembers (members : List (String × Json)) (h : WholeMembers members) :
    Spells (compactMembers members).toList (tokensOfMembers members) := by
  match members, h with
  | [], _ => exact spells_nil
  | [(k, v)], h =>
    have hkey := (closes_quoteText k).append_closes (closes_mark (c := ':') (by decide))
    have hall := hkey.append (spells_compact v h.1)
    simpa [compactMembers, tokensOfMembers] using hall
  | (k, v) :: m :: rest, h =>
    have hkey := (closes_quoteText k).append_closes (closes_mark (c := ':') (by decide))
    have hfirst := (spells_compact v h.1).append_mark (c := ',') (by decide)
    have hall := (hkey.append_closes hfirst).append (spells_compactMembers (m :: rest) h.2)
    simpa [compactMembers, tokensOfMembers] using hall
end

/-- A name with its colon and a blank. -/
theorem closes_key (k : String) :
    Closes ((quoteText k).toList ++ ([':'] ++ [' '])) ([.str k] ++ ([.mark ':'] ++ [])) :=
  (closes_quoteText k).append_closes
    ((closes_mark (by decide)).append_closes (closes_blank (.inl rfl)))

/-- A mark on a line of its own after a value ends it. -/
theorem Spells.append_margin {cs : List Char} {ts : List Token} (h : Spells cs ts) (depth : Nat)
    {c : Char} (hc : c ∈ ['[', ']', '\x7b', '\x7d', ',', ':']) :
    Closes (cs ++ ((margin depth).toList ++ [c])) (ts ++ [.mark c]) := by
  refine h.append ?_ ((closes_margin depth).append_closes (closes_mark hc))
  intro rest d hd
  have hmargin : (margin depth).toList = '\n' :: List.replicate (2 * depth) ' ' := by
    simp [margin]
  rw [hmargin] at hd
  cases hd
  decide

mutual
theorem spells_indented (depth : Nat) (v : Json) (h : v.Whole) :
    Spells (v.indented depth).toList v.tokens := by
  match v, h with
  | .null, _ => exact spells_null
  | .bool b, _ => exact spells_bool b
  | .nat n, _ => exact spells_nat n
  | .str s, _ => exact (closes_quoteText s).spells
  | .arr [], _ =>
    have hall := (closes_mark (c := '[') (by decide)).append_closes
      (closes_mark (c := ']') (by decide))
    simpa [indented, tokens, tokensOfItems] using hall.spells
  | .arr (v :: rest), h =>
    have hitems := (spells_indentedItems (depth + 1) (v :: rest) h).append_margin depth
      (c := ']') (by decide)
    have hall := (closes_mark (c := '[') (by decide)).append hitems.spells
    simpa [indented, tokens] using hall
  | .obj [], _ =>
    have hall := (closes_mark (c := '\x7b') (by decide)).append_closes
      (closes_mark (c := '\x7d') (by decide))
    simpa [indented, tokens, tokensOfMembers] using hall.spells
  | .obj (m :: rest), h =>
    have hmembers := (spells_indentedMembers (depth + 1) (m :: rest) h).append_margin depth
      (c := '\x7d') (by decide)
    have hall := (closes_mark (c := '\x7b') (by decide)).append hmembers.spells
    simpa [indented, tokens] using hall

theorem spells_indentedItems (depth : Nat) (items : List Json) (h : WholeItems items) :
    Spells (indentedItems depth items).toList (tokensOfItems items) := by
  match items, h with
  | [], _ => exact spells_nil
  | [v], h =>
    have hall := (closes_margin depth).append (spells_indented depth v h.1)
    simpa [indentedItems, tokensOfItems] using hall
  | v :: w :: rest, h =>
    have hfirst := (spells_indented depth v h.1).append_mark (c := ',') (by decide)
    have hall := ((closes_margin depth).append_closes hfirst).append
      (spells_indentedItems depth (w :: rest) h.2)
    simpa [indentedItems, tokensOfItems] using hall

theorem spells_indentedMembers (depth : Nat) (members : List (String × Json))
    (h : WholeMembers members) :
    Spells (indentedMembers depth members).toList (tokensOfMembers members) := by
  match members, h with
  | [], _ => exact spells_nil
  | [(k, v)], h =>
    have hkey := (closes_margin depth).append_closes (closes_key k)
    have hall := hkey.append (spells_indented depth v h.1)
    simpa [indentedMembers, tokensOfMembers] using hall
  | (k, v) :: m :: rest, h =>
    have hkey := (closes_margin depth).append_closes (closes_key k)
    have hfirst := (spells_indented depth v h.1).append_mark (c := ',') (by decide)
    have hall := (hkey.append_closes hfirst).append
      (spells_indentedMembers depth (m :: rest) h.2)
    simpa [indentedMembers, tokensOfMembers] using hall
end

theorem isNumber_toString (n : Nat) : isNumber (toString n).toList = true := by
  have hdigits : ∀ c ∈ (toString n).toList, c.isDigit = true := fun c => Text.isDigit_toString
  have hsome : (toString n).toList ≠ [] := Text.toString_ne_nil n
  have hzero : (toString n).toList.length = 1 ∨ (toString n).toList.head? ≠ some '0' := by
    by_cases hn : n = 0
    · subst hn
      exact .inl rfl
    · exact .inr (Text.head?_toString hn)
  generalize (toString n).toList = cs at hdigits hsome hzero
  have hsign : cs.head? ≠ some '-' := by
    intro hhead
    have hminus := hdigits '-' (List.mem_of_mem_head? hhead)
    revert hminus
    decide
  have hwhole : cs.takeWhile Char.isDigit = cs := List.takeWhile_eq_self_iff.mpr hdigits
  have hrest : cs.dropWhile Char.isDigit = [] := List.dropWhile_eq_nil_iff.mpr hdigits
  have hall : isDigits cs = true := by
    rw [isDigits, List.all_eq_true.mpr hdigits]
    simpa using hsome
  unfold isNumber
  rw [if_neg hsign]
  simp only [hwhole, hrest, hall]
  simpa using hzero

theorem ofWord?_toString {n : Nat} (h : n < UInt64.size) :
    ofWord? (toString n) = some (.nat n) := by
  have hname : ∀ s : String, (∃ c ∈ s.toList, c.isDigit = false) → toString n ≠ s := by
    rintro s ⟨c, hc, hdigit⟩ rfl
    rw [Text.isDigit_toString hc] at hdigit
    cases hdigit
  rw [ofWord?, if_neg (hname "null" ⟨'n', by decide, by decide⟩),
    if_neg (hname "true" ⟨'t', by decide, by decide⟩),
    if_neg (hname "false" ⟨'f', by decide, by decide⟩), if_pos (isNumber_toString n),
    Text.digits?_toString]
  simp only [if_pos h]

theorem tokens_length_pos (v : Json) : 0 < v.tokens.length := by
  cases v <;> simp [tokens]

/-- The words of a value do not start with a closing bracket. -/
theorem tokens_ne_close (v : Json) (rest ts : List Token) : v.tokens ++ rest ≠ .mark ']' :: ts := by
  cases v <;> simp [tokens]

theorem value?_arr {fuel : Nat} {ts : List Token} (h : ∀ rest, ts ≠ .mark ']' :: rest) :
    value? (fuel + 1) (.mark '[' :: ts) =
      (items? fuel ts).map fun (vs, rest) => (.arr vs, rest) := by
  rw [value?]
  exact h

theorem value?_obj {fuel : Nat} {ts : List Token} (h : ∀ rest, ts ≠ .mark '\x7d' :: rest) :
    value? (fuel + 1) (.mark '\x7b' :: ts) =
      (members? fuel ts).map fun (ms, rest) => (.obj ms, rest) := by
  rw [value?]
  exact h

theorem items?_last {fuel : Nat} {ts rest : List Token} {v : Json}
    (h : value? fuel ts = some (v, .mark ']' :: rest)) :
    items? (fuel + 1) ts = some ([v], rest) := by
  rw [items?, h]
  rfl

theorem items?_more {fuel : Nat} {ts rest : List Token} {v : Json}
    (h : value? fuel ts = some (v, .mark ',' :: rest)) :
    items? (fuel + 1) ts = (items? fuel rest).map fun (vs, rest) => (v :: vs, rest) := by
  rw [items?, h]
  rfl

theorem members?_last {fuel : Nat} {ts rest : List Token} {k : String} {v : Json}
    (h : value? fuel ts = some (v, .mark '\x7d' :: rest)) :
    members? (fuel + 1) (.str k :: .mark ':' :: ts) = some ([(k, v)], rest) := by
  rw [members?]
  simp only [h]

theorem members?_more {fuel : Nat} {ts rest : List Token} {k : String} {v : Json}
    (h : value? fuel ts = some (v, .mark ',' :: rest)) :
    members? (fuel + 1) (.str k :: .mark ':' :: ts) =
      (members? fuel rest).map fun (ms, rest) => ((k, v) :: ms, rest) := by
  rw [members?]
  simp only [h]

mutual
theorem value?_tokens (v : Json) (h : v.Whole) {fuel : Nat}
    (hfuel : 2 * v.tokens.length ≤ fuel + 1) (rest : List Token) :
    value? fuel (v.tokens ++ rest) = some (v, rest) := by
  obtain ⟨fuel, rfl⟩ : ∃ n, fuel = n + 1 := by
    have hpos := tokens_length_pos v
    exact ⟨fuel - 1, by omega⟩
  match v, h with
  | .null, _ => rfl
  | .bool true, _ => rfl
  | .bool false, _ => rfl
  | .nat n, h =>
    change (ofWord? (toString n)).map (·, rest) = _
    rw [ofWord?_toString h]
    rfl
  | .str s, _ => rfl
  | .arr [], _ => rfl
  | .arr (v :: items), h =>
    have hlength : 2 * (tokensOfItems (v :: items)).length ≤ fuel := by
      simp only [tokens, List.length_append, List.length_singleton] at hfuel
      omega
    have hitems := items?_tokens v items h hlength rest
    have hopen : ∀ ts, tokensOfItems (v :: items) ++ .mark ']' :: rest ≠ .mark ']' :: ts := by
      cases items with
      | nil => exact tokens_ne_close v _
      | cons w items =>
        intro ts
        rw [tokensOfItems, List.append_assoc, List.append_assoc]
        exact tokens_ne_close v _ ts
    rw [tokens, List.append_assoc, List.append_assoc, List.singleton_append, List.singleton_append,
      value?_arr hopen, hitems]
    rfl
  | .obj [], _ => rfl
  | .obj (m :: members), h =>
    have hlength : 2 * (tokensOfMembers (m :: members)).length ≤ fuel := by
      simp only [tokens, List.length_append, List.length_singleton] at hfuel
      omega
    have hmembers := members?_tokens m members h hlength rest
    have hopen : ∀ ts,
        tokensOfMembers (m :: members) ++ .mark '\x7d' :: rest ≠ .mark '\x7d' :: ts := by
      cases members <;> simp [tokensOfMembers]
    rw [tokens, List.append_assoc, List.append_assoc, List.singleton_append, List.singleton_append,
      value?_obj hopen, hmembers]
    rfl

theorem items?_tokens (v : Json) (items : List Json) (h : WholeItems (v :: items)) {fuel : Nat}
    (hfuel : 2 * (tokensOfItems (v :: items)).length ≤ fuel) (rest : List Token) :
    items? fuel (tokensOfItems (v :: items) ++ (.mark ']' :: rest)) =
      some (v :: items, rest) := by
  have hpos := tokens_length_pos v
  match items, h with
  | [], h =>
    rw [tokensOfItems] at hfuel ⊢
    obtain ⟨fuel, rfl⟩ : ∃ n, fuel = n + 1 := ⟨fuel - 1, by omega⟩
    exact items?_last (value?_tokens v h.1 hfuel _)
  | w :: items, h =>
    simp only [tokensOfItems, List.length_append, List.length_singleton] at hfuel
    obtain ⟨fuel, rfl⟩ : ∃ n, fuel = n + 1 := ⟨fuel - 1, by omega⟩
    rw [tokensOfItems, List.append_assoc, List.append_assoc, List.singleton_append,
      items?_more (value?_tokens v h.1 (by omega) _), items?_tokens w items h.2 (by omega)]
    rfl

theorem members?_tokens (m : String × Json) (members : List (String × Json))
    (h : WholeMembers (m :: members)) {fuel : Nat}
    (hfuel : 2 * (tokensOfMembers (m :: members)).length ≤ fuel) (rest : List Token) :
    members? fuel (tokensOfMembers (m :: members) ++ (.mark '\x7d' :: rest)) =
      some (m :: members, rest) := by
  obtain ⟨k, v⟩ := m
  have hpos := tokens_length_pos v
  match members, h with
  | [], h =>
    simp only [tokensOfMembers, List.length_append, List.length_singleton] at hfuel
    obtain ⟨fuel, rfl⟩ : ∃ n, fuel = n + 1 := ⟨fuel - 1, by omega⟩
    exact members?_last (value?_tokens v h.1 (by omega) _)
  | m :: members, h =>
    simp only [tokensOfMembers, List.length_append, List.length_singleton] at hfuel
    obtain ⟨fuel, rfl⟩ : ∃ n, fuel = n + 1 := ⟨fuel - 1, by omega⟩
    have hwords : tokensOfMembers ((k, v) :: m :: members) ++ .mark '\x7d' :: rest =
        .str k :: .mark ':' :: (v.tokens ++
          .mark ',' :: (tokensOfMembers (m :: members) ++ .mark '\x7d' :: rest)) := by
      simp [tokensOfMembers]
    rw [hwords, members?_more (value?_tokens v h.1 (by omega) _),
      members?_tokens m members h.2 (by omega)]
    rfl
end

theorem parse?_of_tokens {s : String} {v : Json} (h : v.Whole) (hs : tokens? s = some v.tokens) :
    parse? s = some v := by
  have hread : value? (2 * v.tokens.length + 1) (v.tokens ++ []) = some (v, []) :=
    value?_tokens v h (by omega) []
  rw [List.append_nil] at hread
  simp only [parse?, hs, Option.bind_eq_bind, Option.bind_some, hread]

/-- A value is read back from one line. -/
theorem parse?_compact {v : Json} (h : v.Whole) : parse? v.compact = some v :=
  parse?_of_tokens h (spells_compact v h).tokens?

/-- A value is read back from the many lines that it is written to a file with. -/
theorem parse?_pretty {v : Json} (h : v.Whole) : parse? v.pretty = some v :=
  parse?_of_tokens h (spells_indented 0 v h).tokens?

end LedBench.Json
