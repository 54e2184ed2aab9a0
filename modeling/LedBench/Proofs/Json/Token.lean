import LedBench.Json.Basic
import LedBench.Json.Token
import LedBench.Proofs.Text.Decimal

namespace LedBench.Json

/-- A character of a number or a name. -/
def isInner (c : Char) : Bool := c.isAlphanum || c ∈ ['-', '+', '.']

/-- A text that does not go on with a number or a name. -/
def Breaks (cs : List Char) : Prop := ∀ c ∈ cs.head?, isInner c = false

/-- The text holds these words, if it is followed by one that breaks. -/
def Spells (cs : List Char) (ts : List Token) : Prop :=
  ∀ before rest, Breaks rest →
    tokensFrom .between before (cs ++ rest) = tokensFrom .between (ts.reverse ++ before) rest

/-- The text holds these words, whatever it is followed by. -/
def Closes (cs : List Char) (ts : List Token) : Prop :=
  ∀ before rest, tokensFrom .between before (cs ++ rest) =
    tokensFrom .between (ts.reverse ++ before) rest

theorem tokensFrom_cons {place next : Place} {before ts : List Token} {c : Char}
    (h : place.step c before = some (next, ts)) (cs : List Char) :
    tokensFrom place before (c :: cs) = tokensFrom next ts cs := by
  rw [tokensFrom, h]

theorem Closes.spells {cs : List Char} {ts : List Token} (h : Closes cs ts) : Spells cs ts :=
  fun before rest _ => h before rest

theorem Closes.append {cs ds : List Char} {ts us : List Token} (h : Closes cs ts)
    (hd : Spells ds us) : Spells (cs ++ ds) (ts ++ us) := by
  intro before rest hrest
  rw [List.append_assoc, h, hd _ _ hrest, List.reverse_append, List.append_assoc]

theorem Closes.append_closes {cs ds : List Char} {ts us : List Token} (h : Closes cs ts)
    (hd : Closes ds us) : Closes (cs ++ ds) (ts ++ us) := by
  intro before rest
  rw [List.append_assoc, h, hd, List.reverse_append, List.append_assoc]

/-- A text that ends before a break goes on with one that starts with it. -/
theorem Spells.append {cs ds : List Char} {ts us : List Token} (h : Spells cs ts)
    (hbreak : ∀ rest, Breaks (ds ++ rest)) (hd : Closes ds us) : Closes (cs ++ ds) (ts ++ us) := by
  intro before rest
  rw [List.append_assoc, h _ _ (hbreak rest), hd, List.reverse_append, List.append_assoc]

theorem Spells.tokens? {s : String} {ts : List Token} (h : Spells s.toList ts) :
    tokens? s = some ts := by
  have hall := h [] [] nofun
  rwa [List.append_nil, List.append_nil, tokensFrom, List.reverse_reverse] at hall

theorem closes_mark {c : Char} (h : c ∈ ['[', ']', '\x7b', '\x7d', ',', ':']) :
    Closes [c] [.mark c] := by
  intro before rest
  have henter : enter c before = some (.between, .mark c :: before) := by
    simp only [List.mem_cons, List.not_mem_nil, or_false] at h
    rcases h with rfl | rfl | rfl | rfl | rfl | rfl <;> rfl
  rw [List.singleton_append, tokensFrom, Place.step, henter]
  rfl

theorem closes_blank {c : Char} (h : c = ' ' ∨ c = '\n') : Closes [c] [] := by
  intro before rest
  rcases h with rfl | rfl <;> rfl

theorem closes_blanks (n : Nat) : Closes (List.replicate n ' ') [] := by
  induction n with
  | zero => exact fun _ _ => rfl
  | succ n ih => exact (closes_blank (.inl rfl)).append_closes ih

theorem closes_margin (depth : Nat) : Closes (margin depth).toList [] := by
  have hmargin : (margin depth).toList = ['\n'] ++ List.replicate (2 * depth) ' ' := by
    simp [margin]
  rw [hmargin]
  exact (closes_blank (.inr rfl)).append_closes (closes_blanks _)

theorem isInner_iff {c : Char} : isInner c = true ↔ c.isAlphanum ∨ c ∈ ['-', '+', '.'] := by
  rw [isInner, Bool.or_eq_true, decide_eq_true_iff]

theorem isInner_mark {c : Char} (h : c ∈ ['[', ']', '\x7b', '\x7d', ',', ':']) :
    isInner c = false := by
  simp only [List.mem_cons, List.not_mem_nil, or_false] at h
  rcases h with rfl | rfl | rfl | rfl | rfl | rfl <;> rfl

theorem enter_of_isInner {c : Char} (h : isInner c = true) (before : List Token) :
    enter c before = some (.inWord [c], before) := by
  have hother : ∀ d, isInner d = false → c ≠ d := by
    rintro d hd rfl
    rw [h] at hd
    cases hd
  have hblank : ¬ (c = ' ' ∨ c = '\n' ∨ c = '\r' ∨ c = '\t') := by
    rintro (rfl | rfl | rfl | rfl) <;> exact hother _ (by decide) rfl
  have hmark : ¬ c ∈ ['[', ']', '\x7b', '\x7d', ',', ':'] :=
    fun hc => hother c (isInner_mark hc) rfl
  rw [enter, if_neg hblank, if_neg (hother '"' (by decide)), if_neg hmark,
    if_pos (isInner_iff.mp h)]

theorem tokensFrom_inWord {cs text : List Char} (h : ∀ c ∈ cs, isInner c = true)
    (before : List Token) {rest : List Char} (hrest : Breaks rest) :
    tokensFrom (.inWord text) before (cs ++ rest) =
      tokensFrom .between (.word (String.ofList (text.reverse ++ cs)) :: before) rest := by
  induction cs generalizing text with
  | nil =>
    cases rest with
    | nil => simp [tokensFrom]
    | cons c rest =>
      have hc : ¬ (c.isAlphanum ∨ c ∈ ['-', '+', '.']) := by
        rw [← isInner_iff, hrest c rfl]
        decide
      rw [List.nil_append, List.append_nil, tokensFrom, tokensFrom, Place.step, Place.step,
        if_neg hc]
  | cons c cs ih =>
    have hc := isInner_iff.mp (h c (List.mem_cons_self ..))
    have hcs : ∀ d ∈ cs, isInner d = true := fun d hd => h d (List.mem_cons_of_mem _ hd)
    rw [List.cons_append, tokensFrom, Place.step, if_pos hc]
    dsimp only
    rw [ih hcs, List.reverse_cons, List.append_assoc, List.singleton_append]

theorem spells_word {s : String} (hne : s.toList ≠ []) (h : ∀ c ∈ s.toList, isInner c = true) :
    Spells s.toList [.word s] := by
  obtain ⟨c, cs, hcs⟩ := List.exists_cons_of_ne_nil hne
  rw [hcs] at h
  intro before rest hrest
  rw [hcs, List.cons_append, tokensFrom, Place.step, enter_of_isInner (h c (List.mem_cons_self ..))]
  dsimp only
  rw [tokensFrom_inWord (fun d hd => h d (List.mem_cons_of_mem _ hd)) before hrest]
  have hword : String.ofList ([c].reverse ++ cs) = s := by
    rw [List.reverse_singleton, List.singleton_append, ← hcs, String.ofList_toList]
  rw [hword]
  rfl

/-- A control in its written form is read as itself. -/
theorem digits?_hexDigits : ∀ n < 32, (Text.hexDigits 4 n).length = 4 ∧
    Text.digits? 16 (Text.hexDigits 4 n) = some n := by
  decide +kernel

theorem tokensFrom_inCode {n : Nat} (hn : n < 32) (text : List Char) (before : List Token)
    (rest : List Char) :
    tokensFrom (.inCode text none []) before (Text.hexDigits 4 n ++ rest) =
      tokensFrom (.inString (Char.ofNat n :: text)) before rest := by
  obtain ⟨hlength, hvalue⟩ := digits?_hexDigits n hn
  obtain ⟨a, b, c, d, hdigits⟩ : ∃ a b c d, Text.hexDigits 4 n = [a, b, c, d] := by
    match Text.hexDigits 4 n, hlength with
    | [a, b, c, d], _ => exact ⟨a, b, c, d, rfl⟩
  rw [hdigits] at hvalue ⊢
  have hunit : takeUnit text none n = some (.inString (Char.ofNat n :: text)) := by
    rw [takeUnit, if_neg (by omega), if_neg (by omega)]
  have hlast : (Place.inCode text none [c, b, a]).step d before =
      some (.inString (Char.ofNat n :: text), before) := by
    rw [Place.step, if_neg (show ¬ [c, b, a].length < 3 from Nat.lt_irrefl 3)]
    change (Text.digits? 16 [a, b, c, d]).bind (fun unit =>
      (takeUnit text none unit).bind fun place => some (place, before)) = _
    rw [hvalue, Option.bind_some, hunit]
    rfl
  have hfirst : (Place.inCode text none []).step a before =
      some (.inCode text none [a], before) := rfl
  have hsecond : (Place.inCode text none [a]).step b before =
      some (.inCode text none [b, a], before) := rfl
  have hthird : (Place.inCode text none [b, a]).step c before =
      some (.inCode text none [c, b, a], before) := rfl
  simp only [List.cons_append, List.nil_append]
  rw [tokensFrom_cons hfirst, tokensFrom_cons hsecond, tokensFrom_cons hthird,
    tokensFrom_cons hlast]

/-- A character of a string is read as itself, behind a backslash or as it is. -/
theorem tokensFrom_escapedChar (c : Char) (text : List Char) (before : List Token)
    (rest : List Char) :
    tokensFrom (.inString text) before (escapedChar c ++ rest) =
      tokensFrom (.inString (c :: text)) before rest := by
  by_cases hshort : c ∈ ['"', '\\', '\x08', '\x0c', '\n', '\r', '\t']
  · simp only [List.mem_cons, List.not_mem_nil, or_false] at hshort
    rcases hshort with rfl | rfl | rfl | rfl | rfl | rfl | rfl <;> rfl
  simp only [List.mem_cons, List.not_mem_nil, or_false, not_or] at hshort
  have hescaped : escapedChar c =
      if c.toNat < 32 then ['\\', 'u'] ++ Text.hexDigits 4 c.toNat else [c] := by
    simp only [escapedChar, hshort, if_false]
  rw [hescaped]
  by_cases hcontrol : c.toNat < 32
  · have hcode : tokensFrom (.inString text) before
        (['\\', 'u'] ++ Text.hexDigits 4 c.toNat ++ rest) =
          tokensFrom (.inCode text none []) before (Text.hexDigits 4 c.toNat ++ rest) := rfl
    rw [if_pos hcontrol, hcode, tokensFrom_inCode hcontrol, Char.ofNat_toNat]
  · rw [if_neg hcontrol, List.singleton_append, tokensFrom, Place.step, if_neg hshort.1,
      if_neg hshort.2.1, if_neg hcontrol]

theorem tokensFrom_inString (cs text : List Char) (before : List Token) (rest : List Char) :
    tokensFrom (.inString text) before (cs.flatMap escapedChar ++ '"' :: rest) =
      tokensFrom .between (.str (String.ofList (text.reverse ++ cs)) :: before) rest := by
  induction cs generalizing text with
  | nil =>
    rw [List.flatMap_nil, List.nil_append, List.append_nil]
    exact tokensFrom_cons rfl rest
  | cons c cs ih =>
    rw [List.flatMap_cons, List.append_assoc, tokensFrom_escapedChar, ih, List.reverse_cons,
      List.append_assoc, List.singleton_append]

theorem closes_quoteText (s : String) : Closes (quoteText s).toList [.str s] := by
  intro before rest
  have htext : (quoteText s).toList ++ rest =
      '"' :: (s.toList.flatMap escapedChar ++ '"' :: rest) := by
    simp [quoteText]
  have hopen : Place.between.step '"' before = some (.inString [], before) := rfl
  rw [htext, tokensFrom_cons hopen, tokensFrom_inString]
  simp

end LedBench.Json
