import Mathlib.Data.List.Basic
import OatImage.Proofs.JsonReading

/-!
# Lines of JSON text

What is written of a value on one line reads as that value again, entries in their order, whatever
characters its texts and keys hold. Fractions, which may be rounded, and moments, which are written
as texts, are left out of that. No character of such a line is a control, so that a line stays one.

A part of a line is read with any text behind it that can follow it there: first the characters of a
string, then whole numbers, then values, by induction on the value.
-/
namespace OatImage.JsonText

open Toml.Quotation (digitValue?)

/-! What is written reads back: characters and strings. -/

variable {charset : Charset} {rest : List Char}

theorem digitValue?_digitChar : ∀ d < 16, digitValue? (Nat.digitChar d) = some d := by decide

theorem toNat_digitChar : ∀ d < 16, 0x20 ≤ (Nat.digitChar d).toNat := by decide

theorem zeroPadded_toDigits (width n : Nat) :
    Numeral.zeroPadded (width + 2) (Nat.toDigits 16 n) =
      Numeral.zeroPadded (width + 1) (Nat.toDigits 16 (n / 16)) ++ [Nat.digitChar (n % 16)] := by
  unfold Numeral.zeroPadded
  by_cases h : n < 16
  · rw [Nat.toDigits_of_lt_base h, Nat.mod_eq_of_lt h, Nat.div_eq_of_lt h, Nat.toDigits_zero,
      List.length_singleton, List.length_singleton, Nat.add_sub_cancel]
    exact congrArg (· ++ [Nat.digitChar n]) List.replicate_succ'
  · rw [Nat.toDigits_of_base_le (by decide) (Nat.le_of_not_lt h), List.length_append,
      List.length_singleton, Nat.add_sub_add_right (width + 1) 1, List.append_assoc]

/-- The four digits of a unit. -/
theorem unitEscape_eq {n : Nat} (h : n < 0x10000) :
    unitEscape n = ['\\', 'u', Nat.digitChar (n / 16 / 16 / 16), Nat.digitChar (n / 16 / 16 % 16),
      Nat.digitChar (n / 16 % 16), Nat.digitChar (n % 16)] := by
  have hfirst : Numeral.zeroPadded 1 (Nat.toDigits 16 (n / 16 / 16 / 16)) =
      [Nat.digitChar (n / 16 / 16 / 16)] := by
    rw [Nat.toDigits_of_lt_base (by omega)]
    rfl
  rw [unitEscape, zeroPadded_toDigits, zeroPadded_toDigits, zeroPadded_toDigits, hfirst]
  rfl

theorem unit?_unitEscape {n : Nat} (h : n < 0x10000) (rest : List Char) : ∃ digits,
    unitEscape n = '\\' :: 'u' :: digits ∧ unit? (digits ++ rest) = some (n, rest) := by
  refine ⟨_, unitEscape_eq h, ?_⟩
  simp only [unit?, List.cons_append, List.nil_append, List.mapM_cons, List.mapM_nil,
    digitValue?_digitChar _ (show n / 16 / 16 / 16 < 16 by omega),
    digitValue?_digitChar _ (Nat.mod_lt _ (show 16 > 0 by decide)), Option.pure_def,
    Option.bind_eq_bind, Option.bind_some, List.foldl_cons, List.foldl_nil, Nat.zero_mul,
    Nat.zero_add, Option.some.injEq, Prod.mk.injEq, and_true]
  omega

theorem scalar?_toNat (c : Char) : scalar? c.toNat = some c := dif_pos c.valid

theorem charOfUnits?_one {s : List Char} {c : Char} (h : unit? s = some (c.toNat, rest)) :
    charOfUnits? s = some (c, rest) := by
  have hscalar : ¬ (0xD800 ≤ c.toNat && c.toNat < 0xDC00) = true := by
    have hvalid : c.toNat.isValidChar := c.valid
    unfold Nat.isValidChar at hvalid
    simp only [Bool.and_eq_true, decide_eq_true_eq]
    omega
  simp only [charOfUnits?, h, Option.bind_eq_bind, Option.bind_some, if_neg hscalar,
    scalar?_toNat, Option.pure_def]

theorem charOfUnits?_two {s behind : List Char} {c : Char} {high low : Nat}
    (h : unit? s = some (high, '\\' :: 'u' :: behind)) (hbehind : unit? behind = some (low, rest))
    (hhigh : 0xD800 ≤ high ∧ high < 0xDC00) (hlow : 0xDC00 ≤ low ∧ low < 0xE000)
    (hc : 0x10000 + (high - 0xD800) * 0x400 + (low - 0xDC00) = c.toNat) :
    charOfUnits? s = some (c, rest) := by
  have hhighest : (0xD800 ≤ high && high < 0xDC00) = true := by
    simpa only [Bool.and_eq_true, decide_eq_true_eq] using hhigh
  have hlowest : (0xDC00 ≤ low && low < 0xE000) = true := by
    simpa only [Bool.and_eq_true, decide_eq_true_eq] using hlow
  simp only [charOfUnits?, h, hbehind, Option.bind_eq_bind, Option.bind_some, if_pos hhighest,
    if_pos hlowest, hc, scalar?_toNat, Option.pure_def]

/-- A number of more than 16 bits is written as two units. -/
theorem charOfUnits?_numberEscape (c : Char) (rest : List Char) : ∃ digits,
    numberEscape c.toNat = '\\' :: 'u' :: digits ∧
      charOfUnits? (digits ++ rest) = some (c, rest) := by
  unfold numberEscape
  split
  · rename_i hn
    obtain ⟨digits, hdigits, hread⟩ := unit?_unitEscape hn rest
    exact ⟨digits, hdigits, charOfUnits?_one hread⟩
  · rename_i hn
    have hlt : c.toNat < 0x110000 := (CodePoint.ofChar c).isLt
    generalize hhigh : 0xD800 + (c.toNat - 0x10000) / 0x400 = high
    generalize hlow : 0xDC00 + (c.toNat - 0x10000) % 0x400 = low
    obtain ⟨second, hsecond, hreadlow⟩ :=
      unit?_unitEscape (show low < 0x10000 by omega) rest
    obtain ⟨first, hfirst, hreadhigh⟩ :=
      unit?_unitEscape (show high < 0x10000 by omega) (unitEscape low ++ rest)
    refine ⟨first ++ unitEscape low, by rw [hfirst, List.cons_append, List.cons_append], ?_⟩
    rw [List.append_assoc]
    rw [hsecond, List.cons_append, List.cons_append] at hreadhigh ⊢
    exact charOfUnits?_two hreadhigh hreadlow (by omega) (by omega) (by omega)

theorem char?_escaped {e d : Char} (he : letter? e = some d) (rest : List Char) :
    char? ('\\' :: e :: rest) = some (d, rest) := by
  have hu : e ≠ 'u' := by
    rintro rfl
    cases he
  rw [char?.eq_3 _ _ hu, he]
  rfl

theorem char?_plain {c : Char} (hmark : c ≠ '"') (hslash : c ≠ '\\') (hc : 0x20 ≤ c.toNat)
    (rest : List Char) : char? (c :: rest) = some (c, rest) := by
  have hplain : ¬ (c = '"' || c = '\\' || c.toNat < 0x20) = true := by
    simpa [hmark, hslash] using hc
  rw [char?.eq_4 _ _ (fun _ h _ => hslash h) (fun _ _ h _ => hslash h), if_neg hplain]

/-- The three ways in which a character is written. -/
inductive IsWritten (c : Char) : List Char → Prop
  | letter {e : Char} (he : letter? e = some c) (hprinted : 0x20 ≤ e.toNat) :
      IsWritten c ['\\', e]
  | number : IsWritten c (numberEscape c.toNat)
  | plain (hmark : c ≠ '"') (hslash : c ≠ '\\') (hc : 0x20 ≤ c.toNat) : IsWritten c [c]

theorem isWritten_charText (charset : Charset) (c : Char) : IsWritten c (charText charset c) := by
  have hletter : ∀ n e, c.toNat = n → letter? e = some (Char.ofNat n) → 0x20 ≤ e.toNat →
      IsWritten c ['\\', e] := by
    rintro n e rfl he hprinted
    exact .letter (he.trans (congrArg some (Char.ofNat_toNat c))) hprinted
  unfold charText
  by_cases hmark : c = '"'
  · rw [if_pos hmark]
    exact hletter 34 '"' (hmark ▸ rfl) rfl (by decide)
  by_cases hslash : c = '\\'
  · rw [if_neg hmark, if_pos hslash]
    exact hletter 92 '\\' (hslash ▸ rfl) rfl (by decide)
  rw [if_neg hmark, if_neg hslash]
  split
  · rename_i hfeed
    exact hletter 10 'n' (hfeed ▸ rfl) rfl (by decide)
  split
  · rename_i hreturn
    exact hletter 13 'r' (hreturn ▸ rfl) rfl (by decide)
  split
  · rename_i htab
    exact hletter 9 't' (htab ▸ rfl) rfl (by decide)
  split
  · rename_i hback
    exact hletter 8 'b' hback rfl (by decide)
  split
  · rename_i hform
    exact hletter 12 'f' hform rfl (by decide)
  by_cases hcontrol : c.toNat < 0x20
  · have hunit : numberEscape c.toNat = unitEscape c.toNat := if_pos (by omega)
    rw [if_pos hcontrol, ← hunit]
    exact .number
  rw [if_neg hcontrol]
  split
  · exact .number
  · exact .plain hmark hslash (Nat.le_of_not_lt hcontrol)

/-- What is written of a character reads as that character. -/
theorem char?_charText (charset : Charset) (c : Char) (rest : List Char) :
    char? (charText charset c ++ rest) = some (c, rest) := by
  have hwritten := isWritten_charText charset c
  generalize charText charset c = text at hwritten ⊢
  cases hwritten with
  | letter he => exact char?_escaped he rest
  | number =>
      obtain ⟨digits, hdigits, hread⟩ := charOfUnits?_numberEscape c rest
      rw [hdigits]
      exact hread
  | plain hmark hslash hc => exact char?_plain hmark hslash hc rest

theorem string?_cons {s behind after more : List Char} {c : Char}
    (h : char? s = some (c, behind)) (hmore : string? behind = some (more, after)) :
    string? s = some (c :: more, after) := by
  rw [string?.eq_def]
  split
  · cases h
  · split
    · rename_i hnone
      cases hnone.symm.trans h
    · rename_i hsome
      cases hsome.symm.trans h
      rw [hmore]
      rfl

/-- What is written of some characters, up to the closing mark, reads as these characters. -/
theorem string?_charTexts (charset : Charset) (chars rest : List Char) :
    string? (chars.flatMap (charText charset) ++ '"' :: rest) = some (chars, rest) := by
  induction chars with
  | nil => rw [List.flatMap_nil, List.nil_append, string?]
  | cons c chars ih =>
      rw [List.flatMap_cons, List.append_assoc]
      exact string?_cons (char?_charText charset c _) ih

/-! Whole numbers. -/

/-- The text behind a value: it ends, or goes on with a comma or with a bracket that closes. -/
def EndsValue (rest : List Char) : Prop := ∀ c ∈ rest.head?, c = ',' ∨ c = ']' ∨ c = '\x7d'

theorem exists_toDigits (n : Nat) : ∃ c more, Nat.toDigits 10 n = c :: more ∧ c.isDigit = true := by
  obtain ⟨c, more, h⟩ := List.exists_cons_of_ne_nil (Nat.toDigits_ne_nil (n := n) (b := 10))
  have hc : c ∈ Nat.toDigits 10 n := h ▸ List.mem_cons_self
  exact ⟨c, more, h, Nat.isDigit_of_mem_toDigits (by decide) (by decide) hc⟩

theorem head?_toDigits {n : Nat} (h : n ≠ 0) : (Nat.toDigits 10 n).head? ≠ some '0' := by
  have hdigit : ∀ d < 10, d ≠ 0 → [Nat.digitChar d].head? ≠ some '0' := by decide
  induction n using Nat.strongRecOn with
  | _ n ih =>
      by_cases hn : n < 10
      · rw [Nat.toDigits_of_lt_base hn]
        exact hdigit n hn h
      · rw [Nat.toDigits_of_base_le (by decide) (Nat.le_of_not_lt hn), List.head?_append]
        have hsmaller := ih (n / 10) (by omega) (by omega)
        cases hhead : (Nat.toDigits 10 (n / 10)).head? with
        | none => exact absurd (List.head?_eq_none_iff.mp hhead) Nat.toDigits_ne_nil
        | some d => rwa [hhead] at hsmaller

theorem takeWhile_toDigits (n : Nat) (hrest : ∀ c ∈ rest.head?, c.isDigit = false) :
    (Nat.toDigits 10 n ++ rest).takeWhile Char.isDigit = Nat.toDigits 10 n ∧
      (Nat.toDigits 10 n ++ rest).dropWhile Char.isDigit = rest := by
  have hdigits : ∀ c ∈ Nat.toDigits 10 n, c.isDigit = true :=
    fun c hc => Nat.isDigit_of_mem_toDigits (by decide) (by decide) hc
  rw [List.takeWhile_append_of_pos hdigits, List.dropWhile_append_of_pos hdigits]
  cases rest with
  | nil => exact ⟨List.append_nil _, rfl⟩
  | cons c rest =>
      have hc : ¬ c.isDigit = true := by
        rw [hrest c rfl]
        exact Bool.false_ne_true
      rw [List.takeWhile_cons_of_neg hc, List.dropWhile_cons_of_neg hc, List.append_nil]
      exact ⟨rfl, rfl⟩

theorem whole?_toDigits (n : Nat) (hrest : ∀ c ∈ rest.head?, c.isDigit = false) :
    whole? (Nat.toDigits 10 n ++ rest) = some (Nat.toDigits 10 n, rest) := by
  obtain ⟨htake, hdrop⟩ := takeWhile_toDigits n hrest
  rw [whole?, htake, hdrop]
  split
  · rename_i hnil
    exact absurd hnil Nat.toDigits_ne_nil
  · rename_i hzero
    by_cases hn : n = 0
    · rw [hn, Nat.toDigits_zero] at hzero
      cases hzero
    · exact absurd (by rw [hzero]; rfl) (head?_toDigits hn)
  · rfl

theorem EndsValue.isDigit (h : EndsValue rest) : ∀ c ∈ rest.head?, c.isDigit = false := by
  intro c hc
  rcases h c hc with rfl | rfl | rfl
  all_goals rfl

theorem EndsValue.fraction (h : EndsValue rest) : fraction rest = ([], rest) := by
  cases rest with
  | nil => rfl
  | cons c rest =>
      rcases h c rfl with rfl | rfl | rfl
      all_goals rfl

theorem EndsValue.exponent (h : EndsValue rest) : exponent rest = (none, rest) := by
  cases rest with
  | nil => rfl
  | cons c rest =>
      rcases h c rfl with rfl | rfl | rfl
      all_goals rfl

theorem number?_of_sign {s : List Char} (negative : Bool) (n : Nat)
    (hsign : sign s = (negative, Nat.toDigits 10 n ++ rest)) (h : EndsValue rest) :
    number? s = some (.integer (signed negative n), rest) := by
  simp only [number?, hsign, whole?_toDigits n h.isDigit, h.fraction, h.exponent,
    Option.bind_eq_bind, Option.bind_some, Nat.ofDigitChars_ten_toDigits, Option.pure_def]

theorem toList_decimal_ofNat (n : Nat) :
    (Numeral.decimal (.ofNat n)).toList = Nat.toDigits 10 n := String.toList_ofList

theorem toList_decimal_negSucc (n : Nat) :
    (Numeral.decimal (.negSucc n)).toList = '-' :: Nat.toDigits 10 (n + 1) := by
  rw [Numeral.decimal, Numeral.signed, Numeral.natText, String.toList_append]
  exact congrArg ('-' :: ·) String.toList_ofList

/-- The text of a whole number starts with its sign or with a digit. -/
theorem exists_decimal (n : Int) : ∃ c more, (Numeral.decimal n).toList = c :: more ∧
    (c = '-' ∨ c.isDigit = true) := by
  cases n with
  | negSucc n => exact ⟨'-', _, toList_decimal_negSucc n, .inl rfl⟩
  | ofNat n =>
      obtain ⟨c, more, h, hdigit⟩ := exists_toDigits n
      exact ⟨c, more, (toList_decimal_ofNat n).trans h, .inr hdigit⟩

/-- The text of a whole number reads as that number, if no digit is behind it. -/
theorem number?_decimal (n : Int) (h : EndsValue rest) :
    number? ((Numeral.decimal n).toList ++ rest) = some (.integer n, rest) := by
  cases n with
  | ofNat n =>
      rw [toList_decimal_ofNat]
      refine number?_of_sign false n ?_ h
      obtain ⟨c, more, hdigits, hdigit⟩ := exists_toDigits n
      have hminus : c ≠ '-' := by
        rintro rfl
        cases hdigit
      rw [hdigits]
      exact sign.eq_2 _ fun _ h => hminus (List.cons.inj h).1
  | negSucc n =>
      rw [toList_decimal_negSucc]
      refine number?_of_sign true (n + 1) ?_ h
      rfl

/-! Values. -/

/-- JSON text says all of a value: there is no fraction in it, which may be rounded, and no moment,
which is written as a text. -/
inductive IsExact : Value → Prop
  | none : IsExact .none
  | flag (b : Bool) : IsExact (.flag b)
  | integer (n : Int) : IsExact (.integer n)
  | text (s : String) : IsExact (.text s)
  | list {items : List Value} (h : ∀ v ∈ items, IsExact v) : IsExact (.list items)
  | table {entries : List (String × Value)} (h : ∀ e ∈ entries, IsExact e.2) :
      IsExact (.table entries)

/-- The line of a value is read as this value, whatever is behind it. -/
def ReadsBack (charset : Charset) (v : Value) : Prop :=
  ∀ steps rest, (line charset v).toList.length < steps → EndsValue rest →
    valueWithin steps ((line charset v).toList ++ rest) = some (v, rest)

variable {s : List Char} {steps : Nat} {v : Value}

theorem skipBlanks_cons {c : Char} (h : isBlank c = false) (s : List Char) :
    skipBlanks (c :: s) = c :: s := by
  rw [skipBlanks, List.dropWhile_cons_of_neg (by simpa using h)]

theorem skipBlanks_blank (s : List Char) : skipBlanks (' ' :: s) = skipBlanks s := rfl

theorem valueWithin_blank (steps : Nat) (s : List Char) :
    valueWithin steps (' ' :: s) = valueWithin steps s := by
  cases steps with
  | zero => rfl
  | succ steps => rw [valueWithin, skipBlanks_blank, ← valueWithin]

theorem itemsWithin_blank (steps : Nat) (s : List Char) :
    itemsWithin steps (' ' :: s) = itemsWithin steps s := by
  cases steps with
  | zero => rfl
  | succ steps => rw [itemsWithin.eq_2, itemsWithin.eq_2, valueWithin_blank]

theorem entriesWithin_blank (steps : Nat) (s : List Char) :
    entriesWithin steps (' ' :: s) = entriesWithin steps s := by
  cases steps with
  | zero => rfl
  | succ steps => rw [entriesWithin.eq_2, entriesWithin.eq_2, key?, skipBlanks_blank, ← key?]

theorem toList_quote (charset : Charset) (s : String) :
    (quote charset s).toList = '"' :: (s.toList.flatMap (charText charset) ++ ['"']) := by
  rw [quote, String.toList_ofList, List.cons_append]

theorem valueWithin_quote (charset : Charset) (text : String) (rest : List Char) :
    valueWithin (steps + 1) ((quote charset text).toList ++ rest) = some (.text text, rest) := by
  rw [toList_quote, List.cons_append, List.append_assoc, List.singleton_append, valueWithin,
    skipBlanks_cons rfl]
  simp only [string?_charTexts, Option.map_some, String.ofList_toList]

theorem key?_quote (charset : Charset) (key : String) (rest : List Char) :
    key? ((quote charset key).toList ++ ':' :: rest) = some (key, rest) := by
  rw [toList_quote, List.cons_append, List.append_assoc, List.singleton_append, key?,
    skipBlanks_cons rfl]
  simp only [string?_charTexts, Option.bind_eq_bind, Option.bind_some,
    skipBlanks_cons (c := ':') rfl, String.ofList_toList, Option.pure_def]

theorem ne_of_decimal {c d : Char} (hc : c = '-' ∨ c.isDigit = true) (hminus : d ≠ '-')
    (hdigit : d.isDigit = false) : c ≠ d := by
  rintro rfl
  rcases hc with rfl | hc
  · exact hminus rfl
  · exact Bool.false_ne_true (hdigit.symm.trans hc)

theorem isBlank_of_decimal {c : Char} (hc : c = '-' ∨ c.isDigit = true) : isBlank c = false := by
  have hblank : c ≠ ' ' := ne_of_decimal hc (by decide) rfl
  have htab : c ≠ '\t' := ne_of_decimal hc (by decide) rfl
  have hfeed : c ≠ '\n' := ne_of_decimal hc (by decide) rfl
  have hreturn : c ≠ '\r' := ne_of_decimal hc (by decide) rfl
  simp only [isBlank, hblank, htab, hfeed, hreturn, decide_false, Bool.or_self]

theorem valueWithin_decimal (n : Int) (h : EndsValue rest) :
    valueWithin (steps + 1) ((Numeral.decimal n).toList ++ rest) = some (.integer n, rest) := by
  rw [← number?_decimal n h]
  obtain ⟨c, more, hdecimal, hc⟩ := exists_decimal n
  rw [hdecimal, List.cons_append, valueWithin, skipBlanks_cons (isBlank_of_decimal hc)]
  split
  case h_7 => rfl
  all_goals
    rename_i heq
    exact absurd (List.cons.inj heq).1 (ne_of_decimal hc (by decide) rfl)

theorem toList_line_list (charset : Charset) (items : List Value) :
    (line charset (.list items)).toList = '[' :: ((lineItems charset items).toList ++ [']']) := by
  rw [line_list, String.toList_append, String.toList_append]
  rfl

theorem toList_line_table (charset : Charset) (entries : List (String × Value)) :
    (line charset (.table entries)).toList =
      '\x7b' :: ((lineEntries charset entries).toList ++ ['\x7d']) := by
  rw [line_table, String.toList_append, String.toList_append]
  rfl

/-- A line starts with no blank and with no bracket that closes a list. -/
theorem IsExact.exists_line (h : IsExact v) (charset : Charset) : ∃ c more,
    (line charset v).toList = c :: more ∧ isBlank c = false ∧ c ≠ ']' := by
  cases h with
  | none => exact ⟨'n', _, by rw [line_none]; rfl, rfl, by decide⟩
  | flag b =>
      rw [line_flag]
      cases b
      · exact ⟨'f', _, rfl, rfl, by decide⟩
      · exact ⟨'t', _, rfl, rfl, by decide⟩
  | integer n =>
      obtain ⟨c, more, hdecimal, hc⟩ := exists_decimal n
      rw [line_integer]
      exact ⟨c, more, hdecimal, isBlank_of_decimal hc, ne_of_decimal hc (by decide) rfl⟩
  | text s => exact ⟨'"', _, by rw [line_text, toList_quote], rfl, by decide⟩
  | list => exact ⟨'[', _, toList_line_list charset _, rfl, by decide⟩
  | table => exact ⟨'\x7b', _, toList_line_table charset _, rfl, by decide⟩

theorem toList_lineItems (charset : Charset) (v w : Value) (items : List Value) :
    (lineItems charset (v :: w :: items)).toList =
      (line charset v).toList ++ ',' :: ' ' :: (lineItems charset (w :: items)).toList := by
  rw [lineItems_cons_cons, String.toList_append, String.toList_append, List.append_assoc]
  rfl

/-- An entry of a table on its line. -/
def entryText (charset : Charset) (k : String) (v : Value) : List Char :=
  (quote charset k).toList ++ ':' :: ' ' :: (line charset v).toList

theorem toList_lineEntries_one (charset : Charset) (k : String) (v : Value) :
    (lineEntries charset [(k, v)]).toList = entryText charset k v := by
  rw [lineEntries_singleton, String.toList_append, String.toList_append, List.append_assoc]
  rfl

theorem toList_lineEntries (charset : Charset) (k : String) (v : Value) (e : String × Value)
    (entries : List (String × Value)) :
    (lineEntries charset ((k, v) :: e :: entries)).toList =
      entryText charset k v ++ ',' :: ' ' :: (lineEntries charset (e :: entries)).toList := by
  rw [lineEntries_cons_cons, String.toList_append, String.toList_append,
    ← lineEntries_singleton, toList_lineEntries_one, List.append_assoc]
  rfl

theorem IsExact.exists_lineItems (h : IsExact v) (charset : Charset) (items : List Value) :
    ∃ c more, (lineItems charset (v :: items)).toList = c :: more ∧
      isBlank c = false ∧ c ≠ ']' := by
  obtain ⟨c, more, hline, hc⟩ := h.exists_line charset
  cases items with
  | nil => exact ⟨c, more, by rw [lineItems_singleton, hline], hc⟩
  | cons w items => exact ⟨c, _, by rw [toList_lineItems, hline, List.cons_append], hc⟩

theorem exists_lineEntries (charset : Charset) (k : String) (v : Value)
    (entries : List (String × Value)) :
    ∃ more, (lineEntries charset ((k, v) :: entries)).toList = '"' :: more := by
  cases entries with
  | nil => exact ⟨_, by rw [toList_lineEntries_one, entryText, toList_quote, List.cons_append]⟩
  | cons e entries =>
      exact ⟨_, by rw [toList_lineEntries, entryText, toList_quote, List.cons_append,
        List.cons_append]⟩

theorem itemsWithin_line {items : List Value} (h : ∀ w ∈ v :: items, ReadsBack charset w)
    (hsteps : (lineItems charset (v :: items)).toList.length + 1 < steps) (rest : List Char) :
    itemsWithin steps ((lineItems charset (v :: items)).toList ++ ']' :: rest) =
      some (v :: items, rest) := by
  have hv : ReadsBack charset v := h v List.mem_cons_self
  induction items generalizing v steps with
  | nil =>
      obtain ⟨steps, rfl⟩ : ∃ n, steps = n + 1 := ⟨steps - 1, by omega⟩
      rw [lineItems_singleton] at hsteps ⊢
      rw [itemsWithin, hv steps (']' :: rest) (by omega) (by rintro c ⟨⟩; exact .inr (.inl rfl))]
      rfl
  | cons w items ih =>
      obtain ⟨steps, rfl⟩ : ∃ n, steps = n + 1 := ⟨steps - 1, by omega⟩
      have hw : ∀ x ∈ w :: items, ReadsBack charset x := fun x hx => h x (.tail v hx)
      -- the comma ends the first item, and the others are read from the blank behind it on
      rw [toList_lineItems] at hsteps ⊢
      simp only [List.length_append, List.length_cons] at hsteps
      rw [List.append_assoc, List.cons_append, List.cons_append, itemsWithin,
        hv steps _ (by omega) (by rintro c ⟨⟩; exact .inl rfl)]
      simp only [Option.bind_eq_bind, Option.bind_some, skipBlanks_cons (c := ',') rfl]
      rw [itemsWithin_blank, ih hw (by omega) (hw w List.mem_cons_self)]
      rfl

theorem keyAndValue_entryText (k : String) (hv : ReadsBack charset v)
    (hsteps : (entryText charset k v).length < steps) (h : EndsValue rest) :
    key? (entryText charset k v ++ rest) = some (k, ' ' :: (line charset v).toList ++ rest) ∧
      valueWithin steps (' ' :: (line charset v).toList ++ rest) = some (v, rest) := by
  rw [entryText, List.length_append, List.length_cons, List.length_cons] at hsteps
  constructor
  · rw [entryText, List.append_assoc]
    exact key?_quote charset k _
  · rw [List.cons_append, valueWithin_blank]
    exact hv steps rest (by omega) h

theorem entriesWithin_line {k : String} {entries : List (String × Value)}
    (h : ∀ e ∈ (k, v) :: entries, ReadsBack charset e.2)
    (hsteps : (lineEntries charset ((k, v) :: entries)).toList.length + 1 < steps)
    (rest : List Char) :
    entriesWithin steps ((lineEntries charset ((k, v) :: entries)).toList ++ '\x7d' :: rest) =
      some ((k, v) :: entries, rest) := by
  have hv : ReadsBack charset v := h (k, v) List.mem_cons_self
  induction entries generalizing k v steps with
  | nil =>
      obtain ⟨steps, rfl⟩ : ∃ n, steps = n + 1 := ⟨steps - 1, by omega⟩
      rw [toList_lineEntries_one] at hsteps ⊢
      have hend : EndsValue ('\x7d' :: rest) := by
        rintro c ⟨⟩
        exact .inr (.inr rfl)
      obtain ⟨hkey, hvalue⟩ := keyAndValue_entryText k hv (show _ < steps by omega) hend
      rw [entriesWithin, hkey]
      simp only [Option.bind_eq_bind, Option.bind_some, hvalue]
      rfl
  | cons e entries ih =>
      obtain ⟨l, w⟩ := e
      obtain ⟨steps, rfl⟩ : ∃ n, steps = n + 1 := ⟨steps - 1, by omega⟩
      have hrest : ∀ e ∈ (l, w) :: entries, ReadsBack charset e.2 := fun e he => h e (.tail _ he)
      have hw : ReadsBack charset w := hrest (l, w) List.mem_cons_self
      rw [toList_lineEntries] at hsteps ⊢
      rw [List.length_append, List.length_cons, List.length_cons] at hsteps
      rw [List.append_assoc, List.cons_append, List.cons_append]
      generalize hbehind : (lineEntries charset ((l, w) :: entries)).toList ++ '\x7d' :: rest =
        behind
      have hend : EndsValue (',' :: ' ' :: behind) := by
        rintro c ⟨⟩
        exact .inl rfl
      obtain ⟨hkey, hvalue⟩ := keyAndValue_entryText k hv (show _ < steps by omega) hend
      rw [entriesWithin, hkey]
      simp only [Option.bind_eq_bind, Option.bind_some, hvalue, skipBlanks_cons (c := ',') rfl]
      rw [entriesWithin_blank, ← hbehind, ih hrest (by omega) hw]
      rfl

theorem valueWithin_list {items : List Value} (hexact : ∀ v ∈ items, IsExact v)
    (h : ∀ v ∈ items, ReadsBack charset v)
    (hsteps : (lineItems charset items).toList.length + 1 < steps) (rest : List Char) :
    valueWithin (steps + 1) ('[' :: ((lineItems charset items).toList ++ ']' :: rest)) =
      some (.list items, rest) := by
  rw [valueWithin, skipBlanks_cons rfl]
  cases items with
  | nil =>
      rw [lineItems_nil]
      rfl
  | cons v items =>
      have hitems := itemsWithin_line h hsteps rest
      obtain ⟨c, more, hline, hblank, hclose⟩ :=
        (hexact v List.mem_cons_self).exists_lineItems charset items
      -- no item starts with the bracket that would make the list an empty one
      rw [hline, List.cons_append] at hitems ⊢
      simp only [skipBlanks_cons hblank]
      split
      · rename_i heq
        exact absurd (List.cons.inj heq).1 hclose
      · rw [hitems]
        rfl

theorem valueWithin_table {entries : List (String × Value)}
    (h : ∀ e ∈ entries, ReadsBack charset e.2)
    (hsteps : (lineEntries charset entries).toList.length + 1 < steps) (rest : List Char) :
    valueWithin (steps + 1) ('\x7b' :: ((lineEntries charset entries).toList ++ '\x7d' :: rest)) =
      some (.table entries, rest) := by
  rw [valueWithin, skipBlanks_cons rfl]
  cases entries with
  | nil =>
      rw [lineEntries_nil]
      rfl
  | cons e entries =>
      obtain ⟨k, v⟩ := e
      have hentries := entriesWithin_line h hsteps rest
      obtain ⟨more, hline⟩ := exists_lineEntries charset k v entries
      rw [hline, List.cons_append] at hentries ⊢
      exact congrArg (Option.map fun p => (Value.table p.1, p.2)) hentries

theorem readsBack_of_succ (h : ∀ steps rest, (line charset v).toList.length ≤ steps →
    EndsValue rest → valueWithin (steps + 1) ((line charset v).toList ++ rest) = some (v, rest)) :
    ReadsBack charset v := by
  intro steps rest hsteps hrest
  obtain ⟨n, rfl⟩ := Nat.exists_eq_succ_of_ne_zero (Nat.ne_zero_of_lt hsteps)
  exact h n rest (Nat.le_of_lt_succ hsteps) hrest

/-- The line of a value of which JSON text says all reads as this value. -/
theorem IsExact.readsBack (h : IsExact v) (charset : Charset) : ReadsBack charset v := by
  induction h with
  | none =>
      refine readsBack_of_succ fun steps rest hsteps hrest => ?_
      rw [line_none]
      rfl
  | flag b =>
      refine readsBack_of_succ fun steps rest hsteps hrest => ?_
      rw [line_flag]
      cases b
      all_goals rfl
  | integer n =>
      refine readsBack_of_succ fun steps rest hsteps hrest => ?_
      rw [line_integer]
      exact valueWithin_decimal n hrest
  | text s =>
      refine readsBack_of_succ fun steps rest hsteps hrest => ?_
      rw [line_text]
      exact valueWithin_quote charset s rest
  | @list items h ih =>
      refine readsBack_of_succ fun steps rest hsteps hrest => ?_
      rw [toList_line_list] at hsteps ⊢
      rw [List.length_cons, List.length_append, List.length_singleton] at hsteps
      rw [List.cons_append, List.append_assoc, List.singleton_append]
      exact valueWithin_list h ih (by omega) rest
  | @table entries h ih =>
      refine readsBack_of_succ fun steps rest hsteps hrest => ?_
      rw [toList_line_table] at hsteps ⊢
      rw [List.length_cons, List.length_append, List.length_singleton] at hsteps
      rw [List.cons_append, List.append_assoc, List.singleton_append]
      exact valueWithin_table ih (by omega) rest

/-- A line reads as the value that it was written of. -/
theorem IsExact.read_line (h : IsExact v) (charset : Charset) :
    read (line charset v) = some v := by
  have hback := h.readsBack charset ((line charset v).length + 1) [] (Nat.lt_succ_self _)
    (by rintro c ⟨⟩)
  rw [List.append_nil] at hback
  rw [read, hback]
  rfl

/-! No control stands in a line. -/

theorem printed_of_all {chars : List Char} (h : (chars.all fun c => 0x20 ≤ c.toNat) = true) :
    ∀ c ∈ chars, 0x20 ≤ c.toNat :=
  fun c hc => of_decide_eq_true (List.all_eq_true.mp h c hc)

theorem unitEscape_printed {n : Nat} (h : n < 0x10000) :
    ∀ c ∈ unitEscape n, 0x20 ≤ c.toNat := by
  rw [unitEscape_eq h]
  simp only [List.forall_mem_cons]
  refine ⟨by decide, by decide, toNat_digitChar _ (by omega), toNat_digitChar _ (by omega),
    toNat_digitChar _ (by omega), toNat_digitChar _ (by omega), ?_⟩
  rintro c ⟨⟩

theorem numberEscape_printed {n : Nat} (h : n < 0x110000) :
    ∀ c ∈ numberEscape n, 0x20 ≤ c.toNat := by
  by_cases hunit : n < 0x10000
  · rw [numberEscape, if_pos hunit]
    exact unitEscape_printed hunit
  · rw [numberEscape, if_neg hunit]
    exact List.forall_mem_append.mpr
      ⟨unitEscape_printed (by omega), unitEscape_printed (by omega)⟩

theorem charText_printed (charset : Charset) (c : Char) :
    ∀ d ∈ charText charset c, 0x20 ≤ d.toNat := by
  have hwritten := isWritten_charText charset c
  generalize charText charset c = text at hwritten ⊢
  cases hwritten with
  | letter he hprinted =>
      exact List.forall_mem_cons.mpr ⟨by decide, List.forall_mem_singleton.mpr hprinted⟩
  | number => exact numberEscape_printed (CodePoint.ofChar c).isLt
  | plain hmark hslash hc => exact List.forall_mem_singleton.mpr hc

theorem quote_printed (charset : Charset) (s : String) :
    ∀ c ∈ (quote charset s).toList, 0x20 ≤ c.toNat := by
  rw [toList_quote]
  refine List.forall_mem_cons.mpr ⟨by decide, List.forall_mem_append.mpr
    ⟨fun c hc => ?_, printed_of_all rfl⟩⟩
  obtain ⟨d, -, hd⟩ := List.mem_flatMap.mp hc
  exact charText_printed charset d c hd

theorem decimal_printed (n : Int) : ∀ c ∈ (Numeral.decimal n).toList, 0x20 ≤ c.toNat := by
  have hdigits : ∀ m : Nat, ∀ c ∈ Nat.toDigits 10 m, 0x20 ≤ c.toNat := by
    intro m c hc
    have hdigit := Nat.isDigit_of_mem_toDigits (by decide) (by decide) hc
    exact Nat.le_trans (by decide) (Char.isDigit_iff_toNat.mp hdigit).1
  cases n with
  | ofNat n => exact toList_decimal_ofNat n ▸ hdigits n
  | negSucc n =>
      rw [toList_decimal_negSucc]
      exact List.forall_mem_cons.mpr ⟨by decide, hdigits _⟩

theorem lineItems_printed {items : List Value}
    (h : ∀ v ∈ items, ∀ c ∈ (line charset v).toList, 0x20 ≤ c.toNat) :
    ∀ c ∈ (lineItems charset items).toList, 0x20 ≤ c.toNat := by
  induction items with
  | nil =>
      rw [lineItems_nil]
      rintro c ⟨⟩
  | cons v items ih =>
      obtain ⟨hv, hitems⟩ := List.forall_mem_cons.mp h
      cases items with
      | nil => rwa [lineItems_singleton]
      | cons w items =>
          rw [toList_lineItems]
          simp only [List.forall_mem_cons, List.forall_mem_append]
          exact ⟨hv, by decide, by decide, ih hitems⟩

theorem lineEntries_printed {entries : List (String × Value)}
    (h : ∀ e ∈ entries, ∀ c ∈ (line charset e.2).toList, 0x20 ≤ c.toNat) :
    ∀ c ∈ (lineEntries charset entries).toList, 0x20 ≤ c.toNat := by
  induction entries with
  | nil =>
      rw [lineEntries_nil]
      rintro c ⟨⟩
  | cons e entries ih =>
      obtain ⟨k, v⟩ := e
      obtain ⟨hv, hentries⟩ := List.forall_mem_cons.mp h
      have hentry : ∀ c ∈ entryText charset k v, 0x20 ≤ c.toNat := by
        simp only [entryText, List.forall_mem_cons, List.forall_mem_append]
        exact ⟨quote_printed charset k, by decide, by decide, hv⟩
      cases entries with
      | nil => rwa [toList_lineEntries_one]
      | cons e entries =>
          rw [toList_lineEntries]
          simp only [List.forall_mem_cons, List.forall_mem_append]
          exact ⟨hentry, by decide, by decide, ih hentries⟩

/-- The characters of a line are none of the controls that end or break a line. -/
theorem IsExact.line_printed (h : IsExact v) (charset : Charset) :
    ∀ c ∈ (line charset v).toList, 0x20 ≤ c.toNat := by
  induction h with
  | none =>
      rw [line_none]
      exact printed_of_all rfl
  | flag b =>
      rw [line_flag]
      cases b
      all_goals exact printed_of_all rfl
  | integer n => exact line_integer charset n ▸ decimal_printed n
  | text s => exact line_text charset s ▸ quote_printed charset s
  | list h ih =>
      rw [toList_line_list]
      exact List.forall_mem_cons.mpr ⟨by decide, List.forall_mem_append.mpr
        ⟨lineItems_printed ih, printed_of_all rfl⟩⟩
  | table h ih =>
      rw [toList_line_table]
      exact List.forall_mem_cons.mpr ⟨by decide, List.forall_mem_append.mpr
        ⟨lineEntries_printed ih, printed_of_all rfl⟩⟩

end OatImage.JsonText
