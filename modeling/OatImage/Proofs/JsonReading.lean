import OatImage.JsonText
import OatImage.Toml.Quotation

/-!
# Reading JSON text

A reader of JSON text that knows nothing of how values are written: `read` takes a text that is one
value, with blanks around it and between its parts, and nothing else. A string holds no controls as
they are, and half a surrogate pair is no character. The entries of a table are kept in their order.
-/
namespace OatImage.JsonText

open Toml.Quotation (digitValue?)

def isBlank (c : Char) : Bool := c = ' ' || c = '\t' || c = '\n' || c = '\r'

def skipBlanks (s : List Char) : List Char := s.dropWhile isBlank

/-- A 16-bit unit in four hexadecimal digits, and the text behind it. -/
def unit? : List Char → Option (Nat × List Char)
  | a :: b :: c :: d :: rest => do
    let digits ← [a, b, c, d].mapM digitValue?
    pure (digits.foldl (fun n d => n * 16 + d) 0, rest)
  | _ => none

/-- The character with a number; surrogates are no characters. -/
def scalar? (n : Nat) : Option Char :=
  if h : n.isValidChar then some (Char.ofNatAux n h) else none

/-- A character by its units. The low surrogate of a pair is in an escape of its own. -/
def charOfUnits? (s : List Char) : Option (Char × List Char) := do
  let (high, rest) ← unit? s
  if 0xD800 ≤ high && high < 0xDC00 then
    match rest with
    | '\\' :: 'u' :: rest =>
      let (low, rest) ← unit? rest
      if 0xDC00 ≤ low && low < 0xE000 then
        let c ← scalar? (0x10000 + (high - 0xD800) * 0x400 + (low - 0xDC00))
        pure (c, rest)
      else none
    | _ => none
  else
    let c ← scalar? high
    pure (c, rest)

def letter? (c : Char) : Option Char :=
  if c = '/' then some '/' else Toml.Quotation.letter? c

/-- A character inside a string, as it stands or escaped. -/
def char? : List Char → Option (Char × List Char)
  | [] => none
  | '\\' :: 'u' :: rest => charOfUnits? rest
  | '\\' :: c :: rest => (letter? c).map fun c => (c, rest)
  | c :: rest => if c = '"' || c = '\\' || c.toNat < 0x20 then none else some (c, rest)

theorem unit?_length {s rest : List Char} {n : Nat} (h : unit? s = some (n, rest)) :
    rest.length < s.length := by
  unfold unit? at h
  split at h
  · obtain ⟨digits, -, h⟩ := Option.bind_eq_some_iff.mp h
    cases h
    simp only [List.length_cons]
    omega
  · cases h

theorem charOfUnits?_length {s rest : List Char} {c : Char}
    (h : charOfUnits? s = some (c, rest)) : rest.length < s.length := by
  obtain ⟨⟨high, behind⟩, hhigh, h⟩ := Option.bind_eq_some_iff.mp h
  have hlt := unit?_length hhigh
  dsimp only at h
  split at h
  · split at h
    · obtain ⟨⟨low, last⟩, hlow, h⟩ := Option.bind_eq_some_iff.mp h
      have hlt' := unit?_length hlow
      dsimp only at h
      split at h
      · obtain ⟨c, -, h⟩ := Option.bind_eq_some_iff.mp h
        cases h
        simp only [List.length_cons] at hlt
        omega
      · cases h
    · cases h
  · obtain ⟨c, -, h⟩ := Option.bind_eq_some_iff.mp h
    cases h
    exact hlt

theorem char?_length {s rest : List Char} {c : Char} (h : char? s = some (c, rest)) :
    rest.length < s.length := by
  unfold char? at h
  split at h
  · cases h
  · have := charOfUnits?_length h
    simp only [List.length_cons]
    omega
  · obtain ⟨c, -, h⟩ := Option.map_eq_some_iff.mp h
    cases h
    simp only [List.length_cons]
    omega
  · split at h
    · cases h
    · cases h
      simp

/-- A string up to its closing mark. -/
def string? (s : List Char) : Option (List Char × List Char) :=
  match s with
  | '"' :: rest => some ([], rest)
  | s =>
    match _h : char? s with
    | none => none
    | some (c, rest) => (string? rest).map fun (more, after) => (c :: more, after)
termination_by s.length
decreasing_by exact char?_length _h

/-- The digits of a whole number: a zero alone, or digits that do not start with a zero. -/
def whole? (s : List Char) : Option (List Char × List Char) :=
  match s.takeWhile Char.isDigit with
  | [] => none
  | '0' :: _ :: _ => none
  | digits => some (digits, s.dropWhile Char.isDigit)

/-- The digits behind a point, if there are any. -/
def fraction : List Char → List Char × List Char
  | '.' :: rest =>
    if (rest.takeWhile Char.isDigit).isEmpty then ([], '.' :: rest)
    else (rest.takeWhile Char.isDigit, rest.dropWhile Char.isDigit)
  | rest => ([], rest)

def sign : List Char → Bool × List Char
  | '-' :: rest => (true, rest)
  | rest => (false, rest)

def signed (negative : Bool) (n : Nat) : Int := if negative then -(n : Int) else n

/-- A power of ten, if there is one. -/
def exponent (s : List Char) : Option Int × List Char :=
  match s with
  | e :: rest =>
    let (negative, digits) := match rest with
      | '+' :: digits => (false, digits)
      | rest => sign rest
    if (e = 'e' || e = 'E') && !(digits.takeWhile Char.isDigit).isEmpty then
      (some (signed negative (Nat.ofDigitChars 10 (digits.takeWhile Char.isDigit) 0)),
        digits.dropWhile Char.isDigit)
    else (none, s)
  | [] => (none, [])

/-- A number. One with a fraction or a power of ten is no whole number. -/
def number? (s : List Char) : Option (Value × List Char) := do
  let (negative, s) := sign s
  let (digits, s) ← whole? s
  let (places, s) := fraction s
  match places, exponent s with
  | [], (none, s) => pure (.integer (signed negative (Nat.ofDigitChars 10 digits 0)), s)
  | places, (power, s) =>
    let m := Nat.ofDigitChars 10 (digits ++ places) 0
    pure (.real (Double.ofDecimal negative m (power.getD 0 - places.length)), s)

def word? (word : List Char) (v : Value) (s : List Char) : Option (Value × List Char) :=
  if word.isPrefixOf s then some (v, s.drop word.length) else none

/-- The key of an entry, with the colon behind it. -/
def key? (s : List Char) : Option (String × List Char) :=
  match skipBlanks s with
  | '"' :: rest => do
    let (key, rest) ← string? rest
    match skipBlanks rest with
    | ':' :: rest => pure (String.ofList key, rest)
    | _ => none
  | _ => none

mutual

/-- A value. Every part of it is read from behind where it starts, so that there are fewer steps
than characters. -/
def valueWithin : Nat → List Char → Option (Value × List Char)
  | 0, _ => none
  | steps + 1, s =>
    match skipBlanks s with
    | '"' :: rest => (string? rest).map fun (text, rest) => (.text (String.ofList text), rest)
    | '[' :: rest =>
      match skipBlanks rest with
      | ']' :: rest => some (.list [], rest)
      | rest => (itemsWithin steps rest).map fun (items, rest) => (.list items, rest)
    | '\x7b' :: rest =>
      match skipBlanks rest with
      | '\x7d' :: rest => some (.table [], rest)
      | rest => (entriesWithin steps rest).map fun (entries, rest) => (.table entries, rest)
    | 'n' :: rest => word? ['u', 'l', 'l'] .none rest
    | 't' :: rest => word? ['r', 'u', 'e'] (.flag true) rest
    | 'f' :: rest => word? ['a', 'l', 's', 'e'] (.flag false) rest
    | rest => number? rest

/-- The items of a list from one of them on. -/
def itemsWithin : Nat → List Char → Option (List Value × List Char)
  | 0, _ => none
  | steps + 1, s => do
    let (v, rest) ← valueWithin steps s
    match skipBlanks rest with
    | ']' :: rest => pure ([v], rest)
    | ',' :: rest =>
      let (more, rest) ← itemsWithin steps rest
      pure (v :: more, rest)
    | _ => none

/-- The entries of a table from one of them on, in their order. -/
def entriesWithin : Nat → List Char → Option (List (String × Value) × List Char)
  | 0, _ => none
  | steps + 1, s => do
    let (key, rest) ← key? s
    let (v, rest) ← valueWithin steps rest
    match skipBlanks rest with
    | '\x7d' :: rest => pure ([(key, v)], rest)
    | ',' :: rest =>
      let (more, rest) ← entriesWithin steps rest
      pure ((key, v) :: more, rest)
    | _ => none

end

/-- The value that a text is. -/
def read (text : String) : Option Value := do
  let (v, rest) ← valueWithin (text.length + 1) text.toList
  if (skipBlanks rest).isEmpty then some v else none

end OatImage.JsonText
