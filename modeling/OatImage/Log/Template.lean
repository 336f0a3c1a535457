import OatImage.Value

/-!
# Message templates

A template holds places for values: a percent sign, a key in parentheses, flags, a width, a
precision and a letter for the form of the value. A doubled percent sign is a plain one. The
values have to match the places in number and kind; else there is no message. A message
without values is taken as it is, percent signs and all.

A table with entries that is the only value is looked up by the keys of the places. A place
without a key takes the table as a whole, and behind a place with a key it takes what is left
of that.
-/
namespace OatImage.Log

namespace Template

structure Flags where
  left : Bool := false
  plus : Bool := false
  blank : Bool := false
  alternate : Bool := false
  zero : Bool := false
deriving DecidableEq, Repr

def readFlags (f : Flags) : List Char → Flags × List Char
  | '-' :: rest => readFlags { f with left := true } rest
  | '+' :: rest => readFlags { f with plus := true } rest
  | ' ' :: rest => readFlags { f with blank := true } rest
  | '#' :: rest => readFlags { f with alternate := true } rest
  | '0' :: rest => readFlags { f with zero := true } rest
  | rest => (f, rest)

theorem readFlags_length (f : Flags) (text : List Char) :
    (readFlags f text).2.length ≤ text.length := by
  fun_induction readFlags f text <;> simp_all <;> omega

def readDigits (n : Nat) : List Char → Nat × List Char
  | c :: rest =>
    if c.isDigit then readDigits (10 * n + (c.toNat - 48)) rest else (n, c :: rest)
  | [] => (n, [])

theorem readDigits_length (n : Nat) (text : List Char) :
    (readDigits n text).2.length ≤ text.length := by
  induction text generalizing n with
  | nil => simp [readDigits]
  | cons c rest ih =>
    unfold readDigits
    split
    · have := ih (10 * n + (c.toNat - 48))
      simp only [List.length_cons]
      omega
    · simp

/-- A size in a template: none, a number, or the next value. -/
inductive Size
  | absent
  | fixed (n : Nat)
  | next
deriving DecidableEq, Repr

def readWidth : List Char → Size × List Char
  | '*' :: rest => (.next, rest)
  | c :: rest =>
    if c.isDigit then
      let (n, after) := readDigits 0 (c :: rest)
      (.fixed n, after)
    else (.absent, c :: rest)
  | [] => (.absent, [])

def readPrecision : List Char → Size × List Char
  | '.' :: '*' :: rest => (.next, rest)
  | '.' :: rest =>
    let (n, after) := readDigits 0 rest
    (.fixed n, after)
  | rest => (.absent, rest)

/-- A letter for the length of a number, which changes nothing. -/
def skipLength : List Char → List Char
  | c :: rest => if c = 'h' || c = 'l' || c = 'L' then rest else c :: rest
  | [] => []

theorem readWidth_length (text : List Char) : (readWidth text).2.length ≤ text.length := by
  unfold readWidth
  split
  · simp
  · split
    · exact readDigits_length 0 _
    · simp
  · simp

theorem readPrecision_length (text : List Char) :
    (readPrecision text).2.length ≤ text.length := by
  unfold readPrecision
  split
  · simp only [List.length_cons]; omega
  · rename_i rest _
    have := readDigits_length 0 rest
    simp only [List.length_cons]
    omega
  · simp

theorem skipLength_length (text : List Char) : (skipLength text).length ≤ text.length := by
  unfold skipLength
  split
  · split <;> simp
  · simp

/-- The key of a place in parentheses, which may hold other parentheses in pairs, and the text
behind it. `depth` counts the pairs that are open inside. -/
def readKey (depth : Nat) : List Char → Option (List Char × List Char)
  | [] => none
  | c :: rest =>
    if c = ')' && depth = 0 then some ([], rest)
    else
      let inner := if c = '(' then depth + 1 else if c = ')' then depth - 1 else depth
      (readKey inner rest).map fun (key, after) => (c :: key, after)

theorem readKey_length {depth : Nat} {text key after : List Char}
    (h : readKey depth text = some (key, after)) : after.length < text.length := by
  induction text generalizing depth key with
  | nil => simp [readKey] at h
  | cons c rest ih =>
    unfold readKey at h
    split at h
    · simp only [Option.some.injEq, Prod.mk.injEq] at h
      simp [← h.2]
    · simp only [Option.map_eq_some_iff] at h
      obtain ⟨⟨k, a⟩, hk, hp⟩ := h
      simp only [Prod.mk.injEq] at hp
      rw [hp.2] at hk
      have := ih hk
      simp only [List.length_cons]
      omega

/-- The key at the head of a place, if there is one. -/
def readKey? : List Char → Option (Option String × List Char)
  | '(' :: rest => (readKey 0 rest).map fun (key, after) => (some (String.ofList key), after)
  | rest => some (none, rest)

theorem readKey?_length {text after : List Char} {key : Option String}
    (h : readKey? text = some (key, after)) : after.length ≤ text.length := by
  unfold readKey? at h
  split at h
  · simp only [Option.map_eq_some_iff] at h
    obtain ⟨⟨k, a⟩, hk, hp⟩ := h
    simp only [Prod.mk.injEq] at hp
    have := readKey_length hk
    rw [hp.2] at this
    simp only [List.length_cons]
    omega
  · simp only [Option.some.injEq, Prod.mk.injEq] at h
    simp [← h.2]

structure Place where
  key : Option String
  flags : Flags
  width : Size
  precision : Size
  form : Char
deriving DecidableEq, Repr

inductive Part
  | char (c : Char)
  | place (p : Place)
deriving DecidableEq, Repr

/-- Reads the place behind a percent sign and its key, and gives the rest of the template. -/
def readForm (key : Option String) (text : List Char) : Option (Place × List Char) :=
  let (flags, text) := readFlags {} text
  let (width, text) := readWidth text
  let (precision, text) := readPrecision text
  match skipLength text with
  | [] => none
  | form :: rest => some (⟨key, flags, width, precision, form⟩, rest)

theorem readForm_length {key : Option String} {text rest : List Char} {p : Place}
    (h : readForm key text = some (p, rest)) : rest.length < text.length := by
  unfold readForm at h
  simp only at h
  split at h
  · simp at h
  · rename_i form after heq
    simp only [Option.some.injEq, Prod.mk.injEq] at h
    have a := readFlags_length {} text
    have b := readWidth_length (readFlags {} text).2
    have c := readPrecision_length (readWidth (readFlags {} text).2).2
    have d := skipLength_length (readPrecision (readWidth (readFlags {} text).2).2).2
    rw [heq] at d
    simp only [List.length_cons] at d
    rw [← h.2]
    omega

/-- Reads the place behind a percent sign, and gives the rest of the template. -/
def readPlace (text : List Char) : Option (Place × List Char) :=
  match readKey? text with
  | none => none
  | some (key, text) => readForm key text

theorem readPlace_length {text rest : List Char} {p : Place}
    (h : readPlace text = some (p, rest)) : rest.length < text.length := by
  unfold readPlace at h
  split at h
  · simp at h
  · rename_i key after heq
    have a := readKey?_length heq
    have b := readForm_length h
    omega

/-- The parts of a template; none if it ends inside a place. -/
def parts (text : List Char) : Option (List Part) :=
  match text with
  | [] => some []
  | '%' :: '%' :: rest => (parts rest).map fun more => .char '%' :: more
  | '%' :: rest =>
    match _h : readPlace rest with
    | none => none
    | some (p, after) => (parts after).map fun more => .place p :: more
  | c :: rest => (parts rest).map fun more => .char c :: more
termination_by text.length
decreasing_by
  · simp only [List.length_cons]; omega
  · have := readPlace_length _h
    simp only [List.length_cons]
    omega
  · simp

/-- Text filled up to a width. `start` counts the characters, a sign or a base, that stand
before filling zeros. -/
def pad (flags : Flags) (width start : Nat) (zeros : Bool) (text : List Char) : List Char :=
  let missing := width - text.length
  if flags.left then text ++ List.replicate missing ' '
  else if zeros then text.take start ++ List.replicate missing '0' ++ text.drop start
  else List.replicate missing ' ' ++ text

/-- The base, the marker of the base, and the case of the digits of a form. -/
def baseOf : Char → Option (Nat × String)
  | 'd' => some (10, "")
  | 'i' => some (10, "")
  | 'u' => some (10, "")
  | 'x' => some (16, "0x")
  | 'X' => some (16, "0X")
  | 'o' => some (8, "0o")
  | _ => none

/-- The sign before a number. -/
def signText (flags : Flags) (negative : Bool) : List Char :=
  if negative then ['-'] else if flags.plus then ['+'] else if flags.blank then [' '] else []

def whole (flags : Flags) (width precision : Nat) (base : Nat) (marker : String)
    (capitals : Bool) (n : Int) : List Char :=
  let digits := Numeral.zeroPadded precision (Nat.toDigits base n.natAbs)
  let digits := if capitals then digits.map Char.toUpper else digits
  let start := signText flags (n < 0) ++ (if flags.alternate then marker.toList else [])
  pad flags width start.length flags.zero (start ++ digits)

/-- The whole number that a value is in a base. Only in decimal a fraction is cut off. -/
def wholeOf (base : Nat) : Value → Option Int
  | .real x => if base = 10 then x.truncated? else none
  | v => v.integer?

def character : Value → Option (List Char)
  | .text s => if s.length = 1 then some s.toList else none
  | v =>
    match v.integer? with
    | some n => if h : 0 ≤ n ∧ n.toNat.isValidChar then some [Char.ofNatAux n.toNat h.2] else none
    | none => none

/-- Text in which a character beyond ASCII is written by its number. -/
def asciiOnly (s : String) : String :=
  String.ofList (s.toList.flatMap fun c =>
    let n := c.toNat
    if n < 0x80 then [c]
    else if n < 0x100 then '\\' :: 'x' :: Quoted.hexDigits 2 n
    else if n < 0x10000 then '\\' :: 'u' :: Quoted.hexDigits 4 n
    else '\\' :: 'U' :: Quoted.hexDigits 8 n)

/-- A point and the digits behind it. Without digits the point stands only if it is wanted. -/
def pointed (wanted : Bool) (fraction : List Char) : List Char :=
  if fraction.isEmpty && !wanted then [] else '.' :: fraction

/-- The digits of a number in scientific form: one before the point. -/
def scientific (wanted : Bool) (digits : List Char) (power : Int) : List Char :=
  digits.take 1 ++ pointed wanted (digits.drop 1) ++ Double.exponentText power

/-- A finite number without its sign: with `places` digits behind the point, in scientific
form, or in the shorter of both with `places` digits in all. -/
def floating (wanted : Bool) (places : Nat) (form : Char) (m : Nat) (exponent : Int) :
    List Char :=
  if form = 'f' then
    let digits := Double.fixed m exponent places
    digits.take (digits.length - places) ++
      pointed wanted (digits.drop (digits.length - places))
  else
    let count := if form = 'e' then places + 1 else max places 1
    let (number, power) := Double.rounded m exponent count
    let digits := Nat.toDigits 10 number
    let digits := digits ++ List.replicate (count - digits.length) '0'
    if form = 'e' then scientific wanted digits power
    else
      let kept := if wanted then digits else
        digits.take 1 ++ Double.trimZeros (digits.drop 1)
      if power < -4 || (count : Int) ≤ power then scientific wanted kept power
      else if power < 0 then
        '0' :: pointed wanted (List.replicate (power.natAbs - 1) '0' ++ kept)
      else
        let whole := (power + 1).toNat
        kept.take whole ++ List.replicate (whole - kept.length) '0' ++
          pointed wanted (kept.drop whole)

/-- The forms of floating point numbers, with the letter that is not a capital. -/
def floatingForm : Char → Option Char
  | 'e' => some 'e'
  | 'E' => some 'e'
  | 'f' => some 'f'
  | 'F' => some 'f'
  | 'g' => some 'g'
  | 'G' => some 'g'
  | _ => none

/-- The floating point number that a value is. A whole number that is too large is none. -/
def floatOf : Value → Option Double
  | .real x => some x
  | v =>
    match v.integer?.map Double.ofInt with
    | some (.finite negative m exponent) => some (.finite negative m exponent)
    | _ => none

def float (flags : Flags) (width places : Nat) (form lower : Char) (x : Double) : List Char :=
  let (negative, text) := match x with
    | .nan => (false, ['n', 'a', 'n'])
    | .infinite negative => (negative, ['i', 'n', 'f'])
    | .finite negative m exponent =>
      (negative, floating flags.alternate places lower m exponent)
  let text := if form = lower then text else text.map Char.toUpper
  let sign := signText flags negative
  pad flags width sign.length flags.zero (sign ++ text)

/-- A number of seconds, down to the thousandth. -/
def seconds (x : Double) : String := String.ofList (float {} 0 3 'f' 'f' x)

/-- A value in a place, if it is of the kind that the place wants. -/
def put (flags : Flags) (width : Nat) (precision : Option Nat) (form : Char) (v : Value) :
    Option (List Char) :=
  let cut (s : String) : List Char :=
    pad flags width 0 false (match precision with
      | some p => s.toList.take p
      | none => s.toList)
  match form with
  | 's' => some (cut v.plain)
  | 'r' => some (cut v.quoted)
  | 'a' => some (cut (asciiOnly v.quoted))
  | 'c' => (character v).map (pad flags width 0 false)
  | form =>
    match floatingForm form, baseOf form with
    | some lower, _ => (floatOf v).map (float flags width (precision.getD 6) form lower)
    | none, some (base, marker) =>
      (wholeOf base v).map (whole flags width (precision.getD 0) base marker (form = 'X'))
    | none, none => none

/-- No size is larger than this. -/
def sizeLimit : Nat := 0x7FFFFFFF

def bounded (n : Int) : Option Int := if n.natAbs ≤ sizeLimit then some n else none

/-- A size, and the values that are left. A negative width asks for text at the left. -/
def size (s : Size) (values : List Value) : Option (Option Int × List Value) :=
  match s, values with
  | .absent, values => some (none, values)
  | .fixed n, values => (bounded n).map fun n => (some n, values)
  | .next, v :: rest => do
    let n ← bounded (← v.integer?)
    pure (some n, rest)
  | .next, [] => none

/-- The values for a place and those behind it. A key is looked up in the table. -/
def valuesFor (entries : Option (List (String × Value))) (key : Option String)
    (values : List Value) : Option (List Value) :=
  match key, entries with
  | none, _ => some values
  | some _, none => none
  | some key, some entries => (entries.lookup key).map fun v => [v]

/-- The text of parts with values in their places. Without a table all values have to be
used. -/
def fill (entries : Option (List (String × Value))) : List Part → List Value →
    Option (List Char)
  | [], values => if values.isEmpty || entries.isSome then some [] else none
  | .char c :: more, values => (fill entries more values).map (c :: ·)
  | .place p :: more, values => do
    let values ← valuesFor entries p.key values
    let (width, values) ← size p.width values
    let (precision, values) ← size p.precision values
    let width := width.getD 0
    let flags := if width < 0 then { p.flags with left := true } else p.flags
    match values with
    | [] => none
    | v :: rest => do
      let text ← put flags width.natAbs (precision.map Int.toNat) p.form v
      let more ← fill entries more rest
      pure (text ++ more)

def entriesOf : List Value → Option (List (String × Value))
  | [.table (e :: rest)] => some (e :: rest)
  | _ => none

/-- The message of a template with values, if they match its places. -/
def message (template : String) (values : List Value) : Option String :=
  if values.isEmpty then some template
  else
    match parts template.toList with
    | none => none
    | some parts => (fill (entriesOf values) parts values).map String.ofList

end Template

end OatImage.Log
