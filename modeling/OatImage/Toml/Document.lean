import OatImage.Text.Utf8
import OatImage.Toml.MomentText

/-!
# Documents

A document is a sequence of lines: keys with their values, and headings that open a table or
one more table of an array. Comments run from a number sign to the end of the line. Nothing
is set twice, and a table is opened at most once.
-/
namespace OatImage.Toml

/-- The text without the blanks at its head. -/
def skipBlanks (s : List Char) : List Char := s.dropWhile Quotation.isBlank

/-- The text behind a comment, if there is one at its head. -/
def skipComment? (s : List Char) : Option (List Char) :=
  match s with
  | '#' :: rest =>
    if (rest.takeWhile (· ≠ '\n')).any Quotation.isControl then none
    else some (rest.dropWhile (· ≠ '\n'))
  | _ => some s

/-- The text behind blanks, line ends and comments; the flag tells whether the head is inside
a comment. -/
def skipFiller? : Bool → List Char → Option (List Char)
  | _, [] => some []
  | true, c :: rest =>
    if c = '\n' then skipFiller? false rest
    else if Quotation.isControl c then none
    else skipFiller? true rest
  | false, c :: rest =>
    if c = '#' then skipFiller? true rest
    else if Quotation.isBlank c || c = '\n' then skipFiller? false rest
    else some (c :: rest)

/-- A character of a key without quotation marks. -/
def isBare (c : Char) : Bool :=
  c.isAlphanum || c = '-' || c = '_'

def keyPart? (s : List Char) : Option (String × List Char) :=
  match s.takeWhile isBare with
  | [] => (Quotation.readLine? s).map fun (text, rest) => (String.ofList text, rest)
  | bare => some (String.ofList bare, s.dropWhile isBare)

/-- A dotted key. Each part takes a character, so the length of the text bounds their
number. -/
def keyWithin? : Nat → List Char → Option (Key × List Char)
  | 0, _ => none
  | bound + 1, s => do
    let (part, s) ← keyPart? s
    match skipBlanks s with
    | '.' :: s => do
      let (key, s) ← keyWithin? bound (skipBlanks s)
      pure ({ key with path := part :: key.path }, s)
    | s => pure (⟨[], part⟩, s)

def key? (s : List Char) : Option (Key × List Char) := keyWithin? (s.length + 1) s

/-- A key and the sign behind it. -/
def keyAndSign? (s : List Char) : Option (Key × List Char) := do
  let (key, s) ← key? s
  match s with
  | '=' :: s => pure (key, skipBlanks s)
  | _ => none

/-- A value that holds no others. -/
def scalar (s : List Char) : Option (Value × List Char) :=
  match s with
  | 't' :: 'r' :: 'u' :: 'e' :: rest => some (.flag true, rest)
  | 'f' :: 'a' :: 'l' :: 's' :: 'e' :: rest => some (.flag false, rest)
  | '"' :: _ => quoted? s
  | '\'' :: _ => quoted? s
  | _ =>
    match MomentText.read? s with
    | some found => some found
    | none => Number.read? s
where
  quoted? (s : List Char) : Option (Value × List Char) :=
    (Quotation.read? s).map fun (text, rest) => (.text (String.ofList text), rest)

mutual

/-- A value. Every step of the reader takes a character before it takes two more steps, so
twice the length of the text bounds them. -/
def valueWithin : Nat → List Char → Option (Value × List Char)
  | 0, _ => none
  | bound + 1, s =>
    match s with
    | '[' :: rest => do
      let (items, rest) ← itemsWithin bound (← skipFiller? false rest)
      pure (.list items, rest)
    | '\x7b' :: rest =>
      match skipBlanks rest with
      | '\x7d' :: rest => some (.table [], rest)
      | rest => do
        let (entries, rest) ← fieldsWithin bound [] rest
        pure (.table (entriesValue entries), rest)
    | _ => scalar s

def itemsWithin : Nat → List Char → Option (List Value × List Char)
  | 0, _ => none
  | bound + 1, s =>
    match s with
    | ']' :: rest => some ([], rest)
    | _ => do
      let (item, rest) ← valueWithin bound s
      match ← skipFiller? false rest with
      | ']' :: rest => pure ([item], rest)
      | ',' :: rest => do
        let (items, rest) ← itemsWithin bound (← skipFiller? false rest)
        pure (item :: items, rest)
      | _ => none

def fieldsWithin : Nat → Entries → List Char → Option (Entries × List Char)
  | 0, _, _ => none
  | bound + 1, entries, s => do
    let (key, s) ← keyAndSign? s
    let (value, s) ← valueWithin bound s
    let entries ← entries.define 0 key.last value key.path
    match skipBlanks s with
    | '\x7d' :: rest => pure (entries, rest)
    | ',' :: rest => fieldsWithin bound entries (skipBlanks rest)
    | _ => none

end

def value (s : List Char) : Option (Value × List Char) := valueWithin (2 * s.length + 2) s

/-- What has been read of a document. -/
structure Draft where
  root : Entries := []
  /-- The path of the table that keys go into. -/
  heading : List String := []
  /-- How many headings there were. -/
  sectionIndex : Nat := 0
deriving Repr

namespace Draft

def readArrayHeading (d : Draft) (s : List Char) : Option (Draft × List Char) := do
  let (key, s) ← key? (skipBlanks s)
  let root ← d.root.appendTable key
  match s with
  | ']' :: ']' :: rest => pure (⟨root, key.parts, d.sectionIndex + 1⟩, rest)
  | _ => none

def readHeading (d : Draft) (s : List Char) : Option (Draft × List Char) := do
  let (key, s) ← key? (skipBlanks s)
  let root ← d.root.openTable (d.sectionIndex + 1) key
  match s with
  | ']' :: rest => pure (⟨root, key.parts, d.sectionIndex + 1⟩, rest)
  | _ => none

def readPair (d : Draft) (s : List Char) : Option (Draft × List Char) := do
  let (key, s) ← keyAndSign? s
  let (value, s) ← value s
  let change (entries : Entries) := entries.define d.sectionIndex key.last value key.path
  let root ← d.root.within change d.heading
  pure ({ d with root }, s)

/-- What stands on a line before its comment. -/
def readStatement (d : Draft) (s : List Char) : Option (Draft × List Char) :=
  match s with
  | '#' :: _ => some (d, s)
  | '[' :: '[' :: rest => d.readArrayHeading rest
  | '[' :: rest => d.readHeading rest
  | _ => d.readPair s

/-- The text behind the end of a line. -/
def lineEnd (s : List Char) : Option (List Char) := do
  match ← skipComment? (skipBlanks s) with
  | [] => pure []
  | '\n' :: rest => pure rest
  | _ => none

/-- All lines. Each takes a character, so the length of the text bounds their number. -/
def readLines : Nat → Draft → List Char → Option Draft
  | 0, d, _ => some d
  | bound + 1, d, s =>
    match skipBlanks s with
    | [] => some d
    | '\n' :: rest => readLines bound d rest
    | s => do
      let (d, rest) ← d.readStatement s
      readLines bound d (← lineEnd rest)

end Draft

/-- A carriage return before a line feed is no part of a document. -/
def unifyLineEnds : List Char → List Char
  | '\r' :: '\n' :: rest => '\n' :: unifyLineEnds rest
  | c :: rest => c :: unifyLineEnds rest
  | [] => []

def parse (text : String) : Option (List (String × Value)) := do
  let s := unifyLineEnds text.toList
  let d ← Draft.readLines (s.length + 1) {} s
  pure (entriesValue d.root)

end OatImage.Toml
