import OatImage.Value

/-!
# JSON text

Values are written on one line, or over several lines with two blanks for each level. Entries
keep their order. In a string the quotation mark, the backslash and the controls are escaped;
other characters stand as they are, or are all escaped where only ASCII is wanted.
-/
namespace OatImage

namespace JsonText

/-- Which characters of a string are escaped beside the marks and the controls. -/
inductive Charset
  | unicode
  | ascii
deriving DecidableEq, Repr

/-- A 16-bit unit as four hexadecimal digits. -/
def unitEscape (n : Nat) : List Char :=
  '\\' :: 'u' :: Numeral.zeroPadded 4 (Nat.toDigits 16 n)

/-- A character by its number; one that takes two units by both. -/
def numberEscape (n : Nat) : List Char :=
  if n < 0x10000 then unitEscape n
  else
    unitEscape (0xD800 + (n - 0x10000) / 0x400) ++ unitEscape (0xDC00 + (n - 0x10000) % 0x400)

def charText (charset : Charset) (c : Char) : List Char :=
  if c = '"' then ['\\', '"']
  else if c = '\\' then ['\\', '\\']
  else if c = '\n' then ['\\', 'n']
  else if c = '\r' then ['\\', 'r']
  else if c = '\t' then ['\\', 't']
  else if c.toNat = 8 then ['\\', 'b']
  else if c.toNat = 12 then ['\\', 'f']
  else if c.toNat < 0x20 then unitEscape c.toNat
  else if charset = .ascii && 0x7F ≤ c.toNat then numberEscape c.toNat
  else [c]

def quote (charset : Charset) (s : String) : String :=
  String.ofList ('"' :: s.toList.flatMap (charText charset) ++ ['"'])

/-- A number with a fraction; what is beyond all numbers is written out as a word. -/
def realText : Double → String
  | .nan => "NaN"
  | .infinite negative => if negative then "-Infinity" else "Infinity"
  | x => x.toText

mutual

def line (charset : Charset) : Value → String
  | .none => "null"
  | .flag b => if b then "true" else "false"
  | .integer n => Numeral.decimal n
  | .real x => realText x
  | .text s => quote charset s
  | .moment m => quote charset (m.text " ")
  | .list items => "[" ++ lineItems charset items ++ "]"
  | .table entries => "\x7b" ++ lineEntries charset entries ++ "\x7d"

def lineItems (charset : Charset) : List Value → String
  | [] => ""
  | [v] => line charset v
  | v :: rest => line charset v ++ ", " ++ lineItems charset rest

def lineEntries (charset : Charset) : List (String × Value) → String
  | [] => ""
  | [(k, v)] => quote charset k ++ ": " ++ line charset v
  | (k, v) :: rest =>
    quote charset k ++ ": " ++ line charset v ++ ", " ++ lineEntries charset rest

end

section
variable (charset : Charset)

@[simp] theorem line_none : line charset .none = "null" := rfl

@[simp] theorem line_flag (b : Bool) :
    line charset (.flag b) = if b then "true" else "false" := rfl

@[simp] theorem line_integer (n : Int) : line charset (.integer n) = Numeral.decimal n := rfl

@[simp] theorem line_text (s : String) : line charset (.text s) = quote charset s := rfl

@[simp] theorem line_list (items : List Value) :
    line charset (.list items) = "[" ++ lineItems charset items ++ "]" := rfl

@[simp] theorem line_table (entries : List (String × Value)) :
    line charset (.table entries) = "\x7b" ++ lineEntries charset entries ++ "\x7d" := rfl

@[simp] theorem lineItems_nil : lineItems charset [] = "" := rfl

@[simp] theorem lineItems_singleton (v : Value) : lineItems charset [v] = line charset v := rfl

theorem lineItems_cons_cons (v w : Value) (rest : List Value) :
    lineItems charset (v :: w :: rest) =
      line charset v ++ ", " ++ lineItems charset (w :: rest) := rfl

@[simp] theorem lineEntries_nil : lineEntries charset [] = "" := rfl

@[simp] theorem lineEntries_singleton (k : String) (v : Value) :
    lineEntries charset [(k, v)] = quote charset k ++ ": " ++ line charset v := rfl

theorem lineEntries_cons_cons (k : String) (v : Value) (e : String × Value)
    (rest : List (String × Value)) :
    lineEntries charset ((k, v) :: e :: rest) =
      quote charset k ++ ": " ++ line charset v ++ ", " ++ lineEntries charset (e :: rest) := rfl

end

/-- The blanks before a line of a level. -/
def indent (level : Nat) : String := String.ofList (List.replicate (2 * level) ' ')

def prefixed (start : String) : List String → List String
  | [] => [start]
  | first :: rest => (start ++ first) :: rest

/-- Text put after the last line of a value. -/
def suffixed (finish : String) : List String → List String
  | [] => [finish]
  | [last] => [last ++ finish]
  | first :: rest => first :: suffixed finish rest

mutual

/-- The lines of a value. The first one has no blanks before it, the others have those of
their level. -/
def lines (charset : Charset) (level : Nat) : Value → List String
  | .list [] => ["[]"]
  | .table [] => ["\x7b\x7d"]
  | .list (v :: rest) =>
    "[" :: itemLines charset (level + 1) (v :: rest) ++ [indent level ++ "]"]
  | .table (e :: rest) =>
    "\x7b" :: entryLines charset (level + 1) (e :: rest) ++ [indent level ++ "\x7d"]
  | v => [line charset v]

def itemLines (charset : Charset) (level : Nat) : List Value → List String
  | [] => []
  | [v] => prefixed (indent level) (lines charset level v)
  | v :: rest =>
    suffixed "," (prefixed (indent level) (lines charset level v)) ++
      itemLines charset level rest

def entryLines (charset : Charset) (level : Nat) : List (String × Value) → List String
  | [] => []
  | [(k, v)] => prefixed (indent level ++ quote charset k ++ ": ") (lines charset level v)
  | (k, v) :: rest =>
    suffixed "," (prefixed (indent level ++ quote charset k ++ ": ") (lines charset level v)) ++
      entryLines charset level rest

end

end JsonText

end OatImage
