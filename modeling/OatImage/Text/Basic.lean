/-!
# Text as code points

The strings of a DEX module are sequences of 16-bit units in which a surrogate may
stand alone, so they do not fit Lean's `String`, whose characters are scalar values.
`Text` is a list of code points, surrogates included. Text that comes from any other
place holds no surrogate and is kept as a `String`; every `String` is a `Text`.
-/
namespace OatImage

/-- A Unicode code point; unlike a `Char` it may be a surrogate. -/
abbrev CodePoint := Fin 0x110000

/-- A sequence of code points, lone surrogates included. -/
abbrev Text := List CodePoint

namespace CodePoint

def isHighSurrogate (c : CodePoint) : Bool := 0xD800 ≤ c.val && c.val < 0xDC00

def isLowSurrogate (c : CodePoint) : Bool := 0xDC00 ≤ c.val && c.val < 0xE000

def isSurrogate (c : CodePoint) : Bool := 0xD800 ≤ c.val && c.val < 0xE000

def ofChar (c : Char) : CodePoint :=
  ⟨c.toNat, by
    have h := c.valid
    simp only [UInt32.isValidChar, Nat.isValidChar] at h
    have : c.toNat = c.val.toNat := rfl
    omega⟩

/-- The scalar value of a code point that is no surrogate. -/
def toChar? (c : CodePoint) : Option Char :=
  if h : c.val.isValidChar then some (Char.ofNatAux c.val h) else none

/-- The code point with a number, U+FFFD for a number that has none. -/
def ofNat (n : Nat) : CodePoint :=
  if h : n < 0x110000 then ⟨n, h⟩ else ⟨0xFFFD, by decide⟩

end CodePoint

namespace Text

def ofString (s : String) : Text := s.toList.map CodePoint.ofChar

instance : Coe String Text := ⟨ofString⟩

/-- No surrogate stands in the text, so it has a UTF-8 form. -/
def isScalar (t : Text) : Bool := t.all fun c => !c.isSurrogate

/-- The string of a text without surrogates. -/
def toString? (t : Text) : Option String := (t.mapM CodePoint.toChar?).map String.ofList

/-- The string of a text in which every lone surrogate is replaced by U+FFFD. -/
def toScalarString (t : Text) : String :=
  String.ofList (t.map fun c => c.toChar?.getD '\uFFFD')

/-- Parts written one after the other. -/
def join (parts : List Text) : Text := parts.flatten

end Text

end OatImage
