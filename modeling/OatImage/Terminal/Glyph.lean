import OatImage.Terminal.Row

/-!
# Glyphs

A text for the terminal is a list of glyphs, characters that know the part of the text that they
are in. Parts are shown in one style, so each makes a run of its own on the screen.
-/
namespace OatImage

/-- A character in a part of a text. Numbers tell the parts apart; there are none for a character
that is in no part. -/
structure Glyph where
  char : Char
  part : List Nat := []
deriving DecidableEq, Repr

namespace Glyph

/-- A text without parts. -/
def plain (text : List Char) : List Glyph := text.map fun c => { char := c }

def within (n : Nat) (text : List Glyph) : List Glyph :=
  text.map fun g => { g with part := n :: g.part }

def chars (text : List Glyph) : List Char := text.map Glyph.char

def count (text : List Glyph) : Nat := Cell.count (chars text)

def blanks (n : Nat) : List Glyph := plain (Cell.blanks n)

def runs (line : List Glyph) : Row := (line.splitBy fun a b => a.part = b.part).map chars

def withChars : (text : List Glyph) → List Char → List Glyph
  | _, [] => []
  | [], new => plain new
  | g :: rest, c :: new => { g with char := c } :: withChars rest new

/-- The text cut or filled with blanks to a number of cells. -/
def fit (text : List Glyph) (cells : Nat) : Drawing (List Glyph) :=
  (Cell.fit (chars text) cells).map (withChars text)

end Glyph

end OatImage
