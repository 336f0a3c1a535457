import OatImage.Text.Basic

/-!
# Surrogate pairs

A text is a sequence of 16-bit units in which a high surrogate followed by a low one is
a single code point. `join` puts such pairs together and keeps every other surrogate;
`units` takes them apart again.
-/
namespace OatImage.Utf16

def pair (high low : CodePoint) : CodePoint :=
  CodePoint.ofNat (0x10000 + (high.val - 0xD800) * 0x400 + (low.val - 0xDC00))

/-- Joins every high surrogate with the low one that follows it. -/
def join : Text → Text
  | [] => []
  | [c] => [c]
  | c :: d :: rest =>
    if c.isHighSurrogate && d.isLowSurrogate then pair c d :: join rest
    else c :: join (d :: rest)

/-- The 16-bit units of a code point. -/
def pointUnits (c : CodePoint) : List Nat :=
  if c.val < 0x10000 then [c.val]
  else [0xD800 + (c.val - 0x10000) / 0x400, 0xDC00 + (c.val - 0x10000) % 0x400]

/-- The 16-bit units of a text. -/
def units (t : Text) : List Nat := t.flatMap pointUnits

end OatImage.Utf16
