import OatImage.Text.Utf8
import OatImage.Text.Utf16

/-!
# Modified UTF-8

The string data of a DEX module: UTF-8 in which U+0000 takes the two bytes C0 80, so that
a zero byte ends the string, and in which a supplementary character is a surrogate pair
of two three-byte forms. `encodeUnits` writes any sequence of 16-bit units; `decode`
reads it back with the pairs joined.
-/
namespace OatImage.ModifiedUtf8

/-- Writes the two-byte form of U+0000 as a zero byte. -/
def unescapeZero : List UInt8 → List UInt8
  | 0xC0 :: 0x80 :: rest => 0 :: unescapeZero rest
  | b :: rest => b :: unescapeZero rest
  | [] => []

/-- The text of string data, without the zero byte that ends it. -/
def decode (bytes : List UInt8) : Except Utf8.Flaw Text := do
  let units ← Utf8.decodeGeneral (unescapeZero bytes)
  pure (Utf16.join units)

/-- The form of one 16-bit unit: one byte for 1 to 0x7F, two for zero and up to 0x7FF,
three beyond, each surrogate on its own. -/
def encodeUnit (u : UInt16) : List UInt8 :=
  let n := u.toNat
  if n = 0 then [0xC0, 0x80]
  else if n < 0x80 then [Utf8.byte n]
  else if n < 0x800 then [Utf8.byte (0xC0 + n / 64), Utf8.byte (0x80 + n % 64)]
  else [Utf8.byte (0xE0 + n / 4096), Utf8.byte (0x80 + n / 64 % 64), Utf8.byte (0x80 + n % 64)]

def encodeUnits (units : List UInt16) : List UInt8 := units.flatMap encodeUnit

end OatImage.ModifiedUtf8
