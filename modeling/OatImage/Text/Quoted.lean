import OatImage.Text.Basic
import OatImage.Text.Numeral
import OatImage.Text.Printable

/-!
# Quoted text

Messages show a text or a byte string between quotation marks. Single marks are used
unless the text holds one and holds no double mark. The mark, the backslash, tab and the
line ends are escaped with a backslash; other code points that are not printable are
written by number, with two, four or eight hexadecimal digits.
-/
namespace OatImage.Quoted

/-- The marks around a text: double ones if it holds a single mark and no double one. -/
def mark (holds : Nat → Bool) : Nat := if holds 39 && !holds 34 then 34 else 39

/-- A number as `width` hexadecimal digits or more. -/
def hexDigits (width n : Nat) : List Char := Numeral.zeroPadded width (Nat.toDigits 16 n)

def escape? (mark n : Nat) : Option (List Char) :=
  if n = mark || n = 92 then some ['\\', Char.ofNat n]
  else if n = 9 then some ['\\', 't']
  else if n = 10 then some ['\\', 'n']
  else if n = 13 then some ['\\', 'r']
  else none

def point (mark : Nat) (c : CodePoint) : List Char :=
  let n := c.val
  match escape? mark n with
  | some escaped => escaped
  | none =>
    if Printable.isPrintable n then [Char.ofNat n]
    else if n < 0x100 then '\\' :: 'x' :: hexDigits 2 n
    else if n < 0x10000 then '\\' :: 'u' :: hexDigits 4 n
    else '\\' :: 'U' :: hexDigits 8 n

def text (t : Text) : String :=
  let m := mark fun n => t.any fun c => c.val == n
  String.ofList (Char.ofNat m :: t.flatMap (point m) ++ [Char.ofNat m])

def byte (mark : Nat) (b : UInt8) : List Char :=
  let n := b.toNat
  match escape? mark n with
  | some escaped => escaped
  | none =>
    if 0x20 ≤ n && n < 0x7F then [Char.ofNat n] else '\\' :: 'x' :: hexDigits 2 n

/-- A byte string: the letter b, then its bytes between quotation marks. -/
def bytes (bs : List UInt8) : String :=
  let m := mark fun n => bs.any fun b => b.toNat == n
  String.ofList ('b' :: Char.ofNat m :: bs.flatMap (byte m) ++ [Char.ofNat m])

end OatImage.Quoted
