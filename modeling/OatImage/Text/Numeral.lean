/-!
# Numbers as text

Addresses are written in hexadecimal after `0x`, sizes in decimal with a comma between
groups of three digits. A negative number carries its sign before the whole.

An integer has a text however long it is, and a text of digits however long is that of an
integer: a guard of the platform against conversions of long texts is taken to be off, wherever
numbers are written and wherever they are read.
-/
namespace OatImage.Numeral

/-- The digits of a number in a base up to sixteen, in lower case. -/
def natText (base n : Nat) : String := String.ofList (Nat.toDigits base n)

/-- The sign of a number, then the text of its magnitude. -/
def signed (magnitude : Nat → String) : Int → String
  | .ofNat n => magnitude n
  | .negSucc n => "-" ++ magnitude (n + 1)

def decimal (n : Int) : String := signed (natText 10) n

/-- An address: `0x` and hexadecimal digits. -/
def hex (n : Int) : String := signed (fun m => "0x" ++ natText 16 m) n

/-- Digits, the least significant first, with a comma after every third one. -/
def groupReversed : List Char → List Char
  | a :: b :: c :: d :: rest => a :: b :: c :: ',' :: groupReversed (d :: rest)
  | short => short

/-- A size: decimal digits in groups of three. -/
def grouped (n : Int) : String :=
  signed (fun m => String.ofList (groupReversed (Nat.toDigits 10 m).reverse).reverse) n

def total (ns : List Nat) : Nat := ns.foldr (· + ·) 0

theorem total_append (ns ms : List Nat) : total (ns ++ ms) = total ns + total ms := by
  induction ns with
  | nil => exact (Nat.zero_add _).symm
  | cons n ns ih =>
      show n + total (ns ++ ms) = n + total ns + total ms
      rw [ih, Nat.add_assoc]

/-- The number with zeros before it up to a width. -/
def zeroPadded (width : Nat) (digits : List Char) : List Char :=
  List.replicate (width - digits.length) '0' ++ digits

/-- The nearest whole number to a quotient; of two equally near the even one. -/
def roundQuotient (num den : Nat) : Nat :=
  let floor := num / den
  let twice := 2 * (num % den)
  if twice < den then floor
  else if den < twice then floor + 1
  else floor + floor % 2

end OatImage.Numeral
