import OatImage.Text.Blank
import OatImage.Text.Digit
import OatImage.Toml.Number

/-!
# Addresses as a user writes them

An address is an integer in the digits of any script, decimal or behind one of the marks
`0x`, `0o` and `0b`, with a sign and with blanks around it. An underscore may stand between
two digits and behind a mark. Only zero itself may start with the digit zero.
-/
namespace OatImage.CommandLine.Address

def isBlank (c : Char) : Bool :=
  (CodePoint.ofChar c).isBlank && !(28 ≤ c.toNat && c.toNat ≤ 31)

/-- A word without the blanks around it. -/
def trim (s : List Char) : List Char :=
  ((s.dropWhile isBlank).reverse.dropWhile isBlank).reverse

def allDigits? (base : Nat) (s : List Char) : Option (List Char) :=
  match Toml.Number.digits? base s with
  | some (digits, []) => some digits
  | _ => none

/-- The text without an underscore at its head. -/
def withoutUnderscore : List Char → List Char
  | '_' :: rest => rest
  | s => s

def base? (mark : Char) : Option Nat := Toml.Number.base? mark.toLower

def decimal? (s : List Char) : Option Nat := do
  let digits ← allDigits? 10 s
  guard !(digits.head? = some '0' && digits.any (· ≠ '0'))
  some (Toml.Number.ofDigits 10 digits)

/-- A number without a sign. -/
def magnitude? (s : List Char) : Option Nat :=
  match s with
  | '0' :: mark :: rest =>
    match base? mark with
    | some base =>
      (allDigits? base (withoutUnderscore rest)).map (Toml.Number.ofDigits base)
    | none => decimal? s
  | _ => decimal? s

def read? (word : String) : Option Int :=
  let (negative, s) := Toml.Number.sign (trim (word.toList.map Digit.toAscii))
  (magnitude? s).map fun n => if negative then -n else n

end OatImage.CommandLine.Address
