import OatImage.Toml.Quotation
import OatImage.Toml.Tree

/-!
# Numbers of a settings file

An integer is decimal, or has one of the marks `0x`, `0o` and `0b`; an underscore may stand
between two digits. A number with a fraction or an exponent is a binary floating point
number.
-/
namespace OatImage.Toml

namespace Number

def isDigit (base : Nat) (c : Char) : Bool :=
  match Quotation.digitValue? c with
  | some value => value < base
  | none => false

/-- The digits at the head of a text and the text behind them. An underscore counts if a digit
stands behind it. -/
def moreDigits (base : Nat) : List Char → List Char × List Char
  | [] => ([], [])
  | '_' :: c :: rest =>
    if isDigit base c then Quotation.keep c (moreDigits base rest) else ([], '_' :: c :: rest)
  | c :: rest =>
    if isDigit base c then Quotation.keep c (moreDigits base rest) else ([], c :: rest)

def digits? (base : Nat) : List Char → Option (List Char × List Char)
  | c :: rest =>
    if isDigit base c then some (Quotation.keep c (moreDigits base rest)) else none
  | [] => none

/-- The number with given digits. -/
def ofDigits (base : Nat) (digits : List Char) : Nat :=
  digits.foldl (fun n c => n * base + (Quotation.digitValue? c).getD 0) 0

def base? : Char → Option Nat
  | 'x' => some 16
  | 'o' => some 8
  | 'b' => some 2
  | _ => none

/-- An integer behind the mark of its base. -/
def marked? : List Char → Option (Nat × List Char)
  | '0' :: mark :: rest => do
    let base ← base? mark
    let (digits, rest) ← digits? base rest
    pure (ofDigits base digits, rest)
  | _ => none

/-- The sign of a number: whether it is negative, and the text behind it. -/
def sign : List Char → Bool × List Char
  | '-' :: rest => (true, rest)
  | '+' :: rest => (false, rest)
  | s => (false, s)

/-- The digits before the point. No zero leads them. -/
def whole? : List Char → Option (List Char × List Char)
  | '0' :: rest => some (['0'], rest)
  | s => digits? 10 s

/-- The digits behind the point. -/
def fraction? : List Char → Option (List Char × List Char)
  | '.' :: rest => digits? 10 rest
  | _ => none

def exponent? : List Char → Option (Int × List Char)
  | c :: rest => do
    if c = 'e' ∨ c = 'E' then
      let (negative, rest) := sign rest
      let (digits, rest) ← digits? 10 rest
      let n : Int := ofDigits 10 digits
      pure (if negative then -n else n, rest)
    else none
  | [] => none

def integer (negative : Bool) (digits : List Char) : Value :=
  let n : Int := ofDigits 10 digits
  .integer (if negative then -n else n)

def decimal? (s : List Char) : Option (Value × List Char) := do
  let (negative, s) := sign s
  let (whole, s) ← whole? s
  let fraction := fraction? s
  let s := (fraction.map Prod.snd).getD s
  let exponent := exponent? s
  let s := (exponent.map Prod.snd).getD s
  if fraction.isNone && exponent.isNone then
    pure (integer negative whole, s)
  else
    let places := (fraction.map Prod.fst).getD []
    let power := (exponent.map Prod.fst).getD 0 - places.length
    pure (.real (Double.ofDecimal negative (ofDigits 10 (whole ++ places)) power), s)

/-- The words for what is no finite number. -/
def special? (s : List Char) : Option (Value × List Char) :=
  let (negative, rest) := sign s
  match rest with
  | 'i' :: 'n' :: 'f' :: rest => some (.real (.infinite negative), rest)
  | 'n' :: 'a' :: 'n' :: rest => some (.real .nan, rest)
  | _ => none

def read? (s : List Char) : Option (Value × List Char) :=
  match marked? s, special? s with
  | some (n, rest), _ => some (.integer n, rest)
  | none, some found => some found
  | none, none => decimal? s

end Number

end OatImage.Toml
