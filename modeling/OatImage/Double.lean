import OatImage.Text.Numeral

/-!
# Binary floating point numbers

A fraction is kept as the 64-bit binary number nearest to its decimal text, a tie going to
the even neighbour, and is written back with the fewest digits that read as the same number,
or rounded to a number of digits. Everything is exact arithmetic on natural numbers; no
machine arithmetic is involved.
-/
namespace OatImage

/-- A 64-bit binary floating point number. A finite one is a sign, a significand of at most
53 bits and the power of two it is scaled by. -/
inductive Double
  | nan
  | infinite (negative : Bool)
  | finite (negative : Bool) (significand : Nat) (exponent : Int)
deriving DecidableEq, Repr

namespace Double

/-- The fraction `num / den`, never with denominator zero in this module. -/
structure Fraction where
  num : Nat
  den : Nat
deriving Repr

def Fraction.scaled (base m : Nat) (exponent : Int) : Fraction :=
  if exponent < 0 then ⟨m, Nat.pow base (-exponent).toNat⟩
  else ⟨m * Nat.pow base exponent.toNat, 1⟩

def Fraction.shiftedDown (x : Fraction) (exponent : Int) : Fraction :=
  if exponent < 0 then ⟨x.num * Nat.pow 2 (-exponent).toNat, x.den⟩
  else ⟨x.num, x.den * Nat.pow 2 exponent.toNat⟩

/-- The least power of two that a number is a multiple of. -/
def leastExponent : Int := -1074

/-- The power of two for which a positive fraction has a significand of 53 bits, or the least
one there is. -/
def exponentOf (x : Fraction) : Int :=
  let guess : Int := (Nat.log2 x.num : Int) - (Nat.log2 x.den : Int) - 52
  let exponent := if (x.shiftedDown guess).num < Nat.pow 2 52 * (x.shiftedDown guess).den
    then guess - 1 else guess
  max exponent leastExponent

/-- The number nearest to a fraction. A significand that rounds up to 54 bits is halved, and
what is too large for the format is infinite. -/
def nearest (negative : Bool) (x : Fraction) : Double :=
  let exponent := exponentOf x
  let scaled := x.shiftedDown exponent
  let m := Numeral.roundQuotient scaled.num scaled.den
  let (m, exponent) := if m = Nat.pow 2 53 then (Nat.pow 2 52, exponent + 1) else (m, exponent)
  if m = 0 then .finite negative 0 0
  else if 971 < exponent then .infinite negative
  else .finite negative m exponent

/-- The number nearest to `digits * 10 ^ exponent`. Numbers of more than 310 places before
the point are infinite and those that start more than 330 places after it are zero, so no
larger power of ten is ever formed. -/
def ofDecimal (negative : Bool) (digits : Nat) (exponent : Int) : Double :=
  let places := ((Nat.toDigits 10 digits).length : Int) + exponent
  if digits = 0 || places < -330 then .finite negative 0 0
  else if 310 < places then .infinite negative
  else nearest negative (Fraction.scaled 10 digits exponent)

/-- The number of decimal places before the point of a positive fraction: the least `p` for
which it is below ten to the `p`. -/
def places (x : Fraction) : Int :=
  if x.den ≤ x.num then ((Nat.toDigits 10 (x.num / x.den)).length : Int)
  else 1 - ((Nat.toDigits 10 ((x.den - 1) / x.num)).length : Int)

/-- The distance of a decimal from a fraction, over a denominator that is the same for every
decimal with the same exponent. -/
def distance (x : Fraction) (digits : Nat) (exponent : Int) : Nat :=
  let d := Fraction.scaled 10 digits exponent
  (x.num * d.den - d.num * x.den) + (d.num * x.den - x.num * d.den)

/-- The decimals next to a fraction among the multiples of a power of ten, the nearer one
first; of two equally near the even one. -/
def neighbours (x : Fraction) (exponent : Int) : List Nat :=
  let grid := Fraction.scaled 10 1 exponent
  let low := x.num * grid.den / (x.den * grid.num)
  let below := distance x low exponent
  let above := distance x (low + 1) exponent
  if below < above || (below = above && low % 2 = 0) then [low, low + 1] else [low + 1, low]

/-- The shortest decimal that reads as a finite number: its digits and the power of ten they
are scaled by. Each count of digits from one to seventeen is tried in turn; seventeen always
suffice. -/
def shortest (m : Nat) (exponent : Int) : Nat × Int :=
  let x := Fraction.scaled 2 m exponent
  let start := places x
  let attempt (count : Nat) : Option (Nat × Int) :=
    let grid := start - count
    ((neighbours x grid).find? fun d => ofDecimal false d grid = .finite false m exponent).map
      fun d => (d, grid)
  ((List.range 17).findSome? fun k => attempt (k + 1)).getD (m, 0)

/-- A finite number rounded to so many digits, a tie going to the even neighbour: the digits
and the power of ten of the first of them. -/
def rounded (m : Nat) (exponent : Int) (count : Nat) : Nat × Int :=
  if m = 0 then (0, 0)
  else
    let x := Fraction.scaled 2 m exponent
    let start := places x
    let grid := Fraction.scaled 10 1 (start - count)
    let digits := Numeral.roundQuotient (x.num * grid.den) (x.den * grid.num)
    if digits = Nat.pow 10 count then (digits / 10, start) else (digits, start - 1)

/-- The digits of a finite number without its sign, so many of them behind the point, a tie going
to the even neighbour; at least one stands before the point. -/
def fixed (m : Nat) (exponent : Int) (places : Nat) : List Char :=
  let x := Fraction.scaled 2 m exponent
  Numeral.zeroPadded (places + 1)
    (Nat.toDigits 10 (Numeral.roundQuotient (x.num * Nat.pow 10 places) x.den))

/-- The whole part of a finite number without its sign. -/
def wholePart (m : Nat) (exponent : Int) : Nat :=
  let x := Fraction.scaled 2 m exponent
  x.num / x.den

/-- Digits without the zeros at their end. -/
def trimZeros (digits : List Char) : List Char :=
  (digits.reverse.dropWhile (· = '0')).reverse

/-- A power of ten as the exponent of a number, with at least two digits. -/
def exponentText (power : Int) : List Char :=
  ['e', if power < 0 then '-' else '+'] ++
    Numeral.zeroPadded 2 (Nat.toDigits 10 power.natAbs)

/-- Digits with the point after the given place. Outside the places from −3 to 16 the power
of ten is written out. -/
def placed (digits : List Char) (point : Int) : List Char :=
  if point ≤ -4 || 16 < point then
    let fraction := digits.drop 1
    digits.take 1 ++ (if fraction.isEmpty then [] else '.' :: fraction) ++
      exponentText (point - 1)
  else if point ≤ 0 then
    ['0', '.'] ++ List.replicate (-point).toNat '0' ++ digits
  else
    let whole := digits.take point.toNat
    let fraction := digits.drop point.toNat
    whole ++ List.replicate (point.toNat - whole.length) '0' ++ ['.'] ++
      (if fraction.isEmpty then ['0'] else fraction)

/-- The text of a finite number without its sign. -/
def magnitudeText (m : Nat) (exponent : Int) : List Char :=
  if m = 0 then ['0', '.', '0']
  else
    let (digits, power) := shortest m exponent
    let text := Nat.toDigits 10 digits
    placed (trimZeros text) (power + text.length)

/-- The shortest text that reads as the number. -/
def toText : Double → String
  | .nan => "nan"
  | .infinite negative => if negative then "-inf" else "inf"
  | .finite negative m exponent =>
    String.ofList ((if negative then ['-'] else []) ++ magnitudeText m exponent)

/-- The shortest text with a comma between groups of three digits before the point. -/
def grouped : Double → String
  | .finite negative m exponent =>
    let text := magnitudeText m exponent
    let whole := text.takeWhile Char.isDigit
    String.ofList ((if negative then ['-'] else []) ++
      (Numeral.groupReversed whole.reverse).reverse ++ text.drop whole.length)
  | x => x.toText

/-- The number nearest to a whole one. -/
def ofInt (n : Int) : Double := ofDecimal (n < 0) n.natAbs 0

def ratio (negative : Bool) (m : Nat) (exponent : Int) : Int × Nat :=
  let x := Fraction.scaled 2 m exponent
  (if negative then -x.num else x.num, x.den)

def truncated? : Double → Option Int
  | .finite negative m exponent =>
    some (if negative then -(wholePart m exponent : Int) else wholePart m exponent)
  | _ => none

/-- The number is neither positive nor negative nor beyond all numbers. -/
def isZero : Double → Bool
  | .finite _ m _ => m = 0
  | _ => false

/-- The number is smaller than a whole one. What is no number is not. -/
def isBelow (x : Double) (n : Int) : Bool :=
  match x with
  | .nan => false
  | .infinite negative => negative
  | .finite negative m exponent =>
    let (num, den) := ratio negative m exponent
    num < n * den

/-- The number nearest to the sum of a number and a whole one. -/
def plus (x : Double) (n : Nat) : Double :=
  match x with
  | .finite negative m exponent =>
    let (num, den) := ratio negative m exponent
    let sum := num + n * den
    nearest (sum < 0) ⟨sum.natAbs, den⟩
  | x => x

/-- One number is not above another. What is no number compares with nothing. -/
def atMost : Double → Double → Bool
  | .nan, _ => false
  | _, .nan => false
  | .infinite true, _ => true
  | _, .infinite false => true
  | .infinite false, _ => false
  | _, .infinite true => false
  | .finite negative m exponent, .finite negative' m' exponent' =>
    let (num, den) := ratio negative m exponent
    let (num', den') := ratio negative' m' exponent'
    num * den' ≤ num' * den

end Double

end OatImage
