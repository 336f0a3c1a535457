import OatImage.Toml.Number

/-!
# Moments of a settings file

Dates and times of day are read in ISO form. A time behind a date may be followed by its
distance from universal time.
-/
namespace OatImage.Toml.MomentText

def fixed? (count : Nat) (s : List Char) : Option (Nat × List Char) :=
  let digits := s.take count
  if digits.length = count ∧ digits.all (Number.isDigit 10) then
    some (Number.ofDigits 10 digits, s.drop count)
  else none

/-- The text behind a character. -/
def after? (c : Char) : List Char → Option (List Char)
  | d :: rest => if d = c then some rest else none
  | [] => none

def date? (s : List Char) : Option (Date × List Char) := do
  let (year, s) ← fixed? 4 s
  let (month, s) ← fixed? 2 (← after? '-' s)
  let (day, s) ← fixed? 2 (← after? '-' s)
  let date : Date := ⟨year, month, day⟩
  if date.isValid then some (date, s) else none

/-- A part of a second in millionths; further digits are dropped. -/
def millionths (s : List Char) : Nat × List Char :=
  match s with
  | '.' :: rest =>
    let digits := rest.takeWhile (Number.isDigit 10)
    let kept := digits.take 6
    if digits.isEmpty then (0, s)
    else (Number.ofDigits 10 kept * Nat.pow 10 (6 - kept.length), rest.drop digits.length)
  | _ => (0, s)

def time? (s : List Char) : Option (DayTime × List Char) := do
  let (hour, s) ← fixed? 2 s
  let (minute, s) ← fixed? 2 (← after? ':' s)
  let (second, s) ← fixed? 2 (← after? ':' s)
  let (part, s) := millionths s
  let time : DayTime := ⟨hour, minute, second, part⟩
  if time.isValid then some (time, s) else none

def ahead? : List Char → Option (Int × List Char)
  | c :: s =>
    if c = 'Z' ∨ c = 'z' then some (0, s)
    else if c = '+' ∨ c = '-' then do
      let (hours, s) ← fixed? 2 s
      let (minutes, s) ← fixed? 2 (← after? ':' s)
      let distance : Int := 60 * hours + minutes
      if hours < 24 ∧ minutes < 60 then some (if c = '-' then -distance else distance, s)
      else none
    else none
  | [] => none

def isDivider (c : Char) : Bool := c = 'T' || c = 't' || c = ' '

/-- A time of day behind a date, with its distance from universal time. -/
def timeAfterDate? : List Char → Option ((DayTime × Option Int) × List Char)
  | c :: s =>
    if isDivider c then do
      let (time, s) ← time? s
      match ahead? s with
      | some (ahead, s) => pure ((time, some ahead), s)
      | none => pure ((time, none), s)
    else none
  | [] => none

/-- A date with or without a time, or a time of day. -/
def read? (s : List Char) : Option (Value × List Char) :=
  match date? s with
  | some (date, s) =>
    match timeAfterDate? s with
    | some ((time, ahead), s) => some (.moment (.both date time ahead), s)
    | none => some (.moment (.date date), s)
  | none => (time? s).map fun (time, s) => (.moment (.time time), s)

end OatImage.Toml.MomentText
