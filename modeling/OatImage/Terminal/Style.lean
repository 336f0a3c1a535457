import OatImage.Terminal.ScreenFault
import OatImage.Terminal.StyleNames
import OatImage.Text.Blank
import OatImage.Text.Digit
import OatImage.Text.LetterCase

/-!
# Styles

A style is written in words: attributes, each of which may be denied, a colour, a background
behind the word `on`, and a link. Two ways to write a style are the same if they have the same
normal form. On the screens of this library a style shows nothing; it only has to be one.
-/
namespace OatImage

/-- A style: attributes that are set or denied, a colour, a background and a link. -/
structure Style where
  attributes : List (String × Bool) := []
  color : Option String := none
  background : Option String := none
  link : Option String := none
deriving DecidableEq, Repr

namespace Style

/-- Why words are no style. -/
inductive Flaw
  | wording (message : String)
  /-- A number of a colour without digits. -/
  | badNumber (text : String)
deriving DecidableEq, Repr

/-- Attributes with their short names, in the order in which a normal form lists them. -/
def attributeNames : List (String × List String) := [
  ("bold", ["b"]), ("dim", ["d"]), ("italic", ["i"]), ("underline", ["u"]), ("blink", []),
  ("blink2", []), ("reverse", ["r"]), ("conceal", ["c"]), ("strike", ["s"]),
  ("underline2", ["uu"]), ("frame", []), ("encircle", []), ("overline", ["o"])]

def attribute? (word : String) : Option String :=
  (attributeNames.find? fun (long, short) => word = long || word ∈ short).map Prod.fst

def isBlank (c : Char) : Bool := (CodePoint.ofChar c).isBlank

/-- Text without the blanks at its ends. -/
def trim (text : List Char) : List Char :=
  ((text.dropWhile isBlank).reverse.dropWhile isBlank).reverse

def words (text : String) : List String :=
  ((text.toList.splitOnP isBlank).filter (· ≠ [])).map String.ofList

/-- The text between parentheses behind a word. -/
def argument? (word text : String) : Option String :=
  if text.startsWith (word ++ "(") && text.endsWith ")" then
    some ((text.drop (word.length + 1)).dropEnd 1).toString
  else none

def isHexDigit (c : Char) : Bool := c.isDigit || ('a' ≤ c && c ≤ 'f')

def isHexColor (text : String) : Bool :=
  match text.toList with
  | '#' :: digits => digits.length = 6 && digits.all isHexDigit
  | _ => false

/-- The number of a colour in a palette: one digit to three. -/
def palette? (text : String) : Option Nat := do
  let digits ← argument? "color" text
  guard (1 ≤ digits.length ∧ digits.length ≤ 3 ∧ digits.toList.all Char.isDigit)
  digits.toNat?

/-- The three numbers of a colour, in digits of any script and with commas between them. -/
def components? (text : String) : Option (List String) := do
  let numbers ← argument? "rgb" text
  let inside (c : Char) : Bool := c = ',' || (Digit.value? c.toNat).isSome
  guard (numbers ≠ "" ∧ numbers.toList.all inside)
  pure (numbers.splitOn ",")

def number (digits : String) : Nat :=
  digits.toList.foldl (fun n c => 10 * n + (Digit.value? c.toNat).getD 0) 0

/-- Three numbers have to be there, each with digits and at most 255. -/
def checkComponents (word : String) (numbers : List String) : Except Flaw Unit :=
  if numbers.length ≠ 3 then
    .error (.wording ("expected three components in " ++ Quoted.text word))
  else
    match numbers.find? String.isEmpty with
    | some empty => .error (.badNumber empty)
    | none =>
      if numbers.all fun digits => number digits ≤ 255 then .ok ()
      else .error (.wording ("color components must be <= 255 in " ++ Quoted.text word))

def colorName (word : String) : Except Flaw String :=
  let key := LetterCase.lower word
  if key = "default" || key ∈ colorNames || isHexColor key then .ok key
  else
    match palette? key, components? key with
    | some n, _ =>
      if n ≤ 255 then .ok key
      else .error (.wording ("color number must be <= 255 in " ++ Quoted.text key))
    | none, some numbers => (checkComponents word numbers).map fun _ => key
    | none, none => .error (.wording (Quoted.text word ++ " is not a valid color"))

/-- The normal form of a colour of a part of the style. -/
def colorOf (part word : String) : Except Flaw String :=
  match colorName word with
  | .error (.wording why) =>
    .error (.wording ("unable to parse " ++ Quoted.text word ++ " as " ++ part ++ "; " ++ why))
  | other => other

/-- An attribute that is set or denied, in the place of an earlier choice. -/
def choose (s : Style) (name : String) (isSet : Bool) : Style :=
  { s with attributes := (name, isSet) :: s.attributes.filter fun a => a.1 ≠ name }

/-- The style of words, added to what was read of it. -/
def readWords (s : Style) : List String → Except Flaw Style
  | [] => .ok s
  | first :: rest =>
    match LetterCase.lower first, rest with
    | "on", [] => .error (.wording "color expected after 'on'")
    | "on", word :: more => do
      let background ← colorOf "background color" word
      readWords { s with background := some background } more
    | "not", [] => .error (notAttribute "")
    | "not", word :: more =>
      match attribute? word with
      | some name => readWords (s.choose name false) more
      | none => .error (notAttribute word)
    | "link", [] => .error (.wording "URL expected after 'link'")
    | "link", word :: more => readWords { s with link := some word } more
    | word, rest =>
      match attribute? word with
      | some name => readWords (s.choose name true) rest
      | none => do
        let color ← colorOf "color" word
        readWords { s with color := some color } rest
where
  notAttribute (word : String) : Flaw :=
    .wording ("expected style attribute after 'not', found " ++ Quoted.text word)

def parse (text : String) : Except Flaw Style :=
  if text = "" || trim text.toList = ['n', 'o', 'n', 'e'] then .ok {} else readWords {} (words text)

def text (s : Style) : String :=
  let attributes := attributeNames.filterMap fun (name, _) =>
    (s.attributes.lookup name).map fun isSet => if isSet then name else "not " ++ name
  let others := s.color.toList ++ (s.background.map fun c => "on " ++ c).toList ++
    (s.link.map fun l => "link " ++ l).toList
  match attributes ++ others with
  | [] => "none"
  | parts => " ".intercalate parts

/-- The normal form of a text that may be no style. -/
def normalize (written : String) : Drawing String :=
  match parse written with
  | .ok s => .ok s.text
  | .error (.badNumber text) => .error (.badNumber text)
  | .error (.wording _) => .ok (LetterCase.lower (String.ofList (trim written.toList)))

/-- A name has to be one that is given, or a style. -/
def check (name : String) : Drawing Unit :=
  if name ∈ givenNames then .ok ()
  else
    match parse name with
    | .ok _ => .ok ()
    | .error (.badNumber text) => .error (.badNumber text)
    | .error (.wording why) => .error (.missingStyle name why)

end Style

end OatImage
