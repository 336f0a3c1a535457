import OatImage.Terminal.Glyph
import OatImage.Terminal.Style

/-!
# Wrapping

A line is filled word by word; the blanks after a word belong to it. A word that does not fit
goes to the next line. A word longer than a line is folded over several lines, or cut on a
line of its own, with three dots if that is wanted.
-/
namespace OatImage.Wrap

inductive Overflow
  | fold
  | crop
  | ellipsis
  /-- No line is broken or cut. -/
  | ignore
deriving DecidableEq, Repr

inductive Alignment
  | free
  | left
  | center
  | right
  /-- The blanks between words grow until the line is full. -/
  | full
deriving DecidableEq, Repr

structure Layout where
  width : Nat
  overflow : Overflow := .fold
  alignment : Alignment := .free
  /-- Lines are not broken. -/
  unbroken : Bool := false
  /-- The text is all in one style. -/
  styled : Bool := false
deriving DecidableEq, Repr

abbrev Line := List Glyph

def isBlank (g : Glyph) : Bool := Style.isBlank g.char

def trimEnd (text : Line) : Line := (text.reverse.dropWhile isBlank).reverse

def splitLines : List Glyph → List Line
  | [] => [[]]
  | g :: rest =>
    if g.char = '\n' then [] :: splitLines rest
    else
      match splitLines rest with
      | [] => [[g]]
      | line :: more => (g :: line) :: more

/-- Text behind so many tabs: it is a part of its own, if it is in a part or all in one style. -/
def behindTabs (styled : Bool) (tabs : Nat) (g : Glyph) : Glyph :=
  if styled || g.part ≠ [] then { g with part := tabs :: g.part } else g

/-- Each tab as a blank, and blanks behind it up to the next of the stops that stand every
eight cells. `before` is the text since the last tab, reversed, behind `used` cells. -/
def expandTabs (styled : Bool) (tabs used : Nat) (before : Line) : Line → Line
  | [] => (before.map (behindTabs styled tabs)).reverse
  | g :: rest =>
    if g.char = '\t' then
      let blank := { g with char := ' ' }
      let before := (blank :: before).reverse
      let used := used + Glyph.count before
      let gap := (8 - used % 8) % 8
      (before ++ List.replicate gap blank).map (behindTabs styled tabs) ++
        expandTabs styled (tabs + 1) (used + gap) [] rest
    else expandTabs styled tabs used (g :: before) rest

/-- A line without tabs. -/
def withoutTabs (styled : Bool) (line : Line) : Line :=
  if line.any fun g => g.char = '\t' then expandTabs styled 0 0 [] line else line

/-- Words of a text behind the first: each a run of characters that are not blank and the
blanks after it. `word` is the word begun, reversed. -/
def wordsFrom (word : Line) (inBlanks : Bool) : Line → List Line
  | [] => [word.reverse]
  | g :: rest =>
    if isBlank g then wordsFrom (g :: word) true rest
    else if inBlanks then word.reverse :: wordsFrom [g] false rest
    else wordsFrom (g :: word) false rest

/-- The words of a line. The first one has the blanks before it as well; a line of blanks
alone has no words. -/
def words (line : Line) : List Line :=
  match line.dropWhile isBlank with
  | [] => []
  | g :: rest => wordsFrom (g :: (line.takeWhile isBlank).reverse) false rest

/-- A place in a line where it may be broken; not in front of its first character. -/
def breakAt (place : Nat) : List Nat := if place = 0 then [] else [place]

/-- The breaks in front of the pieces of a word at a place, and the cells of the last piece. -/
def pieceBreaks (used place : Nat) : List (List Char) → List Nat × Nat
  | [] => ([], used)
  | [last] => (breakAt place, Cell.count last)
  | piece :: rest =>
    let (breaks, used) := pieceBreaks used (place + piece.length) rest
    (breakAt place ++ breaks, used)

/-- The breaks that one word at a place makes behind `used` cells, and the cells that are used
then. -/
def wordBreaks (width : Nat) (folds : Bool) (used place : Nat) (word : Line) : List Nat × Nat :=
  let size := Glyph.count (trimEnd word)
  if used + size ≤ width then ([], used + Glyph.count word)
  else if width < size ∧ folds then pieceBreaks used place (Cell.chop (Glyph.chars word) width)
  else if width < size ∨ used ≠ 0 then (breakAt place, Glyph.count word)
  else ([], used)

def breaks (width : Nat) (folds : Bool) : (used place : Nat) → List Line → List Nat
  | _, _, [] => []
  | used, place, word :: rest =>
    let (found, used) := wordBreaks width folds used place word
    found ++ breaks width folds used (place + word.length) rest

/-- The text between places, `start` being the place of the text itself. -/
def divideAt (start : Nat) (text : Line) : List Nat → List Line
  | [] => [text]
  | place :: rest =>
    text.take (place - start) :: divideAt place (text.drop (place - start)) rest

/-- Drops blanks at the end of a line that has more characters than `width`. -/
def trimExcess (width : Nat) (line : Line) : Line :=
  let spare := line.length - (trimEnd line).length
  line.take (line.length - min spare (line.length - width))

/-- The line cut to a width, with three dots if it was longer and they are wanted. -/
def cut (width : Nat) (overflow : Overflow) (line : Line) : Drawing Line :=
  if overflow = .ignore ∨ Glyph.count line ≤ width then .ok line
  else if overflow = .ellipsis then
    (Cell.fit (Glyph.chars line) (width - 1)).map fun shown =>
      Glyph.withChars line (shown ++ ['…'])
  else Glyph.fit line width

/-- The line cut to a width, with blanks behind it if it was shorter. -/
def filled (width : Nat) (overflow : Overflow) (line : Line) : Drawing Line :=
  (cut width overflow line).map fun shown =>
    if overflow = .ignore then shown else shown ++ Glyph.blanks (width - Glyph.count line)

/-- The words between single blanks; a blank at the end of a line ends its last word. -/
def spacedWords (line : Line) : List Line :=
  let words := line.splitOnP fun g => g.char = ' '
  if line.getLast?.map Glyph.char = some ' ' then words.dropLast else words

/-- The numbers of blanks between words, so many in all, the last ones first to grow. -/
def gaps (count blanks : Nat) : List Nat :=
  (List.range count).map fun i =>
    blanks / count + (if count - 1 - i < blanks % count then 1 else 0)

/-- The words of a line with blanks between them that fill a width. -/
def spread (width : Nat) (line : Line) : Line :=
  let words := spacedWords line
  let count := words.length - 1
  let size := Numeral.total (words.map Glyph.count)
  let widths := gaps count (max count (width - size))
  match words with
  | [] => []
  | first :: rest => first ++ ((widths.zip rest).flatMap fun (n, word) => Glyph.blanks n ++ word)

def alignLine (width : Nat) (overflow : Overflow) (alignment : Alignment) (line : Line) :
    Drawing Line :=
  match alignment with
  | .left => filled width overflow line
  | .center => do
    let line ← cut width overflow (trimEnd line)
    let line := Glyph.blanks ((width - Glyph.count line) / 2) ++ line
    pure (line ++ Glyph.blanks (width - Glyph.count line))
  | .right => do
    let line ← cut width overflow (trimEnd line)
    pure (Glyph.blanks (width - Glyph.count line) ++ line)
  | _ => .ok line

/-- The lines of one paragraph put in their places; the last one is not spread. -/
def align (l : Layout) (lines : List Line) : Drawing (List Line) :=
  if l.alignment = .full then
    .ok (lines.dropLast.map (spread l.width) ++ lines.getLast?.toList)
  else lines.mapM (alignLine l.width l.overflow l.alignment)

def wrapLine (l : Layout) (line : Line) : Drawing (List Line) := do
  let line := withoutTabs l.styled line
  let places := if l.unbroken ∨ l.overflow = .ignore then []
    else breaks l.width (l.overflow = .fold) 0 0 (words line)
  let lines ← align l ((divideAt 0 line places).map (trimExcess l.width))
  lines.mapM (cut l.width l.overflow)

def wrap (l : Layout) (text : List Glyph) : Drawing (List Line) := do
  pure (← (splitLines text).mapM (wrapLine l)).flatten

def rows (l : Layout) (text : List Glyph) : Drawing (List Row) := do
  pure ((← wrap l text).map Glyph.runs)

def place (width : Nat) (alignment : Alignment) (rows : List Row) : Drawing (List Row) := do
  let spare := width - Row.widest rows
  let left :=
    match alignment with
    | .center => spare / 2
    | .right => spare
    | _ => 0
  let right := if alignment = .right then 0 else spare - left
  pure ((← Row.block rows).map fun r => Cell.blanks left :: r ++ [Cell.blanks right])

/-- The cells of the longest line of a text. -/
def longest (text : List Glyph) : Nat :=
  let isBreak (c : Char) : Bool := c.toNat ∈ [10, 28, 29, 30, 0x85, 0x2028, 0x2029]
  (((Glyph.chars text).splitOnP isBreak).map Cell.count).foldl max 0

end OatImage.Wrap
