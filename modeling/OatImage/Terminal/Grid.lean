import OatImage.Terminal.Wrap
import OatImage.Text.Numeral

/-!
# Grids

A grid is a table drawn with box lines: heavy ones around the head and light ones below it.
Each cell has a blank on both sides. A column is as wide as its widest cell. Where the grid
is too wide for the terminal, its widest columns shrink first, down to the next widest, until
it fits; the words of a cell then wrap. Title and caption are centred over the width of the
grid.
-/
namespace OatImage

/-- A column: its head and then its cells. -/
abbrev Column := List (List Glyph)

/-- The texts of a grid, column by column. -/
structure Grid where
  columns : List Column
deriving DecidableEq, Repr

namespace Grid

/-- Takes `excess` from the widths that are chosen, in even shares of which none is above
`most`. `left` counts the chosen widths. -/
def reduce (most : Nat) : (excess left : Nat) → List (Nat × Bool) → List Nat
  | _, _, [] => []
  | excess, left, (width, chosen) :: rest =>
    if chosen && left > 0 then
      let share := min most (Numeral.roundQuotient excess left)
      (width - share) :: reduce most (excess - share) (left - 1) rest
    else width :: reduce most excess left rest

/-- Takes `excess` from the widest columns, none of which gets narrower than the next widest. -/
def shrinkWidest (excess : Nat) (widths : List Nat) : List Nat :=
  let widest := widths.foldl max 0
  let second := (widths.filter (· ≠ widest)).foldl max 0
  let marked := widths.map fun w => (w, w == widest)
  reduce (min excess (widest - second)) excess (widths.count widest) marked

/-- Widths that add up to at most `room`, by as many rounds as there are cells to take. -/
def collapse (room : Nat) : (rounds : Nat) → List Nat → List Nat
  | 0, widths => widths
  | rounds + 1, widths =>
    if Numeral.total widths ≤ room then widths
    else collapse room rounds (shrinkWidest (Numeral.total widths - room) widths)

/-- The width of a cell within a limit: its longest line and two blanks. -/
def measureCell (limit : Nat) (text : List Glyph) : Nat :=
  if limit < 3 then limit else min limit (Wrap.longest text + 2)

def measure (limit : Nat) (column : Column) : Nat :=
  (column.map (measureCell limit)).foldl max 0

/-- The widths of the columns in a room without the box lines. -/
def widths (room : Nat) (columns : List Column) : List Nat :=
  let wanted := columns.map fun c => max 1 (measure room c)
  if Numeral.total wanted ≤ room then wanted
  else
    let cut := collapse room (Numeral.total wanted) wanted
    (columns.zip cut).map fun (c, w) => measure w c

def room (terminal : Nat) (g : Grid) : Nat := terminal - (g.columns.length + 1)

def cellLines (width : Nat) (text : List Glyph) : Drawing (List Row) :=
  if width < 3 then .ok []
  else do
    let inner := width - 2
    let rows ← Wrap.rows { width := inner, overflow := .ellipsis, alignment := .left } text
    rows.mapM fun r => do
      Row.fit width ([' '] :: (← Row.fit inner r) ++ [[' ']])

/-- The lines of a cell filled up to a height, from below or from above. -/
def fill (width height : Nat) (atBottom : Bool) (lines : List Row) : List Row :=
  let missing := List.replicate (height - lines.length) [Cell.blanks width]
  if atBottom then missing ++ lines else lines ++ missing

/-- Parts with a divider between them and an edge on both sides. -/
def frame (left divider right : Char) (parts : List Row) : Row :=
  [left] :: (parts.intersperse [[divider]]).flatten ++ [[right]]

def border (left line divider right : Char) (widths : List Nat) : Row :=
  [(frame left divider right (widths.map fun w => [List.replicate w line])).flatten]

def row (widths : List Nat) (edge : Char) (isHead : Bool) (cells : List (List Glyph)) :
    Drawing (List Row) := do
  let drawn ← (widths.zip cells).mapM fun (w, text) => do pure (w, ← cellLines w text)
  let height := (drawn.map fun (_, lines) => lines.length).foldl max 1
  let filled := drawn.map fun (w, lines) => fill w height isHead lines
  pure ((List.range height).map fun i =>
    frame edge edge edge (filled.map fun lines => (lines[i]?).getD []))

def rowAt (widths : List Nat) (g : Grid) (i : Nat) : Drawing (List Row) :=
  row widths (if i = 0 then '┃' else '│') (i = 0)
    (g.columns.map fun column => (column[i]?).getD [])

def height (g : Grid) : Nat := ((g.columns.head?).map List.length).getD 0 - 1

def lines (widths : List Nat) (g : Grid) : Drawing (List Row) := do
  let head ← g.rowAt widths 0
  let rows ← (List.range g.height).mapM fun i => g.rowAt widths (i + 1)
  pure (border '┏' '━' '┳' '┓' widths :: head ++ border '┡' '━' '╇' '┩' widths :: rows.flatten ++
    [border '└' '─' '┴' '┘' widths])

def span (widths : List Nat) : Nat :=
  Numeral.total widths + widths.length + 1

def annotation (span : Nat) (text : List Glyph) : Drawing (List Row) :=
  Wrap.rows { width := span, alignment := .center, styled := true } text

end Grid

end OatImage
