import OatImage.Console
import OatImage.Terminal.Grid
import OatImage.Terminal.Portion

/-!
# Screens

What is printed is rendered for a terminal of a width as lines of text; styles are not part of
them, but they have to be styles. A rule has its title in the middle. A panel is a box over the
whole width, its text in the middle as one block. A terminal without width shows nothing; the
markup of a rule or a table is not even read then.
-/
namespace OatImage.Screen

/-- What is drawn on a terminal that has a width. -/
def onWidth (width : Nat) (draw : Drawing (List Row)) : Drawing String :=
  if width = 0 then .ok "" else do Row.cropped width (Row.ended (← draw))

/-- The title of a rule on one line, at least four cells shorter than the rule. -/
def ruleTitle (width : Nat) (title : List Glyph) : Drawing (List Glyph) :=
  let flat := title.map fun g => if g.char = '\n' then { g with char := ' ' } else g
  Wrap.cut (width - 4) .ellipsis (Wrap.withoutTabs true flat)

def rule (width : Nat) (title : List Glyph) : Drawing (List Row) := do
  let bar (n : Nat) : List Char := List.replicate n '─'
  if width ≤ 4 then pure [[bar width]]
  else
    let title ← ruleTitle width title
    let side := (width - Glyph.count title) / 2
    let left := bar (side - 1)
    let right := bar (min (side + 1) (width - left.length - Glyph.count title))
    let whole ← Glyph.fit
      (Glyph.within 0 (Glyph.plain (left ++ [' '])) ++ Glyph.within 1 title ++
        Glyph.within 2 (Glyph.plain (' ' :: right))) width
    Wrap.rows { width } whole

/-- The columns of a table: the heads and the cells below them. Missing cells are empty, and
cells beyond the last head make columns without a head. -/
def columns (t : ShownTable) : List (List String) :=
  let count := (t.rows.map List.length).foldl max t.columns.length
  (List.range count).map fun i =>
    (t.columns[i]?).getD "" :: t.rows.map fun cells => (cells[i]?).getD ""

/-- The style of a column has to be one. -/
def checkStyle (t : ShownTable) (i : Nat) : Drawing Unit :=
  if i < t.columns.length then Style.check (((t.styles.getD [])[i]?).getD "") else .ok ()

/-- A title or a caption over the width of a table; no line for no text. -/
def annotation (span : Nat) (markup : String) : Drawing (List Row) :=
  if markup.isEmpty then .ok []
  else do Grid.annotation span (← Markup.shown true markup)

/-- A column as it is shown in a room. Without room for a single cell its texts are not read,
and without any room its style is not checked. -/
def column (room : Nat) (t : ShownTable) (i : Nat) (texts : List String) : Drawing Column := do
  if room = 0 then pure (texts.map fun _ => [])
  else
    checkStyle t i
    if room < 3 then pure (texts.map fun _ => []) else texts.mapM (Markup.shown true)

/-- A table. One without columns is a blank line. -/
def table (width : Nat) (t : ShownTable) : Drawing (List Row) := do
  let texts := columns t
  if texts = [] then pure [[]]
  else
    let room := width - (texts.length + 1)
    let places := texts.zipIdx
    let g : Grid := ⟨← places.mapM fun (column, i) => Screen.column room t i column⟩
    let widths := Grid.widths room g.columns
    let span := Grid.span widths
    let title ← annotation span t.title
    places.forM fun (_, i) => checkStyle t i
    let body ← g.lines widths
    let caption ← annotation span (t.caption.getD "")
    pure (title ++ body ++ caption)

def box (width : Nat) (body : List Glyph) : Drawing (List Row) := do
  let inner := width - 6
  let rows ← if inner = 0 then pure []
    else Wrap.rows { width := min inner (Wrap.longest body) } body
  let placed ← Wrap.place inner .center rows
  let inside ← placed.mapM fun r => do
    let r ← Row.fit inner r
    Row.fit (width - 2) ([Cell.blanks 2] ++ r ++ [Cell.blanks 2])
  let bar := List.replicate (width - 2) '─'
  pure (['╭' :: bar ++ ['╮']] :: inside.map (fun r => ['│'] :: r ++ [['│']]) ++
    [['╰' :: bar ++ ['╯']]])

def panel (width : Nat) (body : String) : Drawing String := do
  let body ← Markup.shown true body
  onWidth width (box width body)

def draw (width : Nat) : Printed → Drawing String
  | .panel body => panel width body
  | .rule title => onWidth width do rule width (← Markup.shown true title)
  | .status text => do
    let _ ← Markup.shown true text
    pure ""
  | .values v => Portion.text width v
  | .table t => onWidth width (table width t)

/-- The text that is printed on a terminal of a width. -/
def text (width : Nat) (ps : List Printed) : Drawing String := do
  pure (String.join (← ps.mapM (draw width)))

/-- A terminal of a width. Every line that it prints ends in a line feed. -/
def terminal (width : Nat) : Terminal ScreenFault where
  escape := Markup.escape
  print ps := do pure (((← text width ps).splitOn "\n").dropLast)

end OatImage.Screen
