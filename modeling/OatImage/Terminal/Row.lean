import OatImage.Terminal.Cell

/-!
# Rows

A row of the screen is a sequence of runs. Each run is measured and cut by itself. In a list of
rows a line feed ends every row but the last.
-/
namespace OatImage

abbrev Row := List (List Char)

namespace Row

def count (r : Row) : Nat := Numeral.total (r.map Cell.count)

/-- The first runs, as many as take a number of cells; the last of them is cut or filled. -/
def cut : (cells : Nat) → Row → Drawing Row
  | _, [] => .ok []
  | cells, run :: rest =>
    let size := Cell.count run
    if size < cells then (cut (cells - size) rest).map fun more => run :: more
    else (Cell.fit run cells).map fun run => [run]

def crop (width : Nat) (r : Row) : Drawing Row :=
  if r.count ≤ width then .ok r else cut width r

/-- The row cut or filled with blanks to a number of cells. -/
def fit (width : Nat) (r : Row) : Drawing Row :=
  if r.count < width then .ok (r ++ [Cell.blanks (width - r.count)]) else crop width r

/-- The cells of the longest row. -/
def widest (rows : List Row) : Nat := (rows.map count).foldl max 0

/-- Rows behind rows: the first of them goes on with the last of those in front. -/
def join : List Row → List Row → List Row
  | [], more => more
  | [last], first :: rest => (last ++ first) :: rest
  | row :: rest, more => row :: join rest more

def ended (rows : List Row) : List Row := rows ++ [[]]

def block (rows : List Row) : Drawing (List Row) := rows.mapM (fit (widest rows))

def text (rows : List Row) : String :=
  String.ofList ((rows.map List.flatten).intersperse ['\n']).flatten

/-- The text of rows that are cut at the edge of the screen. -/
def cropped (width : Nat) (rows : List Row) : Drawing String := do
  pure (text (← rows.mapM (crop width)))

end Row

end OatImage
