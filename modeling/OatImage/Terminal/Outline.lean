import OatImage.Terminal.Cell
import OatImage.Value

/-!
# Outlines

A list or a table that fits a line is written on it. One that does not has its brackets on
lines of their own and between them each item on a line, four cells further in, which again is
a line or an outline.
-/
namespace OatImage.Outline

def step : Nat := 4

def line (indent : Nat) (text : String) : String :=
  String.ofList (Cell.blanks indent ++ text.toList)

/-- The text and what stands behind it fit a line. -/
def fits (width indent : Nat) (text : String) (behind : Nat) : Bool :=
  indent + Cell.count text.toList + behind ≤ width

mutual

/-- The lines of a value. `before` stands in front of it, as a key does, and `comma` behind it;
`behind` is the number of cells that are kept free for what follows. -/
def linesAt (width indent behind : Nat) (before comma : String) : Value → List String
  | .list (item :: items) =>
    let whole := before ++ (Value.list (item :: items)).quoted
    if fits width indent whole behind then [line indent (whole ++ comma)]
    else
      line indent (before ++ "[") ::
        (itemLines width (indent + step) (item :: items) ++ [line indent ("]" ++ comma)])
  | .table (entry :: entries) =>
    let whole := before ++ (Value.table (entry :: entries)).quoted
    if fits width indent whole behind then [line indent (whole ++ comma)]
    else
      line indent (before ++ "\x7b") ::
        (entryLines width (indent + step) (entry :: entries) ++ [line indent ("\x7d" ++ comma)])
  | v => [line indent (before ++ v.quoted ++ comma)]

def itemLines (width indent : Nat) : List Value → List String
  | [] => []
  | [v] => linesAt width indent 2 "" "" v
  | v :: rest => linesAt width indent 2 "" "," v ++ itemLines width indent rest

def entryLines (width indent : Nat) : List (String × Value) → List String
  | [] => []
  | [(k, v)] => linesAt width indent 2 (Quoted.text k ++ ": ") "" v
  | (k, v) :: rest =>
    linesAt width indent 2 (Quoted.text k ++ ": ") "," v ++ entryLines width indent rest

end

def lines (width : Nat) (v : Value) : List String := linesAt width 0 0 "" "" v

end OatImage.Outline
