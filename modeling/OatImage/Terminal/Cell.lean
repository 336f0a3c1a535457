import OatImage.Terminal.CellTables
import OatImage.Terminal.ScreenFault
import OatImage.Text.Ranges

/-!
# Cells

A terminal shows a character in no cell, one cell or two. A character without a cell belongs
to the one before it. A joiner merges the character after it into the one before, and a
variation selector gives two cells to a character that may be shown as a picture. Text is
measured as a whole and cut in clusters, each a run of characters that are shown together. At
the head of a text a joiner has nothing to merge into: measured it still takes the character
after it, cut it stands alone.
-/
namespace OatImage.Cell

def width (c : Char) : Nat :=
  let n := c.toNat
  if 0x20 ≤ n && n < 0x7F then 1
  else if Ranges.holds emptyRanges n then 0
  else if Ranges.holds wideRanges n then 2
  else 1

def isPicture (c : Char) : Bool := Ranges.holds pictureRanges c.toNat

/-- The number of cells of a text. `picture` says that the character measured last may still
become a picture. -/
def countFrom (picture : Bool) : List Char → Nat
  | [] => 0
  | '\u200d' :: _ :: rest => countFrom picture rest
  | c :: rest =>
    if c = '\u200d' then 0
    else if c = '\ufe0f' then (if picture then 1 else 0) + countFrom false rest
    else if width c = 0 then countFrom picture rest
    else width c + countFrom (isPicture c) rest

def count (text : List Char) : Nat := countFrom false text

/-- Characters that are shown together, and the number of cells they take. -/
structure Cluster where
  chars : List Char
  cells : Nat
deriving DecidableEq, Repr

/-- Adds characters to the end of the last cluster, the first of a reversed list, or makes
them a cluster of no cells. -/
def attach (done : List Cluster) (chars : List Char) (more : Nat) : List Cluster :=
  match done with
  | [] => [⟨chars, 0⟩]
  | last :: rest => ⟨last.chars ++ chars, last.cells + more⟩ :: rest

/-- The clusters of a text, added to those in front of it, the last one first. `picture`
says that the character measured last may still become a picture. -/
def clustersFrom (done : List Cluster) (picture : Bool) : List Char → List Cluster
  | [] => done.reverse
  | '\u200d' :: next :: rest =>
    if done.isEmpty then clustersFrom [⟨['\u200d'], 0⟩] picture (next :: rest)
    else clustersFrom (attach done ['\u200d', next] 0) picture rest
  | c :: rest =>
    if c = '\u200d' then clustersFrom (attach done [c] 0) picture rest
    else if c = '\ufe0f' then
      clustersFrom (attach done [c] (if picture then 1 else 0)) false rest
    else
      match width c with
      | 0 => clustersFrom (attach done [c] 0) picture rest
      | cells => clustersFrom (⟨[c], cells⟩ :: done) (isPicture c) rest
termination_by text => text.length

def clusters (text : List Char) : List Cluster := clustersFrom [] false text

def total (cs : List Cluster) : Nat := Numeral.total (cs.map Cluster.cells)

def blanks (n : Nat) : List Char := List.replicate n ' '

/-- Clusters that take a number of cells, if there are that many. Half of a cluster is shown as
a blank. -/
def takeCells : (cells : Nat) → List Cluster → Option (List Char)
  | 0, _ => some []
  | _ + 1, [] => none
  | cells + 1, c :: rest =>
    if c.cells ≤ cells + 1 then
      (takeCells (cells + 1 - c.cells) rest).map fun more => c.chars ++ more
    else some (blanks (cells + 1))

def cut (text : List Char) (cells : Nat) : Drawing (List Char) :=
  match takeCells cells (clusters text) with
  | some taken => .ok taken
  | none => .error (if total (clusters text) = 0 then .noCells else .pastEnd)

/-- The text cut or filled with blanks to a number of cells. -/
def fit (text : List Char) (cells : Nat) : Drawing (List Char) :=
  let size := count text
  if cells = 0 then .ok []
  else if size ≤ cells then .ok (text ++ blanks (cells - size))
  else cut text cells

/-- Clusters in pieces of at most `limit` cells; `piece` is the piece begun, of `used` cells.
A piece without cells at the end is left out. -/
def chopClusters (limit : Nat) (piece : List Char) (used : Nat) : List Cluster → List (List Char)
  | [] => if used = 0 then [] else [piece]
  | c :: rest =>
    if limit < used + c.cells then piece :: chopClusters limit c.chars c.cells rest
    else chopClusters limit (piece ++ c.chars) (used + c.cells) rest

/-- The text in pieces of at most `limit` cells. -/
def chop (text : List Char) (limit : Nat) : List (List Char) :=
  chopClusters limit [] 0 (clusters text)

end OatImage.Cell
