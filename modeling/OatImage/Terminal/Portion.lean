import OatImage.Terminal.Markup
import OatImage.Terminal.Outline
import OatImage.Terminal.Shown

/-!
# Values in a row

Values in a row are drawn in portions: texts that follow each other make one portion, a list or a
table makes one by itself. Every text is read before anything is drawn. A portion is wrapped; it
may be moved to a side or to the middle as a block.
-/
namespace OatImage

/-- What is drawn of values in a row: texts that are joined, or a list or a table by itself. -/
inductive Portion
  | joined (text : List Glyph)
  | outline (value : Value)
deriving DecidableEq, Repr

namespace Portion

def textRows (v : ShownValues) (width : Nat) (text : List Glyph) : Drawing (List Row) :=
  Wrap.rows
    { width, overflow := v.overflow, alignment := v.alignment, unbroken := v.unbroken } text

/-- The text of one value in a row; a list or a table has none. -/
def itemText? (v : ShownValues) : Value → Drawing (Option (List Glyph))
  | .text s =>
    if v.markup then some <$> Markup.shown v.emoji s
    else .ok (some (Glyph.plain (Markup.plain v.emoji s.toList)))
  | .list _ | .table _ => .ok none
  | other => .ok (some (Glyph.plain (Markup.plain false other.plain.toList)))

/-- Texts with the separator between them, in front of other portions. -/
def join (v : ShownValues) (texts : List (List Glyph)) (rest : List Portion) : List Portion :=
  let separator := Glyph.plain (Markup.plain false v.separator.toList)
  if texts = [] then rest else .joined (texts.intersperse separator).flatten :: rest

/-- The portions of values in a row. `texts` are those read last, reversed. -/
def portions (v : ShownValues) (texts : List (List Glyph)) :
    List Value → Drawing (List Portion)
  | [] => .ok (join v texts.reverse [])
  | item :: rest => do
    match ← itemText? v item with
    | some text => portions v (text :: texts) rest
    | none =>
      let more ← portions v [] rest
      pure (join v texts.reverse (.outline item :: more))

/-- The lines of an outline, as one text. -/
def outlineText (width : Nat) (value : Value) : List Glyph :=
  Glyph.plain ("\n".intercalate (Outline.lines width value)).toList

/-- The rows of a portion that is not moved; the ending stands behind a text. -/
def rows (v : ShownValues) (width : Nat) : Portion → Drawing (List Row)
  | .joined text => do
    let ending := (Wrap.splitLines (Glyph.plain v.ending.toList)).map Glyph.runs
    pure (Row.join (← textRows v width text) ending)
  | .outline value => do
    let v := { v with unbroken := false }
    pure (Row.ended (← textRows v width (outlineText width value)))

def cells (width : Nat) : Portion → Nat
  | .joined text => min width (Wrap.longest text)
  | .outline value => min width (Wrap.longest (outlineText width value))

/-- The rows without the last one if nothing stands on it. -/
def dropEmptyEnd (rows : List Row) : List Row :=
  if rows.getLast?.any fun r => r.all List.isEmpty then rows.dropLast else rows

/-- Rows stay where they are unless they are to stand at a side or in the middle. -/
def staysInPlace (v : ShownValues) : Bool := v.alignment = .free || v.alignment = .full

/-- The rows of a portion. One that is moved is as wide as its longest line and is moved as a
block; without such a line it is not shown. -/
def drawn (v : ShownValues) (width : Nat) (p : Portion) : Drawing (List Row) :=
  if staysInPlace v then rows v width p
  else
    match cells width p with
    | 0 => .ok []
    | size => do
      pure (Row.ended (← Wrap.place width v.alignment (dropEmptyEnd (← rows v size p))))

/-- The rows of portions, one blank row for none. -/
def drawnAll (v : ShownValues) (width : Nat) (ps : List Portion) : Drawing (List Row) := do
  if ps = [] then
    if staysInPlace v then pure (Row.ended [[]])
    else pure (Row.ended (← Wrap.place width v.alignment [[]]))
  else pure ((← ps.mapM (drawn v width)).foldl Row.join [])

/-- The text of values in a row; no value is a blank line. -/
def text (width : Nat) (v : ShownValues) : Drawing String := do
  let portions ← portions v [] v.items
  (v.style.map Style.check).getD (.ok ())
  let room := min width (v.width.getD width)
  if room = 0 then pure ""
  else
    let rows ← drawnAll v room portions
    let isLong := 1 < (dropEmptyEnd rows).length
    let rows := if v.fresh && isLong then [] :: rows else rows
    if v.cropped then Row.cropped width rows else pure (Row.text rows)

end Portion

end OatImage
