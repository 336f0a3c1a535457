import OatImage.Text.Quoted

/-!
# Failures to show

Markup may close what is not open, a style may not be one, and a text with joined characters
may have fewer cells to cut than it was measured with.
-/
namespace OatImage

/-- Why something cannot be shown. -/
inductive ScreenFault
  /-- A tag closes what is not open. -/
  | unmatched (tag : String) (position : Nat)
  /-- A tag closes the last open one where none is open. -/
  | nothingToClose (position : Nat)
  /-- The parameters of an action cannot be read. -/
  | badAction (read whole why : String)
  | missingStyle (name why : String)
  /-- A number of a colour without digits. -/
  | badNumber (text : String)
  /-- A text is cut behind its last cell. -/
  | pastEnd
  /-- A text without cells is cut. -/
  | noCells
deriving DecidableEq, Repr

def ScreenFault.message : ScreenFault → String
  | .unmatched tag position =>
    "closing tag '[" ++ tag ++ "]' at position " ++ Numeral.decimal position ++
      " doesn't match any open tag"
  | .nothingToClose position =>
    "closing tag '[/]' at position " ++ Numeral.decimal position ++ " has nothing to close"
  | .badAction read whole why =>
    "error parsing " ++ Quoted.text read ++ " in " ++ Quoted.text whole ++ "; " ++ why
  | .missingStyle name why => "Failed to get style " ++ Quoted.text name ++ "; " ++ why
  | .badNumber text => "invalid literal for int() with base 10: " ++ Quoted.text text
  | .pastEnd => "list index out of range"
  | .noCells => "division by zero"

abbrev Drawing := Except ScreenFault

end OatImage
