import OatImage.Terminal.Wrap
import OatImage.Value

/-!
# What is shown

Output for a terminal is a sequence of parts: the banner of a tool, section headings, blank
lines, messages of four severities, values and tables. Texts are markup, unless values are to be
shown as they are.
-/
namespace OatImage

inductive Severity
  | success
  | warning
  | error
  | info
deriving DecidableEq, Repr

def Severity.name : Severity → String
  | .success => "success"
  | .warning => "warning"
  | .error => "error"
  | .info => "info"

/-- A table with a title, a caption below it and one style for each of its first columns. -/
structure ShownTable where
  title : String
  columns : List String
  rows : List (List String)
  caption : Option String := none
  styles : Option (List String) := none
deriving DecidableEq, Repr

/-- Values in a row, and how they are put on lines. -/
structure ShownValues where
  items : List Value
  separator : String := " "
  ending : String := "\n"
  /-- Texts are markup. -/
  markup : Bool := true
  /-- Names of emoji in texts stand for the emoji. -/
  emoji : Bool := true
  style : Option String := none
  alignment : Wrap.Alignment := .free
  overflow : Wrap.Overflow := .fold
  /-- Lines are not broken. -/
  unbroken : Bool := false
  /-- A width that is smaller than that of the terminal. -/
  width : Option Nat := none
  /-- What reaches over the edge of the terminal is cut. -/
  cropped : Bool := true
  /-- More than one line starts on a line of its own. -/
  fresh : Bool := false
deriving DecidableEq, Repr

inductive Shown
  | banner (tool version : String)
  | section (title : String)
  | blank
  | message (severity : Severity) (text : String)
  /-- A message that stands only while work goes on. -/
  | status (text : String)
  | values (v : ShownValues)
  | table (t : ShownTable)
deriving DecidableEq, Repr

end OatImage
