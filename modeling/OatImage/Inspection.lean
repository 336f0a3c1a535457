import OatImage.Log.Template
import OatImage.Lookup
import OatImage.Report

/-!
# Inspections of files

An inspection loads a file and makes its report; the journal says when it started and ended, and
how many seconds it took.
-/
namespace OatImage

namespace LoadSettings

/-- A step with a line before and a line after it. -/
def timed {α : Type} (label : String) (elapsed : Double) (step : Logged α) : Logged α :=
  let begun : Entry := { level := .debug, message := Text.ofString ("Started: " ++ label) }
  let ended : Entry :=
    { level := .debug
      message := Text.ofString
        ("Completed: " ++ label ++ " (" ++ Log.Template.seconds elapsed ++ " sec)") }
  ⟨begun :: step.entries ++ [ended], step.outcome⟩

def closingLine (r : Report) : String :=
  "Inspection complete: OAT " ++ r.header.version ++ " | " ++ r.header.instructionSet.name ++
    " | dex files: " ++ Numeral.decimal r.files.length ++ "/" ++
    Numeral.decimal r.header.dexFileCount

def inspectFile (s : LoadSettings) (path : String) (content : Option ByteArray)
    (elapsed : Double) : Logged Report := do
  let loaded ← s.loadFile path content
  let report ← timed ("inspect " ++ path) elapsed (Report.build loaded)
  Logged.write { level := .info, message := Text.ofString (closingLine report) }
  pure { report with path := (FilePath.ofString path).resolved.text }

def lookUpFile (s : LoadSettings) (path : String) (content : Option ByteArray)
    (descriptor name signature : Text) (location : Option Text) : Logged Lookup := do
  let loaded ← s.loadFile path content
  Lookup.runText loaded.image descriptor name signature location

end LoadSettings

end OatImage
